/-
Postfix lines word by word.

* `fixedWords`: the words with a meaning of their own, which are looked at first.
* `Reserved`: the names that postfix lines have another use for, as such words or as numbers.
* `runWord_of_identifier`, `runWord_naturalText`, `runWord_store`: what names, numbers and the words
  that bind names do.
* `runWords_append`: words after words.
* `toValue_of_value?`: which results are integers.
-/
import LineRepl.Proofs.Binary64.Exact
import LineRepl.Proofs.Binary64.Reading
import LineRepl.Proofs.Calc.Identifier
import LineRepl.Rpn

namespace LineRepl.Rpn

open Binary64 (Spelled ofText?)
open Calc (Identifier)
open Text (Word)

/-! ### What a word asks for -/

/-- The words with a meaning of their own. -/
def fixedWords : List String := ["+", "-", "*", "/", "dup", "swap"]

section

variable {text : String} {c : Char} {cs : List Char}

/-- A word with another first character is none of them. -/
lemma notMem_fixedWords (htext : text.toList = c :: cs)
    (hc : ∀ other ∈ fixedWords, other.toList.head? ≠ some c) : text ∉ fixedWords :=
  fun hmem => hc text hmem (by rw [htext, List.head?_cons])

/-- Other words are pushed if they do not start with an equals sign. -/
lemma ofText_eq_push (htext : text.toList = c :: cs) (hfixed : text ∉ fixedWords) (hc : c ≠ '=') :
    Instruction.ofText text = .push text := by
  simp only [fixedWords, List.mem_cons, List.not_mem_nil, or_false, not_or] at hfixed
  simp [Instruction.ofText, hfixed, htext, hc]

/-- An equals sign with characters after it binds the name that they spell. -/
lemma ofText_eq_store (htext : text.toList = '=' :: c :: cs) :
    Instruction.ofText text = .store (String.ofList (c :: cs)) := by
  have hfixed : text ∉ fixedWords := notMem_fixedWords htext (by decide)
  simp only [fixedWords, List.mem_cons, List.not_mem_nil, or_false, not_or] at hfixed
  simp [Instruction.ofText, hfixed, htext]

/-- What is pushed is the word itself. -/
lemma eq_text_of_ofText {pushedText : String} (h : Instruction.ofText text = .push pushedText) :
    pushedText = text := by
  rw [Instruction.ofText] at h
  split_ifs at h
  split at h <;> cases h
  rfl

end

lemma runWord_of_pushed {word : Word} {b : Bindings} {x : Binary64}
    (hinstruction : Instruction.ofText word.text = .push word.text)
    (hx : pushed word.text b = .ok x) (stack : List Binary64) :
    runWord word stack b = .ok (x :: stack, b) := by
  rw [runWord.eq_def, hinstruction]
  simp only [hx, Except.map]

/-! ### Names -/

/-- The name has another use in postfix lines: it works on the stack, or it is a number. -/
def Reserved (name : String) : Prop := name = "dup" ∨ name = "swap" ∨ Spelled name

instance (name : String) : Decidable (Reserved name) :=
  inferInstanceAs (Decidable (_ ∨ _ ∨ _))

section

variable {name : String}

lemma ne_of_isNameStart {c d : Char} (hc : Text.isNameStart c = true)
    (hd : Text.isNameStart d = false) : c ≠ d := by
  rintro rfl
  exact nomatch hc.symm.trans hd

/-- A name is read as a number only if it is the name of one. -/
lemma ofText?_of_identifier (h : Identifier name) (hreserved : ¬ Reserved name) :
    ofText? name = none := by
  obtain ⟨c, cs, htext, hstart, -⟩ := Calc.identifier_iff.mp h
  have hminus : c ≠ '-' := ne_of_isNameStart hstart (by decide +kernel)
  have hplus : c ≠ '+' := ne_of_isNameStart hstart (by decide +kernel)
  have hpoint : c ≠ '.' := ne_of_isNameStart hstart (by decide +kernel)
  have hdigit := Text.isDigit_eq_false_of_isNameStart hstart
  have hdecimal : Binary64.decimal? (c :: cs) = none := by
    simp [Binary64.decimal?, hdigit, hpoint]
  rw [Binary64.ofText?_of_unsigned htext hminus hplus fun hs => hreserved (.inr (.inr hs)),
    hdecimal, Option.map_none]

lemma ofText_of_identifier (h : Identifier name) (hreserved : ¬ Reserved name) :
    Instruction.ofText name = .push name := by
  obtain ⟨c, cs, htext, hstart, -⟩ := Calc.identifier_iff.mp h
  have hfixed : ∀ text ∈ fixedWords, ¬ (Identifier text ∧ ¬ Reserved text) := by decide +kernel
  exact ofText_eq_push htext (fun hmem => hfixed name hmem ⟨h, hreserved⟩)
    (ne_of_isNameStart hstart (by decide +kernel))

/-- Any other name pushes the number that it is bound to. -/
lemma runWord_of_identifier {word : Word} {b : Bindings} {v : Value} {x : Binary64}
    (h : Identifier word.text) (hreserved : ¬ Reserved word.text)
    (hv : b.get? word.text = some v) (hx : v.toBinary64? = some x) (stack : List Binary64) :
    runWord word stack b = .ok (x :: stack, b) := by
  refine runWord_of_pushed (ofText_of_identifier h hreserved) ?_ stack
  rw [pushed, ofText?_of_identifier h hreserved]
  simp only [hv, hx]

/-- A word that starts with an equals sign moves the top of the stack into a binding. -/
lemma runWord_store {word : Word} {x : Binary64} {stack : List Binary64} {b : Bindings}
    (hword : word.text = "=" ++ name) (hname : name.toList ≠ []) :
    runWord word (x :: stack) b = .ok (stack, b.set name (toValue x)) := by
  obtain ⟨c, cs, htext⟩ := List.exists_cons_of_ne_nil hname
  have hwordText : word.text.toList = '=' :: c :: cs := by
    rw [hword, String.toList_append, htext]
    rfl
  rw [runWord.eq_def, ofText_eq_store hwordText, ← htext, String.ofList_toList]

end

/-! ### Numbers -/

/-- A natural number that is written in decimal pushes the nearest number. -/
lemma runWord_naturalText {word : Word} {n : ℕ} (hword : word.text = naturalText n)
    (hn : decimalLength n ≤ 309) (stack : List Binary64) (b : Bindings) :
    runWord word stack b = .ok (.ofInt n :: stack, b) := by
  obtain ⟨c, cs, htext⟩ := List.exists_cons_of_ne_nil (Binary64.toList_naturalText_ne_nil n)
  have hc : c.isDigit = true :=
    Binary64.isDigit_of_mem_naturalText (htext ▸ List.mem_cons_self)
  have hdigits : ∀ other ∈ fixedWords, other.toList.head?.any Char.isDigit = false := by decide
  have hfixed : naturalText n ∉ fixedWords := by
    refine notMem_fixedWords htext fun other hother hhead => ?_
    have hdigit := hdigits other hother
    rw [hhead, Option.any_some, hc] at hdigit
    cases hdigit
  have hequals : c ≠ '=' := by
    rintro rfl
    exact nomatch hc
  refine runWord_of_pushed (hword ▸ ofText_eq_push htext hfixed hequals) ?_ stack
  rw [pushed, hword, Binary64.ofText?_naturalText hn]

/-- A result that is a whole number of less than 64 binary digits is an integer. -/
lemma toValue_of_value? {x : Binary64} {n : ℤ} (hx : x.value? = some (n : ℚ)) :
    toValue x = if n.natAbs < 2 ^ 63 then .int (Int64.ofInt n) else .float x := by
  rw [toValue, Binary64.toInt?_eq_some_iff.mpr hx]
  rfl

/-! ### Words after words -/

lemma runWords_append (ws ws' : List Word) (stack : List Binary64) (b : Bindings) :
    runWords (ws ++ ws') stack b =
      match runWords ws stack b with
      | (.error e, b) => (.error e, b)
      | (.ok stack, b) => runWords ws' stack b := by
  induction ws generalizing stack b with
  | nil => rfl
  | cons word ws ih =>
      rw [List.cons_append, runWords.eq_def, runWords.eq_def (word :: ws)]
      simp only
      rcases runWord word stack b with e | ⟨stack, b⟩
      · rfl
      · exact ih stack b

end LineRepl.Rpn
