/-
Numbers as values, and values as numbers again.

Postfix lines compute with binary64 numbers, and answer and bind integers where they can. A number
that is bound and pushed again has gone there and back.

* `converted`: the conversion by the operations of binary64 alone.
* `toValue_of_whole`, `toValue_of_not_whole`: which numbers become integers.
* `toBinary64?_toValue`: what comes back is the number, but for the sign of a zero.
* `IsName`: the words that push what they are bound to.
* `Restores`: what is stored under a name is pushed by it, also at the end of a line.
* `toValue_lossless`: the conversion loses nothing, and neither do the bindings.
-/
import LineRepl.Proofs.Binary64.Truncation
import LineRepl.Proofs.Rpn.Ending
import LineRepl.Proofs.Rpn.Sharing

namespace LineRepl.Rpn

open Binary64 (ofText? value?_zero unsignedZero_of_ne)
open Calc (Identifier)
open Text (IsWord Word words wordTexts)

/-! ### Conversion -/

/-- The number as a value, by operations of binary64. The magnitude is compared with that of the
greatest integer, and the conversion to an integer stops at the least and at the greatest one. -/
def converted (x : Binary64) : Value :=
  if x.fract.isZero && x.abs.lt (.ofInt Int64.maxValue.toInt) then .int x.toInt64 else .float x

section

variable {x : Binary64} {n : ℤ}

/-- A whole number of a magnitude below `2 ^ 63` becomes its integer. -/
lemma toValue_of_whole (hx : x.value? = some (n : ℚ)) (hn : n.natAbs < 2 ^ 63) :
    toValue x = .int (Int64.ofInt n) := by
  rw [toValue_of_value? hx, if_pos hn]

/-- Any other number stays what it is. -/
lemma toValue_of_not_whole
    (h : ¬ ∃ n : ℤ, x.value? = some (n : ℚ) ∧ n.natAbs < 2 ^ 63) : toValue x = .float x := by
  rw [toValue]
  split
  next n hn =>
    have hx := Binary64.toInt?_eq_some_iff.mp hn
    exact if_neg fun hsmall => h ⟨n, hx, hsmall⟩
  next => rfl

lemma toInt_ofInt_of_natAbs_lt (hn : n.natAbs < 2 ^ 63) : (Int64.ofInt n).toInt = n :=
  Int64.toInt_ofInt_of_le (by omega) (by omega)

/-- The comparison and the conversion have rough edges at `2 ^ 63`, which do not show. -/
lemma converted_eq_toValue (x : Binary64) : converted x = toValue x := by
  by_cases hwhole : ∃ n : ℤ, x.value? = some (n : ℚ)
  · obtain ⟨n, hn⟩ := hwhole
    have hrange : x.abs.lt (.ofInt Int64.maxValue.toInt) = true ↔ n.natAbs < 2 ^ 63 := by
      rw [Binary64.abs_lt_iff hn, ← Int.cast_abs, Int.abs_eq_natAbs]
      norm_cast
    rw [converted, Binary64.isZero_fract_iff.mpr ⟨n, hn⟩, Bool.true_and, toValue_of_value? hn]
    simp only [hrange]
    split_ifs with hsmall
    · rw [Binary64.toInt64_of_value? hn hsmall]
    · rfl
  · have hfract : x.fract.isZero = false :=
      Bool.eq_false_iff.mpr fun h => hwhole (Binary64.isZero_fract_iff.mp h)
    have hnot : ¬ ∃ n : ℤ, x.value? = some (n : ℚ) ∧ n.natAbs < 2 ^ 63 := by
      rintro ⟨n, hn, -⟩
      exact hwhole ⟨n, hn⟩
    rw [toValue_of_not_whole hnot, converted, hfract]
    rfl

/-- What comes back from a value is the number, but for the sign of a zero. -/
lemma toBinary64?_toValue (x : Binary64) : (toValue x).toBinary64? = some x.unsignedZero := by
  by_cases h : ∃ n : ℤ, x.value? = some (n : ℚ) ∧ n.natAbs < 2 ^ 63
  · obtain ⟨n, hx, hn⟩ := h
    rw [toValue_of_whole hx hn, Value.toBinary64?, toInt_ofInt_of_natAbs_lt hn,
      Binary64.ofInt_of_value? hx (by omega)]
  · have hzero : x ≠ Binary64.zero true := by
      rintro rfl
      exact h ⟨0, by exact_mod_cast value?_zero true, by decide⟩
    rw [toValue_of_not_whole h, Value.toBinary64?, unsignedZero_of_ne hzero]

/-- Both zeros have one value. -/
lemma toValue_unsignedZero (x : Binary64) : toValue x.unsignedZero = toValue x := by
  rw [Binary64.unsignedZero]
  split_ifs with hzero
  · rw [hzero]
    rfl
  · rfl

end

/-! ### Names -/

/-- The word is a name: it has no meaning of its own, binds nothing and is no number. -/
structure IsName (text : String) : Prop where
  isWord : IsWord text
  not_fixed : text ∉ fixedWords
  not_stores : ¬ Stores text
  not_number : ofText? text = none

section

variable {name : String}

lemma IsName.runWord (h : IsName name) {word : Word} (hword : word.text = name) {b : Bindings}
    {v : Value} {x : Binary64} (hv : b.get? name = some v) (hx : v.toBinary64? = some x)
    (stack : List Binary64) : runWord word stack b = .ok (x :: stack, b) := by
  subst hword
  refine runWord_of_pushed (ofText_of_not_stores h.not_fixed h.not_stores) ?_ stack
  rw [pushed, h.not_number]
  simp only [hv, hx]

/-- A word that is pushed has no meaning of its own and binds nothing: it takes no operand. -/
lemma not_fixed_and_not_stores_of_ofText {text pushedText : String}
    (h : Instruction.ofText text = .push pushedText) :
    text ∉ fixedWords ∧ ¬ Stores text ∧ pushedText = text := by
  have hneed : need text = 0 := by
    rw [(need_and_effect_eq text).1, h]
    rfl
  have hfixed : text ∉ fixedWords := by
    have hall : ∀ text ∈ fixedWords, need text ≠ 0 := by decide
    exact fun hmem => hall text hmem hneed
  have hstores : ¬ Stores text := by
    intro hstores
    rw [need] at hneed
    split_ifs at hneed with hbinary hunary
    exact hunary (.inr hstores)
  rw [ofText_of_not_stores hfixed hstores] at h
  exact ⟨hfixed, hstores, (Instruction.push.inj h).symm⟩

/-- A word that is no name does the same to the stack whatever is bound. -/
lemma map_fst_runWord_of_not_isName {word : Word} (hword : IsWord word.text)
    (h : ¬ IsName word.text) (stack : List Binary64) (b b' : Bindings) :
    (runWord word stack b).map Prod.fst = (runWord word stack b').map Prod.fst := by
  rw [runWord.eq_def, runWord.eq_def]
  cases hinstruction : Instruction.ofText word.text with
  | push text =>
      obtain ⟨hfixed, hstores, rfl⟩ := not_fixed_and_not_stores_of_ofText hinstruction
      cases hnumber : ofText? word.text with
      | none => exact absurd ⟨hword, hfixed, hstores, hnumber⟩ h
      | some x =>
          simp only [pushed, hnumber]
          rfl
  | div =>
      rcases stack with _ | ⟨y, _ | ⟨x, rest⟩⟩
      · rfl
      · rfl
      · simp only
        split <;> rfl
  | add | sub | mul | swap | dup | store name =>
      rcases stack with _ | ⟨y, _ | ⟨x, rest⟩⟩ <;> rfl

/-! ### Stored numbers -/

/-- Numbers can be stored under the word, and it pushes them if it is a name. -/
structure Restores (name : String) : Prop where
  /-- The word that stores a number binds the name to its value. -/
  stored : ∀ (word : Word) x stack b, word.text = "=" ++ name →
    runWord word (x :: stack) b = .ok (stack, b.set name (toValue x)) ∧
      (b.set name (toValue x)).get? name = some (toValue x)
  /-- As long as the name is bound to the value, it pushes the number, but for the sign of a
  zero. -/
  pushed : IsName name → ∀ (word : Word) x stack b, word.text = name →
    b.get? name = some (toValue x) → runWord word stack b = .ok (x.unsignedZero :: stack, b)
  /-- Any line can be continued by both words. -/
  spelled : ∀ line, wordTexts (" ".intercalate (wordTexts line ++ ["=" ++ name, name])) =
    wordTexts line ++ ["=" ++ name, name]
  /-- A line that has a value still has it then, and binds the name to it. -/
  answered : IsName name → ∀ line line' w v, (evalLine line w).1 = .value v →
    wordTexts line' = wordTexts line ++ ["=" ++ name, name] →
    evalLine line' w = (.value v, (evalLine line w).2.bind name v)
  /-- A word that is no name does not look at what is bound to it. -/
  unread : ¬ IsName name → ∀ (word : Word) stack b b', word.text = name →
    (runWord word stack b).map Prod.fst = (runWord word stack b').map Prod.fst

lemma stored_of_isWord (h : IsWord name) {word : Word} (hword : word.text = "=" ++ name)
    (x : Binary64) (stack : List Binary64) (b : Bindings) :
    runWord word (x :: stack) b = .ok (stack, b.set name (toValue x)) ∧
      (b.set name (toValue x)).get? name = some (toValue x) :=
  ⟨runWord_store hword h.1, Bindings.get?_set_self _ _ _⟩

/-- Behind words that leave a number, it is stored and pushed again. -/
lemma runWords_store_push (h : IsName name) {ws : List Word} {store push : Word}
    (hstore : store.text = "=" ++ name) (hpush : push.text = name) {b b' : Bindings}
    {x : Binary64} {stack : List Binary64} (hws : runWords ws [] b = (.ok (x :: stack), b')) :
    runWords (ws ++ [store, push]) [] b =
      (.ok (x.unsignedZero :: stack), b'.set name (toValue x)) := by
  obtain ⟨hstored, hbound⟩ := stored_of_isWord h.isWord hstore x stack b'
  have hpushed := h.runWord hpush hbound (toBinary64?_toValue x) stack
  rw [runWords_append, hws]
  simp only [runWords, hstored, hpushed]

lemma evalLine_store_push (h : IsName name) {line line' : String} {w : Workspace} {v : Value}
    (hvalue : (evalLine line w).1 = .value v)
    (hline' : wordTexts line' = wordTexts line ++ ["=" ++ name, name]) :
    evalLine line' w = (.value v, (evalLine line w).2.bind name v) := by
  rcases hrun : runWords (words line) [] w.bindings with ⟨outcome, b⟩
  have hline := evalLine_of_runWords hrun
  rw [hline] at hvalue ⊢
  obtain ⟨x, stack, rfl, rfl⟩ : ∃ x stack, outcome = .ok (x :: stack) ∧ toValue x = v := by
    rcases outcome with e | _ | ⟨x, stack⟩
    · cases hvalue
    · cases hvalue
    · exact ⟨x, stack, rfl, Reply.value.inj hvalue⟩
  obtain ⟨ws, added, hwords, hws, hadded⟩ := List.map_eq_append_iff.mp hline'
  obtain ⟨store, rest, rfl, hstore, hrest⟩ := List.map_eq_cons_iff.mp hadded
  obtain ⟨push, rfl, hpush⟩ := List.map_eq_singleton_iff.mp hrest
  have hall := runWords_store_push h hstore hpush (runWords_of_texts_eq hws.symm hrun)
  rw [← hwords] at hall
  rw [evalLine_of_runWords hall, answer, toValue_unsignedZero]
  rfl

/-- A line can be continued by a word that stores a number and the one it is stored under. -/
lemma wordTexts_store_push (h : IsWord name) (line : String) :
    wordTexts (" ".intercalate (wordTexts line ++ ["=" ++ name, name])) =
      wordTexts line ++ ["=" ++ name, name] := by
  refine Text.wordTexts_intercalate fun text htext => ?_
  rcases List.mem_append.mp htext with hline | hadded
  · obtain ⟨word, hword, rfl⟩ := List.mem_map.mp hline
    exact Text.isWord_of_mem_words hword
  · rcases List.mem_pair.mp hadded with rfl | rfl
    · exact isWord_store h
    · exact h

lemma restores_of_isWord (h : IsWord name) : Restores name where
  stored word x stack b hword := stored_of_isWord h hword x stack b
  pushed hname word x stack b hword hb :=
    hname.runWord hword hb (toBinary64?_toValue x) stack
  spelled line := wordTexts_store_push h line
  answered hname line line' w v hvalue hline' := evalLine_store_push hname hvalue hline'
  unread hname word stack b b' hword := by
    subst hword
    exact map_fst_runWord_of_not_isName h hname stack b b'

end

/-- **The conversion of results is lossless.** A number becomes an integer exactly if it is whole
and of a magnitude below `2 ^ 63`, and then the integer is the same number; any other number stays
what it is, and so do infinities and what is not a number. What is read from the value is the number
again, but for the sign of a zero, and so is equal to it. It is also what a name pushes that the
number was stored under; other words do not look at what is stored under them. -/
theorem toValue_lossless :
    (∀ x : Binary64,
      toValue x = converted x ∧
      ((∃ i, toValue x = .int i) ↔ ∃ n : ℤ, x.value? = some (n : ℚ) ∧ n.natAbs < 2 ^ 63) ∧
      (∀ i, toValue x = .int i → x.value? = some (i.toInt : ℚ)) ∧
      ((∀ i, toValue x ≠ .int i) → toValue x = .float x) ∧
      (toValue x).toBinary64? = some x.unsignedZero ∧
      (x ≠ .nan → x.unsignedZero.eq x = true)) ∧
    ∀ name, IsWord name → Restores name := by
  refine ⟨fun x => ?_, fun name => restores_of_isWord⟩
  refine ⟨(converted_eq_toValue x).symm, ?_, ?_, ?_, toBinary64?_toValue x, Binary64.eq_unsignedZero⟩
  · constructor
    · intro ⟨i, hi⟩
      by_contra h
      rw [toValue_of_not_whole h] at hi
      cases hi
    · intro ⟨n, hx, hn⟩
      exact ⟨Int64.ofInt n, toValue_of_whole hx hn⟩
  · intro i hi
    by_cases h : ∃ n : ℤ, x.value? = some (n : ℚ) ∧ n.natAbs < 2 ^ 63
    · obtain ⟨n, hx, hn⟩ := h
      rw [toValue_of_whole hx hn, Value.int.injEq] at hi
      rw [← hi, toInt_ofInt_of_natAbs_lt hn]
      exact hx
    · rw [toValue_of_not_whole h] at hi
      cases hi
  · intro hne
    refine toValue_of_not_whole fun ⟨n, hx, hn⟩ => ?_
    exact hne _ (toValue_of_whole hx hn)

/-- The greatest number below `2 ^ 63`. -/
def greatest : Binary64 := .finite false (2 ^ 53 - 1) 10 (by decide)

/-- It becomes an integer of 63 digits, and a name pushes it unchanged. Numbers that are stored under
`inf`, a number itself, are not found again. -/
theorem toValue_lossless_greatest :
    toValue greatest = .int 9223372036854774784 ∧
      greatest.value? = some ((9223372036854774784 : Int64).toInt : ℚ) ∧
      greatest ≠ .nan ∧ greatest.unsignedZero.eq greatest = true ∧
      IsName "x" ∧
      runWord ⟨0, "=x"⟩ [greatest] .empty =
        .ok ([], Bindings.empty.set "x" (.int 9223372036854774784)) ∧
      runWord ⟨3, "x"⟩ [] (Bindings.empty.set "x" (.int 9223372036854774784)) =
        .ok ([greatest], Bindings.empty.set "x" (.int 9223372036854774784)) ∧
      IsWord "inf" ∧ ¬ IsName "inf" ∧
      (runWord ⟨0, "inf"⟩ [] .empty).map Prod.fst =
        (runWord ⟨0, "inf"⟩ [] (Bindings.empty.set "inf" (.int 1))).map Prod.fst := by
  obtain ⟨hconversion, hnames⟩ := toValue_lossless
  obtain ⟨-, -, hexact, -, -, hequal⟩ := hconversion greatest
  have hvalue : toValue greatest = .int 9223372036854774784 := rfl
  have hnumber : greatest ≠ .nan := nofun
  have hx : IsName "x" := ⟨by decide, by decide, by decide, by decide +kernel⟩
  have hinf : ¬ IsName "inf" := fun h => nomatch h.not_number
  have hword : IsWord "inf" := by decide
  have hrestores := hnames "x" hx.isWord
  have hstored := hrestores.stored ⟨0, "=x"⟩ greatest [] .empty rfl
  have hpushed := hrestores.pushed hx ⟨3, "x"⟩ greatest []
    (Bindings.empty.set "x" (.int 9223372036854774784)) rfl rfl
  rw [hvalue] at hstored
  exact ⟨hvalue, hexact _ hvalue, hnumber, hequal hnumber, hx, hstored.1, hpushed, hword, hinf,
    (hnames "inf" hword).unread hinf ⟨0, "inf"⟩ [] _ _ rfl⟩

/-- The least integer is none of those that numbers become. -/
example : toValue (.ofInt Int64.minValue.toInt) = .float (.ofInt Int64.minValue.toInt) := rfl

end LineRepl.Rpn
