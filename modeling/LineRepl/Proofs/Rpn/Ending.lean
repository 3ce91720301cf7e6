/-
How postfix lines end.

The height of the stack is told by the words alone, so it is known beforehand where a line runs out
of operands and whether it leaves a value. Where a line fails is told by the words up to that place.

* `need`, `effect`: the operands that a word takes, and by how much it raises the stack.
* `runWord_cases`: a word fails for want of operands, fails otherwise, or raises the stack by its
  effect.
* `FailsAt`: the line fails at the word, whatever comes behind it.
* `evalLine_prefix_determined`: where lines fail, and what the others leave.
-/
import LineRepl.Proofs.Placement
import LineRepl.Proofs.Rpn.Basic

namespace LineRepl.Rpn

open Text (IsWord Word words wordTexts)

/-! ### Heights -/

/-- The word binds a name: it is an equals sign with more behind it. -/
def Stores (text : String) : Prop := 1 < text.length ∧ text.toList.head? = some '='

instance (text : String) : Decidable (Stores text) :=
  inferInstanceAs (Decidable (_ ∧ _))

/-- How many operands a word takes from the stack. -/
def need (text : String) : ℕ :=
  if text ∈ ["+", "-", "*", "/", "swap"] then 2
  else if text = "dup" ∨ Stores text then 1
  else 0

/-- By how much a word raises the stack. -/
def effect (text : String) : ℤ :=
  if text ∈ ["+", "-", "*", "/"] ∨ Stores text then -1
  else if text = "swap" then 0
  else 1

/-- By how much words raise the stack. -/
def height (ws : List Word) : ℤ := (ws.map fun word => effect word.text).sum

namespace Instruction

/-- How many operands are taken from the stack. -/
def need : Instruction → ℕ
  | .add | .sub | .mul | .div | .swap => 2
  | .dup | .store _ => 1
  | .push _ => 0

/-- By how much the stack is raised. -/
def effect : Instruction → ℤ
  | .add | .sub | .mul | .div | .store _ => -1
  | .swap => 0
  | .dup | .push _ => 1

end Instruction

lemma stores_iff {text : String} : Stores text ↔ ∃ c cs, text.toList = '=' :: c :: cs := by
  rw [Stores, ← String.length_toList]
  rcases text.toList with _ | ⟨d, _ | ⟨c, cs⟩⟩ <;> simp

/-- A word without a meaning of its own that binds no name is pushed. -/
lemma ofText_of_not_stores {text : String} (hfixed : text ∉ fixedWords) (hstores : ¬ Stores text) :
    Instruction.ofText text = .push text := by
  simp only [fixedWords, List.mem_cons, List.not_mem_nil, or_false, not_or] at hfixed
  simp only [Instruction.ofText, beq_iff_eq, hfixed, if_false]
  split
  next c cs hcs => exact absurd (stores_iff.mpr ⟨c, cs, hcs⟩) hstores
  next => rfl

/-- What a word takes and by how much it raises the stack is that of what it asks for. -/
lemma need_and_effect_eq (text : String) :
    need text = (Instruction.ofText text).need ∧
      effect text = (Instruction.ofText text).effect := by
  have hfixed : ∀ text ∈ fixedWords, need text = (Instruction.ofText text).need ∧
      effect text = (Instruction.ofText text).effect := by
    decide
  by_cases htext : text ∈ fixedWords
  · exact hfixed text htext
  have hother := htext
  simp only [fixedWords, List.mem_cons, List.not_mem_nil, or_false, not_or] at hother
  by_cases hstores : Stores text
  · obtain ⟨c, cs, hcs⟩ := stores_iff.mp hstores
    rw [ofText_eq_store hcs]
    simp [need, effect, hother, hstores, Instruction.need, Instruction.effect]
  · rw [ofText_of_not_stores htext hstores]
    simp [need, effect, hother, hstores, Instruction.need, Instruction.effect]

/-- What is pushed fails only because of the bindings. -/
lemma exists_runtime_of_pushed {text : String} {b : Bindings} {e : EvalError}
    (h : pushed text b = .error e) : ∃ message, e = .runtime message := by
  rw [pushed.eq_def] at h
  split at h
  · cases h
  · split at h
    · exact ⟨_, (Except.error.inj h).symm⟩
    · split at h
      · cases h
      · exact ⟨_, (Except.error.inj h).symm⟩

/-- A word fails for want of operands, or for another reason, or it raises the stack by its
effect. -/
lemma runWord_cases (word : Word) (stack : List Binary64) (b : Bindings) :
    (stack.length < need word.text ∧ runWord word stack b = .error (underflow word)) ∨
      need word.text ≤ stack.length ∧
        ((∃ message, runWord word stack b = .error (.runtime message)) ∨
          ∃ stack' b', runWord word stack b = .ok (stack', b') ∧
            (stack'.length : ℤ) = stack.length + effect word.text) := by
  obtain ⟨hneed, heffect⟩ := need_and_effect_eq word.text
  rw [hneed, heffect, runWord.eq_def]
  cases Instruction.ofText word.text with
  | push text =>
      refine .inr ⟨Nat.zero_le _, ?_⟩
      rcases hpushed : pushed text b with e | x
      · obtain ⟨message, rfl⟩ := exists_runtime_of_pushed hpushed
        exact .inl ⟨message, by simp only [hpushed, Except.map]⟩
      · exact .inr ⟨_, _, by simp only [hpushed, Except.map]; rfl, by simp [Instruction.effect]⟩
  | div =>
      rcases stack with _ | ⟨y, _ | ⟨x, rest⟩⟩
      · exact .inl ⟨by simp [Instruction.need], rfl⟩
      · exact .inl ⟨by simp [Instruction.need], rfl⟩
      · refine .inr ⟨by simp [Instruction.need], ?_⟩
        simp only
        split
        · exact .inl ⟨_, rfl⟩
        · exact .inr ⟨_, _, rfl, by simp [Instruction.effect]⟩
  | add | sub | mul | swap | dup | store name =>
      rcases stack with _ | ⟨y, _ | ⟨x, rest⟩⟩ <;>
        first
        | exact .inl ⟨by simp [Instruction.need], rfl⟩
        | exact .inr ⟨by simp [Instruction.need], .inr ⟨_, _, rfl, by simp [Instruction.effect]⟩⟩

/-- A word fails for want of operands where there are too few, and otherwise while it runs. -/
lemma cause_of_runWord {word : Word} {stack : List Binary64} {b : Bindings} {e : EvalError}
    (h : runWord word stack b = .error e) :
    e = underflow word ∧ stack.length < need word.text ∨
      (∃ message, e = .runtime message) ∧ need word.text ≤ stack.length := by
  rcases runWord_cases word stack b with
    ⟨hlow, hword⟩ | ⟨hneed, ⟨message, hword⟩ | ⟨_, _, hword, -⟩⟩ <;> rw [h] at hword
  · exact .inl ⟨Except.error.inj hword, hlow⟩
  · exact .inr ⟨⟨message, Except.error.inj hword⟩, hneed⟩
  · cases hword

/-- A word that works does so wherever it stands. -/
lemma runWord_of_text_eq {word word' : Word} {stack : List Binary64} {b : Bindings}
    {after : List Binary64 × Bindings} (htext : word.text = word'.text)
    (h : runWord word stack b = .ok after) : runWord word' stack b = .ok after := by
  rw [runWord.eq_def] at h ⊢
  rw [← htext]
  split at h <;> simp_all

/-! ### Runs -/

section

variable {ws : List Word} {stack : List Binary64} {b : Bindings}

/-- The stack is as high as the words tell. -/
lemma length_of_runWords {stack' : List Binary64} (h : (runWords ws stack b).1 = .ok stack') :
    (stack'.length : ℤ) = stack.length + height ws := by
  induction ws generalizing stack b with
  | nil =>
      obtain rfl := Except.ok.inj h
      simp [height]
  | cons word ws ih =>
      rw [runWords] at h
      rcases runWord_cases word stack b with
        ⟨-, hword⟩ | ⟨-, ⟨message, hword⟩ | ⟨mid, b', hword, hmid⟩⟩
      · rw [hword] at h
        cases h
      · rw [hword] at h
        cases h
      · rw [hword] at h
        rw [ih h, hmid, height, height, List.map_cons, List.sum_cons]
        omega

lemma length_of_runWords_nil (h : (runWords ws [] b).1 = .ok stack) :
    (stack.length : ℤ) = height ws := by
  rw [length_of_runWords h, List.length_nil, Nat.cast_zero, zero_add]

lemma runWords_of_texts_eq {ws' : List Word} {stack' : List Binary64} {b' : Bindings}
    (htexts : ws.map Word.text = ws'.map Word.text) (h : runWords ws stack b = (.ok stack', b')) :
    runWords ws' stack b = (.ok stack', b') := by
  induction ws generalizing ws' stack b with
  | nil =>
      obtain rfl := List.map_eq_nil_iff.mp htexts.symm
      exact h
  | cons word ws ih =>
      obtain ⟨word', rest, rfl, htext, hrest⟩ := List.map_eq_cons_iff.mp htexts.symm
      rw [runWords] at h ⊢
      rcases hword : runWord word stack b with e | ⟨mid, b'⟩
      · rw [hword] at h
        cases h
      · rw [hword] at h
        rw [runWord_of_text_eq htext.symm hword]
        exact ih hrest.symm h

/-- Words fail at one of them, behind words that work. -/
lemma exists_of_runWords_error {e : EvalError} {b' : Bindings}
    (h : runWords ws stack b = (.error e, b')) :
    ∃ front word back stack', ws = front ++ word :: back ∧
      runWords front stack b = (.ok stack', b') ∧ runWord word stack' b' = .error e := by
  induction ws generalizing stack b with
  | nil => cases h
  | cons word ws ih =>
      rw [runWords] at h
      rcases hword : runWord word stack b with e' | ⟨mid, b''⟩
      · rw [hword] at h
        obtain ⟨he, rfl⟩ := Prod.mk.inj h
        obtain rfl := Except.error.inj he
        exact ⟨[], word, ws, stack, rfl, rfl, hword⟩
      · rw [hword] at h
        obtain ⟨front, failing, back, stack', rfl, hfront, hfails⟩ := ih h
        refine ⟨word :: front, failing, back, stack', rfl, ?_, hfails⟩
        rw [runWords, hword]
        exact hfront

/-- Words fail at one of them whatever comes behind it. -/
lemma runWords_of_failing {front : List Word} {word : Word} {e : EvalError}
    {stack' : List Binary64} {b' : Bindings} (back : List Word)
    (hfront : runWords front stack b = (.ok stack', b'))
    (hword : runWord word stack' b' = .error e) :
    runWords (front ++ word :: back) stack b = (.error e, b') := by
  rw [runWords_append, hfront]
  simp only [runWords, hword]

end

/-! ### Lines -/

/-- The line fails at the word `word` behind the words `front`. -/
structure FailsAt (line : String) (w : Workspace) (front : List Word) (word : Word)
    (e : EvalError) : Prop where
  begins : front ++ [word] <+: words line
  /-- There is a line of the words before it alone. -/
  spelled : wordTexts (" ".intercalate (front.map Word.text)) = front.map Word.text
  /-- Such a line does not fail, and it leaves what this line leaves. -/
  alone : ∀ line', wordTexts line' = front.map Word.text →
    (∀ e', (evalLine line' w).1 ≠ .error e') ∧ (evalLine line' w).2 = (evalLine line w).2
  /-- What comes behind the word does not matter. -/
  anyRest : ∀ line', front ++ [word] <+: words line' → evalLine line' w = evalLine line w
  /-- The stack runs out of operands, at the column of the word. -/
  underflows : e = .malformed ("stack underflow at '" ++ word.text ++ "'") (word.offset + 1) ↔
    height front < need word.text
  otherwise : (∃ message, e = .runtime message) ↔ need word.text ≤ height front

/-- The answer to a line whose words leave the stack, or fail. -/
def answer : Except EvalError (List Binary64) → Reply
  | .error e => .error e
  | .ok [] => .nothing
  | .ok (x :: _) => .value (toValue x)

lemma evalLine_of_runWords {line : String} {w : Workspace} {b : Bindings}
    {outcome : Except EvalError (List Binary64)}
    (h : runWords (words line) [] w.bindings = (outcome, b)) :
    evalLine line w = (answer outcome, { w with bindings := b }) := by
  rw [evalLine, h]
  rcases outcome with e | _ | ⟨x, stack⟩ <;> rfl

lemma answer_ok_ne_error (stack : List Binary64) (e : EvalError) :
    answer (.ok stack) ≠ .error e := by
  rcases stack with _ | ⟨x, stack⟩ <;> exact nofun

/-- A line that fails does so at one of its words. -/
lemma exists_failsAt_of_error {line : String} {w : Workspace} {e : EvalError}
    (h : (evalLine line w).1 = .error e) : ∃ front word, FailsAt line w front word e := by
  rcases hrun : runWords (words line) [] w.bindings with ⟨_ | stack, b⟩
  case ok =>
    rw [evalLine_of_runWords hrun] at h
    exact absurd h (answer_ok_ne_error stack e)
  case error e' =>
    have hline := evalLine_of_runWords hrun
    rw [hline] at h
    obtain rfl := Reply.error.inj h
    obtain ⟨front, word, back, stack, hwords, hfront, hword⟩ := exists_of_runWords_error hrun
    refine ⟨front, word, ?begins, ?spelled, ?alone, ?anyRest, ?underflows, ?otherwise⟩
    case begins => exact ⟨back, by rw [hwords, List.append_assoc, List.singleton_append]⟩
    case spelled =>
      refine Text.wordTexts_intercalate fun text htext => ?_
      obtain ⟨before, hbefore, rfl⟩ := List.mem_map.mp htext
      exact Text.isWord_of_mem_words (hwords ▸ List.mem_append_left _ hbefore)
    case alone =>
      intro line' htexts
      have halone := evalLine_of_runWords (runWords_of_texts_eq htexts.symm hfront)
      rw [halone, hline]
      exact ⟨answer_ok_ne_error stack, rfl⟩
    case anyRest =>
      rintro line' ⟨rest, hrest⟩
      have hfails := runWords_of_failing rest hfront hword
      rw [← List.singleton_append, ← List.append_assoc, hrest] at hfails
      rw [hline, evalLine_of_runWords hfails]
    case underflows =>
      rw [← length_of_runWords_nil (congrArg Prod.fst hfront), Nat.cast_lt]
      rcases cause_of_runWord hword with ⟨rfl, hlow⟩ | ⟨⟨message, rfl⟩, hneed⟩
      · exact iff_of_true rfl hlow
      · exact iff_of_false nofun (Nat.not_lt.mpr hneed)
    case otherwise =>
      rw [← length_of_runWords_nil (congrArg Prod.fst hfront), Nat.cast_le]
      rcases cause_of_runWord hword with ⟨rfl, hlow⟩ | ⟨hruntime, hneed⟩
      · exact iff_of_false nofun (Nat.not_le.mpr hlow)
      · exact iff_of_true hruntime hneed

/-- The line does not fail, and the words tell what is left. -/
structure Leaves (line : String) (w : Workspace) (stack : List Binary64) : Prop where
  runs : (runWords (words line) [] w.bindings).1 = .ok stack
  high : (stack.length : ℤ) = height (words line)
  answered : (evalLine line w).1 = answer (.ok stack)
  nothing_iff : (evalLine line w).1 = .nothing ↔ height (words line) = 0

lemma exists_leaves {line : String} {w : Workspace} (h : ∀ e, (evalLine line w).1 ≠ .error e) :
    ∃ stack, Leaves line w stack := by
  rcases hrun : runWords (words line) [] w.bindings with ⟨e | stack, b⟩
  case error => exact absurd (congrArg Prod.fst (evalLine_of_runWords hrun)) (h e)
  case ok =>
    have hhigh := length_of_runWords_nil (congrArg Prod.fst hrun)
    have hanswered := congrArg Prod.fst (evalLine_of_runWords hrun)
    refine ⟨stack, congrArg Prod.fst hrun, hhigh, hanswered, ?_⟩
    rw [hanswered, ← hhigh]
    rcases stack with _ | ⟨x, stack⟩
    · exact iff_of_true rfl rfl
    · exact iff_of_false nofun (by simp; omega)

/-- **How postfix lines end.** A line that fails does so at one of its words: the words before it
alone do not fail and leave the same workspace, those after it change nothing, and the stack
underflows there exactly if the words before leave it lower than the word needs. A line that does
not fail answers with the top of the stack, which is empty exactly if the effects of the words add
up to zero. -/
theorem evalLine_prefix_determined (line : String) (w : Workspace) :
    (∀ e, (evalLine line w).1 = .error e → ∃ front word, FailsAt line w front word e) ∧
      ((∀ e, (evalLine line w).1 ≠ .error e) → ∃ stack, Leaves line w stack) :=
  ⟨fun _ => exists_failsAt_of_error, exists_leaves⟩

end LineRepl.Rpn
