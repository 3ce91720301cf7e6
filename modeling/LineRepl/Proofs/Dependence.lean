/-
What the answer to a line depends on.

* `Rpn.runWord_of_get?_eq`: of the bindings, a word sees the value of the name that it spells.
* `Rpn.assigned`: what a postfix line binds, in order; `Rpn.bindings_evalLine`: it binds nothing
  else.
* `AnsweredAlike`: a line has one answer in two workspaces, and binds the same names to the same
  values in both.
* `evalLine_answeredAlike`: this is so in bindings that agree on the names that the line mentions.
-/
import LineRepl.Proofs.Calc.Mention
import LineRepl.Proofs.Rpn.Basic

namespace LineRepl

variable {b b' : Bindings}

namespace Rpn

open Text (Word words wordTexts)

/-! ### Words -/

/-- What a word pushes depends on its own binding alone. -/
lemma pushed_of_get?_eq {text : String} (h : b.get? text = b'.get? text) :
    pushed text b = pushed text b' := by
  rw [pushed, pushed, h]

/-- The name that a word binds, with the value. -/
def assignedBy (word : Word) (stack : List Binary64) : List (String × Value) :=
  match Instruction.ofText word.text, stack with
  | .store name, x :: _ => [(name, toValue x)]
  | _, _ => []

/-- Of the bindings, a word sees the value of the name that it spells: where this is the same, the
word fails with one error, or it leaves one stack and binds the same. -/
lemma runWord_of_get?_eq {word : Word} (h : b.get? word.text = b'.get? word.text)
    (stack : List Binary64) :
    (∃ e, runWord word stack b = .error e ∧ runWord word stack b' = .error e) ∨
      ∃ stack', runWord word stack b = .ok (stack', b.setAll (assignedBy word stack)) ∧
        runWord word stack b' = .ok (stack', b'.setAll (assignedBy word stack)) := by
  rw [runWord.eq_def, runWord.eq_def, assignedBy.eq_def]
  cases hinstruction : Instruction.ofText word.text with
  | push text =>
      obtain rfl := eq_text_of_ofText hinstruction
      simp only [pushed_of_get?_eq h]
      cases pushed word.text b' with
      | error e => exact .inl ⟨e, rfl, rfl⟩
      | ok x => exact .inr ⟨x :: stack, rfl, rfl⟩
  | div =>
      rcases stack with _ | ⟨y, _ | ⟨x, rest⟩⟩
      · exact .inl ⟨_, rfl, rfl⟩
      · exact .inl ⟨_, rfl, rfl⟩
      · simp only
        split
        · exact .inl ⟨_, rfl, rfl⟩
        · exact .inr ⟨_, rfl, rfl⟩
  | add | sub | mul | swap | dup | store name =>
      -- A word that works on the stack does not look at the bindings.
      rcases stack with _ | ⟨y, _ | ⟨x, rest⟩⟩ <;>
        first | exact .inl ⟨_, rfl, rfl⟩ | exact .inr ⟨_, rfl, rfl⟩

/-- What the words bind, in order, up to the first error. -/
def assignedByAll (ws : List Word) (stack : List Binary64) (b : Bindings) :
    List (String × Value) :=
  match ws with
  | [] => []
  | word :: rest =>
    match runWord word stack b with
    | .error _ => []
    | .ok (stack', b') => assignedBy word stack ++ assignedByAll rest stack' b'

/-- Words bind what they assign, in order. -/
lemma bindings_runWords (ws : List Word) (stack : List Binary64) (b : Bindings) :
    (runWords ws stack b).2 = b.setAll (assignedByAll ws stack b) := by
  induction ws generalizing stack b with
  | nil => rfl
  | cons word rest ih =>
      rw [runWords, assignedByAll]
      have hsame : b.get? word.text = b.get? word.text := rfl
      rcases runWord_of_get?_eq hsame stack with
        ⟨e, hword, -⟩ | ⟨stack', hword, -⟩
      · simp only [hword]
        rfl
      · simp only [hword]
        rw [ih, Bindings.setAll_append]

/-- Words do the same in bindings that agree on the names that they spell. The bindings agree on
them all along, because what one word binds is the same in both. -/
lemma runWords_of_agreeOn {P : String → Prop} {ws : List Word} (hws : ∀ word ∈ ws, P word.text)
    (h : b.AgreeOn P b') (stack : List Binary64) :
    (runWords ws stack b).1 = (runWords ws stack b').1 ∧
      assignedByAll ws stack b = assignedByAll ws stack b' := by
  induction ws generalizing stack b b' with
  | nil => exact ⟨rfl, rfl⟩
  | cons word rest ih =>
      rw [runWords, runWords, assignedByAll, assignedByAll]
      rcases runWord_of_get?_eq (h word.text (hws word List.mem_cons_self)) stack with
        ⟨e, hleft, hright⟩ | ⟨stack', hleft, hright⟩
      · simp only [hleft, hright]
        exact ⟨trivial, trivial⟩
      · simp only [hleft, hright]
        have hrest := ih (fun w hw => hws w (List.mem_cons_of_mem word hw))
          (h.setAll (assignedBy word stack)) stack'
        exact ⟨hrest.1, congrArg (assignedBy word stack ++ ·) hrest.2⟩

/-! ### Lines -/

/-- What a line binds, in order. -/
def assigned (line : String) (w : Workspace) : List (String × Value) :=
  assignedByAll (words line) [] w.bindings

/-- The bindings after a line. -/
lemma bindings_evalLine (line : String) (w : Workspace) :
    (evalLine line w).2.bindings = w.bindings.setAll (assigned line w) :=
  bindings_runWords (words line) [] w.bindings

/-- A line does the same in bindings that agree on its words. -/
lemma evalLine_of_agreeOn {line : String} (h : b.AgreeOn (· ∈ wordTexts line) b') (store : Store) :
    (evalLine line ⟨b, store⟩).1 = (evalLine line ⟨b', store⟩).1 ∧
      (evalLine line ⟨b, store⟩).2.store = (evalLine line ⟨b', store⟩).2.store ∧
      assigned line ⟨b, store⟩ = assigned line ⟨b', store⟩ := by
  obtain ⟨hstack, hassigned⟩ :=
    runWords_of_agreeOn (fun _ hword => List.mem_map_of_mem hword) h []
  simp only [evalLine, hstack]
  exact ⟨trivial, trivial, hassigned⟩

end Rpn

/-! ### Answers -/

/-- The line has one answer in both workspaces, the store is the same afterwards, and the same names
are bound to the same values in the same order, and nothing else. -/
structure AnsweredAlike (eval : String → Workspace → Reply × Workspace)
    (assigned : String → Workspace → List (String × Value)) (line : String) (w w' : Workspace) :
    Prop where
  reply : (eval line w).1 = (eval line w').1
  store : (eval line w).2.store = (eval line w').2.store
  binds : assigned line w = assigned line w'
  left : (eval line w).2.bindings = w.bindings.setAll (assigned line w)
  right : (eval line w').2.bindings = w'.bindings.setAll (assigned line w')

/-- **A line sees no names but those that it mentions.** An expression line is answered alike in
bindings that agree on the names among its tokens, a postfix line in bindings that agree on its
words. -/
theorem evalLine_answeredAlike (line : String) (b b' : Bindings) (store : Store) :
    (b.AgreeOn (Calc.Mentions line) b' →
      AnsweredAlike Calc.evalLine Calc.assigned line ⟨b, store⟩ ⟨b', store⟩) ∧
    (b.AgreeOn (· ∈ Text.wordTexts line) b' →
      AnsweredAlike Rpn.evalLine Rpn.assigned line ⟨b, store⟩ ⟨b', store⟩) := by
  constructor
  · intro h
    obtain ⟨hreply, hstore, hassigned⟩ := Calc.evalLine_of_agreeOn h store
    exact ⟨hreply, hstore, hassigned, Calc.bindings_evalLine line _, Calc.bindings_evalLine line _⟩
  · intro h
    obtain ⟨hreply, hstore, hassigned⟩ := Rpn.evalLine_of_agreeOn h store
    exact ⟨hreply, hstore, hassigned, Rpn.bindings_evalLine line _, Rpn.bindings_evalLine line _⟩

/-- One name, bound to one. -/
def oneName : Bindings := ⟨[("x", .int 1)]⟩

/-- The same, after another name. -/
def anotherName : Bindings := ⟨[("z", .bool true), ("x", .int 1)]⟩

/-- A line of each engine that does not mention the other name. -/
theorem evalLine_answeredAlike_unmentioned :
    AnsweredAlike Calc.evalLine Calc.assigned "y = x + 1" ⟨oneName, .empty⟩
        ⟨anotherName, .empty⟩ ∧
      AnsweredAlike Rpn.evalLine Rpn.assigned "x 1 + =y" ⟨oneName, .empty⟩
        ⟨anotherName, .empty⟩ := by
  have hagree : oneName.AgreeOn (· ≠ "z") anotherName := by
    intro name hname
    rw [anotherName, Bindings.get?, Bindings.get?, List.lookup_cons, beq_eq_false_iff_ne.mpr hname]
    rfl
  constructor
  · refine (evalLine_answeredAlike "y = x + 1" _ _ _).1 fun name hname => hagree name ?_
    rintro rfl
    obtain ⟨tokens, htokens, hmem⟩ := hname
    have hline : Calc.tokenize "y = x + 1" =
        .ok [⟨.ident "y", 1⟩, ⟨.assign, 3⟩, ⟨.ident "x", 5⟩, ⟨.plus, 7⟩, ⟨.int 1, 9⟩] := by
      decide +kernel
    cases hline.symm.trans htokens
    exact absurd hmem (by decide)
  · refine (evalLine_answeredAlike "x 1 + =y" _ _ _).2 fun name hname => hagree name ?_
    rintro rfl
    exact absurd hname (by decide +kernel)

end LineRepl
