/-
Columns of malformed lines.

Expression lines count characters, so their columns are inside the line or just behind it. Postfix
lines count the bytes before a word, so their columns are the same only behind characters of one
byte, and they can be outside the line.

* `Calc.column_bounds`: the columns of expression lines.
* `Rpn.RefusedAt`: the column of a postfix line that runs out of operands.
* `malformed_columns`: the columns of both.
* `Rpn.evalLine_wideBlank`: a column outside of its line.
-/
import LineRepl.Proofs.Calc.Layout
import LineRepl.Proofs.Calc.Tokenization
import LineRepl.Proofs.Rpn.Ending

namespace LineRepl

/-! ### Expression lines -/

namespace Calc

open Grammar (columnAt columnAt_eq)

/-- Tokens stand at characters of the text. -/
lemma column_of_tokenizeFrom {column : ℕ} {cs : List Char} {tokens : List PlacedToken}
    (h : tokenizeFrom column cs = .ok tokens) :
    ∀ t ∈ tokens, column ≤ t.column ∧ t.column < column + cs.length := by
  induction column, cs using tokens_induction generalizing tokens with
  | nil column =>
      rw [tokenizeFrom_nil] at h
      cases h
      exact List.forall_mem_nil _
  | blank column c cs hc ih =>
      rw [tokenizeFrom_blank hc] at h
      intro t ht
      have hbounds := ih h t ht
      rw [List.length_cons]
      omega
  | lexeme column cs rest t ht hstops ih =>
      obtain ⟨others, hothers, rfl⟩ := exists_of_tokenizeFrom_lexeme ht hstops h
      obtain ⟨c, tail, rfl, -⟩ := ht.exists_cons
      rw [List.length_append, List.length_cons] at *
      refine List.forall_mem_cons.mpr ⟨⟨le_rfl, by simp only; omega⟩, fun u hu => ?_⟩
      have hbounds := ih hothers u hu
      omega
  | fault column c cs fault hc hscan =>
      rw [tokenizeFrom_fault hc hscan] at h
      cases h

/-- There are no more tokens than characters. -/
lemma length_of_tokenizeFrom {column : ℕ} {cs : List Char} {tokens : List PlacedToken}
    (h : tokenizeFrom column cs = .ok tokens) : tokens.length ≤ cs.length := by
  induction column, cs using tokens_induction generalizing tokens with
  | nil column =>
      rw [tokenizeFrom_nil] at h
      cases h
      exact le_rfl
  | blank column c cs hc ih =>
      rw [tokenizeFrom_blank hc] at h
      exact (ih h).trans (Nat.le_succ _)
  | lexeme column cs rest t ht hstops ih =>
      obtain ⟨others, hothers, rfl⟩ := exists_of_tokenizeFrom_lexeme ht hstops h
      obtain ⟨c, tail, rfl, -⟩ := ht.exists_cons
      have hle := ih hothers
      rw [List.length_append, List.length_cons, List.length_cons]
      omega
  | fault column c cs fault hc hscan =>
      rw [tokenizeFrom_fault hc hscan] at h
      cases h

/-- The parser reports errors at characters of the line, or just behind it. -/
lemma columnAt_bounds {line : String} {tokens : List PlacedToken} (h : tokenize line = .ok tokens)
    (k : ℕ) : 1 ≤ columnAt tokens k ∧ columnAt tokens k ≤ line.length + 1 := by
  have htokens := column_of_tokenizeFrom h
  rw [String.length_toList] at htokens
  rw [columnAt_eq]
  rcases hk : tokens[k]? with _ | t
  · rw [Option.map_none, Option.getD_none, endColumn]
    rcases hlast : tokens.getLast? with _ | t
    · simp
    · have hbounds := htokens t (List.mem_of_getLast? hlast)
      simp only [Option.map_some, Option.getD_some]
      omega
  · have hbounds := htokens t (List.mem_of_getElem? hk)
    simp only [Option.map_some, Option.getD_some]
    omega

/-- A line that is evaluated is not malformed. -/
lemma run_ne_malformed (s : Statement) (w : Workspace) (message : String) (column : ℕ) :
    (s.run w).1 ≠ .error (.malformed message column) := by
  have hstopped : ∀ stop, stopped stop ≠ .error (.malformed message column) := by
    rintro (fault | p) ⟨⟩
  rcases s with ⟨name, e⟩ | e <;> simp only [Statement.run] <;>
    rcases e.eval w.bindings w.store with stop | ⟨v, store⟩
  case assign.error | expr.error => exact hstopped stop
  all_goals rintro ⟨⟩

/-- Columns of expression lines are from 1 to the number of characters and one. -/
lemma column_bounds {line : String} {w : Workspace} {message : String} {column : ℕ}
    (h : (evalLine line w).1 = .error (.malformed message column)) :
    1 ≤ column ∧ column ≤ line.length + 1 := by
  rw [evalLine] at h
  split at h
  next e he =>
    cases h
    obtain ⟨front, c, left, hline, hcolumn, -⟩ := exists_of_tokenizeFrom_eq_error he
    have hlength : line.length = front.length + (left.length + 1) := by
      rw [← String.length_toList, hline, List.length_append, List.length_cons]
    omega
  next => cases h
  next tokens htokens =>
    split at h
    next e he =>
      cases h
      obtain ⟨k, hk⟩ := exists_columnAt_of_parse_error he
      rw [hk]
      exact columnAt_bounds htokens k
    next => exact absurd h (run_ne_malformed _ _ _ _)

end Calc

/-! ### Postfix lines -/

namespace Rpn

open Text (Behind Word byteLength wordsFrom)

/-- The line is refused at the word `word` behind the characters `before`, which hold the words
`front`. -/
structure RefusedAt (line : String) (w : Workspace) (message : String) (column : ℕ)
    (front : List Word) (word : Word) (before : List Char) : Prop where
  fails : FailsAt line w front word (.malformed message column)
  behind : Behind line.toList before word.text
  front_eq : wordsFrom 0 before = front
  message_eq : message = "stack underflow at '" ++ word.text ++ "'"
  /-- The column counts bytes. -/
  column_eq : column = byteLength before + 1
  /-- It counts characters where they are of one byte each. -/
  column_eq_characters_iff : column = before.length + 1 ↔ ∀ c ∈ before, c.utf8Size = 1
  inside : column ≤ byteLength line.toList

/-- A postfix line is malformed only where it runs out of operands. -/
lemma exists_refusedAt {line : String} {w : Workspace} {message : String} {column : ℕ}
    (h : (evalLine line w).1 = .error (.malformed message column)) :
    ∃ front word before, RefusedAt line w message column front word before := by
  obtain ⟨front, word, hfails⟩ := exists_failsAt_of_error h
  have hlow : height front < need word.text := by
    by_contra hhigh
    obtain ⟨_, hruntime⟩ := hfails.otherwise.mpr (not_lt.mp hhigh)
    cases hruntime
  obtain ⟨rfl, rfl⟩ := EvalError.malformed.inj (hfails.underflows.mpr hlow)
  obtain ⟨back, hwords⟩ := hfails.begins
  rw [List.append_assoc, List.singleton_append] at hwords
  obtain ⟨before, hbehind, hfront, hoffset⟩ := Text.exists_behind hwords.symm
  rw [Nat.zero_add] at hoffset
  refine ⟨front, word, before, hfails, hbehind, hfront, rfl, by rw [hoffset], ?_, ?_⟩
  · rw [hoffset, ← Text.byteLength_eq_length_iff]
    omega
  · rw [hoffset]
    exact hbehind.byteLength_lt

end Rpn

/-- **Columns of malformed lines.** An expression line is refused at one of its characters or just
behind them. A postfix line is refused at a word, at the number of the bytes before it and one. That
is the number of the characters before it and one exactly if all of these have one byte. -/
theorem malformed_columns (line : String) (w : Workspace) (message : String) (column : ℕ) :
    ((Calc.evalLine line w).1 = .error (.malformed message column) →
      1 ≤ column ∧ column ≤ line.length + 1) ∧
    ((Rpn.evalLine line w).1 = .error (.malformed message column) →
      ∃ front word before, Rpn.RefusedAt line w message column front word before) :=
  ⟨Calc.column_bounds, Rpn.exists_refusedAt⟩

/-- Behind a blank of three bytes the column of a word is outside of its line. -/
theorem Rpn.evalLine_wideBlank :
    (Rpn.evalLine "\u3000+" ⟨.empty, .empty⟩).1 =
        .error (.malformed "stack underflow at '+'" 4) ∧
      Text.Behind "\u3000+".toList ['\u3000'] "+" ∧
      ['\u3000'].length + 1 = 2 ∧ "\u3000+".length + 1 = 3 := by
  have hwords : Text.words "\u3000+" = [⟨3, "+"⟩] := by decide +kernel
  have hblank : ∀ c ∈ ['\u3000'].getLast?, Text.isBlank c = true := by
    rintro _ ⟨⟩
    rfl
  refine ⟨?_, ⟨by decide, hblank, [], rfl, nofun⟩, rfl, rfl⟩
  simp only [evalLine, hwords, runWords]
  rfl

end LineRepl
