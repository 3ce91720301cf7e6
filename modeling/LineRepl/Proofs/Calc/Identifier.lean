/-
Names in expression lines: the texts that the lexer reads as one identifier, and the lines that
consist of one.

* `Identifier`: names, by their characters.
* `tokenize_eq_ident_iff`: they are what the lexer reads as one identifier.
* `evalLine_of_identifier`: the answer to a line that is a bound name.
-/
import LineRepl.Calc.Eval
import LineRepl.Proofs.Calc.Completeness
import LineRepl.Proofs.Words
import Mathlib.Data.List.TakeWhile

namespace LineRepl.Calc

open Text (isBlank isNameContinue isNameStart)

/-- The text is a name: all of its characters belong in names, and the first one may start a
name. -/
def Identifier (text : String) : Prop :=
  text.toList.head?.any isNameStart = true ∧ text.toList.all isNameContinue = true

instance (text : String) : Decidable (Identifier text) :=
  inferInstanceAs (Decidable (_ ∧ _))

/-- Names by their first character and the others. -/
lemma identifier_iff {text : String} :
    Identifier text ↔ ∃ c cs, text.toList = c :: cs ∧ isNameStart c = true ∧
      ∀ d ∈ cs, isNameContinue d = true := by
  rw [Identifier]
  cases text.toList with
  | nil => simp
  | cons c cs =>
      have hstart := @Text.isNameContinue_of_isNameStart c
      simp only [List.head?_cons, Option.any_some, List.all_cons, Bool.and_eq_true,
        List.all_eq_true, List.cons.injEq]
      constructor
      · rintro ⟨h, -, hcs⟩
        exact ⟨c, cs, ⟨rfl, rfl⟩, h, hcs⟩
      · rintro ⟨_, _, ⟨rfl, rfl⟩, h, hcs⟩
        exact ⟨h, hstart h, hcs⟩

/-- There is no blank in a name. -/
lemma Identifier.isWord {text : String} (h : Identifier text) : Text.IsWord text := by
  obtain ⟨c, cs, htext, -, -⟩ := identifier_iff.mp h
  refine Text.isWord_iff.mpr ⟨htext ▸ List.cons_ne_nil c cs, fun d hd => ?_⟩
  exact Text.isBlank_eq_false_of_isNameContinue (List.all_eq_true.mp h.2 d hd)

/-! ### The lexer -/

/-- No operator is read as a name. -/
lemma scanOperator_ne_ident (c : Char) (next : Option Char) (name : String) (n : ℕ) :
    scanOperator c next ≠ some (.ident name, n) := by
  unfold scanOperator
  split <;> simp

/-- Nor is a number. -/
lemma scanNumber_ne_ident (c : Char) (cs : List Char) (name : String) (n : ℕ) :
    scanNumber c cs ≠ .ok (.ident name, n) := by
  have hinteger (digits : List Char) : scanNumber.integer digits ≠ .ok (.ident name, n) := by
    unfold scanNumber.integer
    simp only
    split <;> simp
  unfold scanNumber
  simp only
  split
  · split
    · simp
    · exact hinteger _
  · exact hinteger _

/-- A token is a name if its first character starts names. It has as many of the next characters as
belong in names. -/
lemma scan_eq_ident_iff {c : Char} {cs : List Char} {name : String} {n : ℕ} :
    scan c cs = .ok (.ident name, n) ↔ isNameStart c = true ∧
      name = String.ofList (c :: cs.takeWhile isNameContinue) ∧
      n = (cs.takeWhile isNameContinue).length := by
  rw [scan]
  split_ifs with hdigit hstart hquote
  · have hnot : isNameStart c ≠ true := fun h =>
      absurd hdigit (by simp [Text.isDigit_eq_false_of_isNameStart h])
    simp [scanNumber_ne_ident, hnot]
  · simp [hstart, eq_comm]
  · cases scanString cs <;> simp [hstart]
  · cases hoperator : scanOperator c cs.head? with
    | none => simp [hstart]
    | some found =>
        have hne := hoperator ▸ scanOperator_ne_ident c cs.head? name n
        simp only [Except.ok.injEq, hstart, Bool.false_eq_true, false_and, iff_false]
        exact fun h => hne (congrArg some h)

/-- The tokens of a text that does not start with a blank: the token at its front, and those of what
is left. -/
lemma tokenizeFrom_eq_ok_cons_iff {column : ℕ} {c : Char} {cs : List Char} {t : PlacedToken}
    {ts : List PlacedToken} (hblank : isBlank c = false) :
    tokenizeFrom column (c :: cs) = .ok (t :: ts) ↔ t.column = column ∧
      ∃ n, scan c cs = .ok (t.token, n) ∧
        tokenizeFrom (column + 1 + n) (cs.drop n) = .ok ts := by
  obtain ⟨token, place⟩ := t
  rw [tokenizeFrom, if_neg (by simp [hblank])]
  cases scan c cs with
  | error fault => simp
  | ok found =>
      obtain ⟨token', n⟩ := found
      cases hrest : tokenizeFrom (column + 1 + n) (cs.drop n) with
      | error e =>
          simp only [hrest, Except.map, reduceCtorEq, Except.ok.injEq, Prod.mk.injEq, false_iff]
          rintro ⟨-, n', ⟨-, rfl⟩, h⟩
          cases hrest.symm.trans h
      | ok ts' =>
          simp only [hrest, Except.map, Except.ok.injEq, List.cons.injEq, PlacedToken.mk.injEq,
            Prod.mk.injEq]
          constructor
          · rintro ⟨⟨rfl, rfl⟩, rfl⟩
            exact ⟨rfl, n, ⟨rfl, rfl⟩, hrest⟩
          · rintro ⟨rfl, _, ⟨rfl, rfl⟩, h⟩
            exact ⟨⟨rfl, rfl⟩, Except.ok.inj (hrest.symm.trans h)⟩

/-- Tokens are placed from the first column on. -/
lemma le_column_of_tokenizeFrom {column : ℕ} {cs : List Char} {t : PlacedToken}
    {ts : List PlacedToken} (h : tokenizeFrom column cs = .ok (t :: ts)) : column ≤ t.column := by
  induction cs generalizing column with
  | nil => simp [tokenizeFrom] at h
  | cons c cs ih =>
      cases hblank : isBlank c with
      | true =>
          rw [tokenizeFrom, if_pos hblank] at h
          exact Nat.le_of_succ_le (ih h)
      | false => exact ((tokenizeFrom_eq_ok_cons_iff hblank).mp h).1.ge

/-- **What the lexer reads as one identifier** that starts in the first column and is all of the
text. -/
theorem tokenize_eq_ident_iff {text : String} :
    tokenize text = .ok [⟨.ident text, 1⟩] ↔ Identifier text := by
  rw [identifier_iff, tokenize]
  cases htext : text.toList with
  | nil => simp [tokenizeFrom]
  | cons c cs =>
      constructor
      · intro h
        cases hblank : isBlank c with
        | true =>
            rw [tokenizeFrom, if_pos hblank] at h
            exact absurd (le_column_of_tokenizeFrom h) (Nat.not_succ_le_self 1)
        | false =>
            obtain ⟨-, n, hscan, -⟩ := (tokenizeFrom_eq_ok_cons_iff hblank).mp h
            obtain ⟨hstart, hname, -⟩ := scan_eq_ident_iff.mp hscan
            rw [hname, String.toList_ofList, List.cons.injEq, List.takeWhile_eq_self_iff] at htext
            exact ⟨c, cs, rfl, hstart, htext.2⟩
      · rintro ⟨_, _, ⟨rfl, rfl⟩, hstart, hcs⟩
        have hblank := Text.isBlank_eq_false_of_isNameContinue
          (Text.isNameContinue_of_isNameStart hstart)
        have htake : cs.takeWhile isNameContinue = cs := List.takeWhile_eq_self_iff.mpr hcs
        refine (tokenizeFrom_eq_ok_cons_iff hblank).mpr ⟨rfl, cs.length, ?_, ?_⟩
        · rw [scan_eq_ident_iff, htake, ← htext, String.ofList_toList]
          exact ⟨hstart, rfl, rfl⟩
        · rw [List.drop_length, tokenizeFrom]

/-- The answer to a line that is a bound name. -/
lemma evalLine_of_identifier {name : String} {v : Value} {w : Workspace} (h : Identifier name)
    (hv : w.bindings.get? name = some v) : evalLine name w = (.value v, w) := by
  have hparse : parse [⟨.ident name, 1⟩] = .ok (.expr (.var name)) :=
    Grammar.parse_eq_ok_iff.mpr (.expr ((Grammar.Primary.var name).expression (by decide)))
  rw [evalLine, tokenize_eq_ident_iff.mpr h]
  simp only [hparse, Statement.run, Expr.eval, lookup, hv, withStore]

end LineRepl.Calc
