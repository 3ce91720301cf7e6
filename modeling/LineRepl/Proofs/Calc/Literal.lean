/-
How values are written as expressions.

Truth values are names and negative integers are negated literals, so a written value is a tree to
evaluate and no literal of its own. The least integer cannot be written: its magnitude is no integer
of 64 bits.

* `Value.Plain`: truth values, integers, and lists of them that are nested to a given depth.
* `Value.Holds`: an integer stands in a value.
* `Literal`: the tokens and the tree of a written value.
* `exists_literal`: which values can be written.
* `Literal.expression`: the tokens are an expression where they are not nested too deeply.
* `Literal.eval`: the tree has the value.
-/
import LineRepl.Proofs.Calc.Formula
import LineRepl.Proofs.Calc.Grammar

namespace LineRepl

namespace Value

/-- The value is made of truth values, integers and lists, and lists are nested at most `n` deep. -/
inductive Plain : ℕ → Value → Prop where
  | bool {n : ℕ} (b : Bool) : Plain n (.bool b)
  | int {n : ℕ} (k : Int64) : Plain n (.int k)
  | list {n : ℕ} {items : List Value} : (∀ v ∈ items, Plain n v) → Plain (n + 1) (.list items)

/-- The integer is the value, or it stands in the lists that the value is made of. -/
inductive Holds (k : Int64) : Value → Prop where
  | int : Holds k (.int k)
  | item {v : Value} {items : List Value} : v ∈ items → Holds k v → Holds k (.list items)

section

variable {k n : Int64} {items : List Value}

@[simp] lemma not_holds_bool (b : Bool) : ¬ Holds k (.bool b) := nofun

@[simp] lemma holds_int_iff : Holds k (.int n) ↔ n = k := by
  constructor
  · rintro ⟨⟩
    rfl
  · rintro rfl
    exact .int

@[simp] lemma holds_list_iff : Holds k (.list items) ↔ ∃ v ∈ items, Holds k v := by
  constructor
  · intro h
    cases h with
    | item hv h => exact ⟨_, hv, h⟩
  · rintro ⟨v, hv, h⟩
    exact .item hv h

end

end Value

namespace Calc

open Grammar (Expression Items Primary Signed)

mutual

/-- The tokens that a value is written as and the tree that they spell, for lists that are nested at
most `n` deep. -/
inductive Literal : ℕ → Value → List Token → Expr → Prop where
  | bool {n : ℕ} (b : Bool) :
      Literal n (.bool b) [.ident (Value.bool b).text] (.var (Value.bool b).text)
  | int {n : ℕ} {k : Int64} : 0 ≤ k.toInt → Literal n (.int k) [.int k] (.int k)
  | negative {n : ℕ} {k : Int64} : k.toInt < 0 → k ≠ Int64.minValue →
      Literal n (.int k) [.minus, .int (-k)] (.neg (.int (-k)))
  | empty {n : ℕ} : Literal (n + 1) (.list []) [.openBracket, .closeBracket] (.list [])
  | list {n : ℕ} {items : List Value} {ts : List Token} {es : List Expr} :
      LiteralItems n items ts es →
      Literal (n + 1) (.list items) (.openBracket :: (ts ++ [.closeBracket])) (.list es)

/-- The same for the items of a list, at least one, with commas between them. -/
inductive LiteralItems : ℕ → List Value → List Token → List Expr → Prop where
  | last {n : ℕ} {v : Value} {ts : List Token} {e : Expr} :
      Literal n v ts e → LiteralItems n [v] ts [e]
  | cons {n : ℕ} {v : Value} {vs : List Value} {ts us : List Token} {e : Expr} {es : List Expr} :
      Literal n v ts e → LiteralItems n vs us es →
      LiteralItems n (v :: vs) (ts ++ .comma :: us) (e :: es)

end

/-! ### What can be written -/

/-- A list is spelled if all of its items are. -/
lemma exists_literalItems {n : ℕ} {items : List Value} (hne : items ≠ [])
    (h : ∀ v ∈ items, ∃ ts e, Literal n v ts e) : ∃ ts es, LiteralItems n items ts es := by
  induction items with
  | nil => exact absurd rfl hne
  | cons v vs ih =>
      obtain ⟨⟨ts, e, hv⟩, hvs⟩ := List.forall_mem_cons.mp h
      by_cases hnil : vs = []
      · rw [hnil]
        exact ⟨ts, [e], .last hv⟩
      · obtain ⟨us, es, hitems⟩ := ih hnil hvs
        exact ⟨_, _, .cons hv hitems⟩

/-- All values without the least integer can be written. -/
lemma exists_literal {n : ℕ} {v : Value} (h : v.Plain n) (hmin : ¬ v.Holds Int64.minValue) :
    ∃ ts e, Literal n v ts e := by
  induction h with
  | bool b => exact ⟨_, _, .bool b⟩
  | int k =>
      have hk : k ≠ Int64.minValue := fun h => hmin (h ▸ .int)
      rcases Int.lt_or_le k.toInt 0 with hneg | hnonneg
      · exact ⟨_, _, .negative hneg hk⟩
      · exact ⟨_, _, .int hnonneg⟩
  | @list n items _ ih =>
      have hitems : ∀ v ∈ items, ∃ ts e, Literal n v ts e :=
        fun v hv => ih v hv fun h => hmin (.item hv h)
      by_cases hnil : items = []
      · rw [hnil]
        exact ⟨_, _, .empty⟩
      · obtain ⟨ts, es, hes⟩ := exists_literalItems hnil hitems
        exact ⟨_, _, .list hes⟩

/-! ### Parsing -/

mutual

/-- A written value is an expression. Each list is one level of nesting, and a minus sign is one
more. -/
lemma Literal.expression {n d : ℕ} {v : Value} {ts : List Token} {e : Expr}
    (hd : d + n + 1 < maxDepth) : Literal n v ts e → Expression maxDepth d ts e
  | .bool _ => (Primary.var _).expression (by omega)
  | .int _ => (Primary.int _).expression (by omega)
  | .negative _ _ => (Signed.minus (by omega) (Primary.int _).signed).expression (by omega)
  | .empty => (Primary.list .none).expression (by omega)
  | .list h => (Primary.list (.some (h.items (by omega)))).expression (by omega)

/-- The items of a literal are items of the grammar. -/
lemma LiteralItems.items {n d : ℕ} {vs : List Value} {ts : List Token} {es : List Expr}
    (hd : d + n + 1 < maxDepth) : LiteralItems n vs ts es → Items maxDepth d ts es
  | .last h => .last (h.expression hd)
  | .cons h h' => .cons (h.expression hd) (h'.items hd)

end

/-! ### Evaluation -/

/-- Where neither name is bound, a truth value is read back from its name. -/
lemma lookup_text_bool {b : Bindings} (htrue : b.get? "true" = none)
    (hfalse : b.get? "false" = none) (value : Bool) :
    lookup b (Value.bool value).text = .ok (.bool value) := by
  cases value with
  | true => simp [lookup, Value.text, htrue]
  | false => simp [lookup, Value.text, hfalse]

lemma toInt_neg_of_ne {k : Int64} (hk : k ≠ Int64.minValue) : (-k).toInt = -k.toInt := by
  have hlow : Int64.minValue.toInt ≤ k.toInt := Int64.minValue_le_toInt k
  have hhigh : k.toInt ≤ Int64.maxValue.toInt := Int64.toInt_le k
  have hne : Int64.minValue.toInt ≠ k.toInt := fun h => hk (Int64.toInt_inj.mp h).symm
  rw [Int64.toInt_minValue] at hlow hne
  rw [Int64.toInt_maxValue] at hhigh
  rw [Int64.toInt_neg, Int.bmod_eq_of_le (by omega) (by omega)]

/-- A negative integer is written with a sign and read back. -/
lemma negate_neg {k : Int64} (hk : k ≠ Int64.minValue) :
    negate (.int (-k)) = .ok (.int k) := by
  rw [negate, toInt_neg_of_ne hk, Int.neg_neg,
    Formula.exactInt_of_inRange ⟨Int64.minValue_le_toInt k, Int64.toInt_le k⟩, Int64.ofInt_toInt]

mutual

/-- A written value has itself as its value, where the names of the truth values are not bound. -/
lemma Literal.eval {n : ℕ} {v : Value} {ts : List Token} {e : Expr} {b : Bindings}
    (htrue : b.get? "true" = none) (hfalse : b.get? "false" = none) (store : Store) :
    Literal n v ts e → e.eval b store = .ok (v, store)
  | .bool value => by rw [Expr.eval, lookup_text_bool htrue hfalse, withStore]
  | .int _ => by rw [Expr.eval]
  | .negative _ hk => by
      rw [Expr.eval, Expr.eval]
      simp only [negate_neg hk, withStore]
  | .empty => by rw [Expr.eval, evalItems]
  | .list h => by rw [Expr.eval, h.eval htrue hfalse store]

/-- The items of a literal are evaluated to the items of the list, and pull from no stream. -/
lemma LiteralItems.eval {n : ℕ} {vs : List Value} {ts : List Token} {es : List Expr}
    {b : Bindings} (htrue : b.get? "true" = none) (hfalse : b.get? "false" = none)
    (store : Store) : LiteralItems n vs ts es → evalItems b es store = .ok (vs, store)
  | .last h => by
      rw [evalItems, h.eval htrue hfalse store]
      simp only [evalItems]
  | .cons h h' => by
      rw [evalItems, h.eval htrue hfalse store]
      simp only [h'.eval htrue hfalse store]

end

end Calc

end LineRepl
