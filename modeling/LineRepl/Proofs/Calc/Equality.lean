/-
Equality of values as expressions see it.

What is compared of a value is its content. Numbers of either kind have a magnitude there, a list
the contents of its items, a stream its handle and an object its identity. What is not a number has
no content, and neither has a list with such an item at any depth. Two values are equal if they have
the same content.

* `Binary64.magnitude?`, `Binary64.eq_iff_magnitude?`: floats are equal by magnitude.
* `Value.content?`, `Value.same_iff`: what is compared of a value inside a list.
* `comparand?`, `looselyEqual_iff`: what is compared of an operand.
* `HoldsNan`: something that is not a number is in the value.
* `equality_partial_equivalence`: equality is symmetric and transitive, and a value is equal to
  itself if and only if nothing in it is not a number.
-/
import LineRepl.Calc.Operator
import LineRepl.Proofs.Binary64.Integer

namespace LineRepl

/-! ### Floats -/

/-- How large a number is, on a scale with two infinite ends. -/
inductive Magnitude where
  | infinite (negative : Bool)
  | finite (q : ℚ)

namespace Binary64

/-- The magnitude of a float, unless it is not a number. -/
def magnitude? : Binary64 → Option Magnitude
  | .nan => none
  | .infinite negative => some (.infinite negative)
  | .finite negative mantissa exponent h =>
    (Binary64.finite negative mantissa exponent h).value?.map .finite

lemma magnitude?_of_value? {x : Binary64} {q : ℚ} (h : x.value? = some q) :
    x.magnitude? = some (.finite q) := by
  cases x with
  | nan | infinite => exact nomatch h
  | finite => rw [magnitude?, h, Option.map_some]

/-- A float that is not a number is compared as equal to nothing. -/
lemma magnitude?_eq_none_iff {x : Binary64} : x.magnitude? = none ↔ x = .nan := by
  cases x <;> simp [magnitude?, value?]

/-- Floats are equal if they have the same magnitude. Zeros of either sign have. -/
lemma eq_iff_magnitude? {x y : Binary64} :
    x.eq y = true ↔ ∃ m, x.magnitude? = some m ∧ y.magnitude? = some m := by
  cases x with
  | nan => simp [Binary64.eq, compare?, magnitude?]
  | infinite s =>
      cases y with
      | nan => simp [Binary64.eq, compare?, magnitude?]
      | infinite t => cases s <;> cases t <;> simp [Binary64.eq, compare?, magnitude?]
      | finite => cases s <;> simp [Binary64.eq, compare?, magnitude?, value?]
  | finite s m e h =>
      cases y with
      | nan => simp [Binary64.eq, compare?, magnitude?]
      | infinite t => cases t <;> simp [Binary64.eq, compare?, magnitude?, value?]
      | finite t n f h' =>
          rw [Binary64.eq_iff rfl rfl, magnitude?_of_value? rfl, magnitude?_of_value? rfl]
          simp [eq_comm]

end Binary64

/-! ### Values inside lists -/

namespace Value

/-- What is compared of a value. -/
inductive Content where
  | bool (b : Bool)
  | int (n : Int64)
  | magnitude (m : Magnitude)
  | str (s : String)
  | list (items : List Content)
  | stream (handle : ℕ)
  | function (f : NativeFunction)
  | object (identity : ℕ)

mutual

/-- The content of a value, unless something in it is not a number. Integers and floats have
contents of their own kinds. -/
def content? : Value → Option Content
  | .bool b => some (.bool b)
  | .int n => some (.int n)
  | .float x => x.magnitude?.map .magnitude
  | .str s => some (.str s)
  | .list items => (contents? items).map .list
  | .stream handle => some (.stream handle)
  | .function f => some (.function f)
  | .object o => some (.object o.identity)

/-- The contents of the items of a list, if all of them have one. -/
def contents? : List Value → Option (List Content)
  | [] => some []
  | v :: rest =>
    match content? v, contents? rest with
    | some c, some cs => some (c :: cs)
    | _, _ => none

end

/-- Two of them are there, and they are the same. -/
def Coincide {α : Type} (a b : Option α) : Prop := ∃ x, a = some x ∧ b = some x

section Coincide

variable {α β : Type} {a b c : Option α}

lemma Coincide.symm (h : Coincide a b) : Coincide b a := by
  obtain ⟨x, ha, hb⟩ := h
  exact ⟨x, hb, ha⟩

lemma Coincide.trans (h : Coincide a b) (h' : Coincide b c) : Coincide a c := by
  obtain ⟨x, ha, hb⟩ := h
  obtain ⟨y, hb', hc⟩ := h'
  obtain rfl : x = y := Option.some_inj.mp (hb.symm.trans hb')
  exact ⟨x, ha, hc⟩

/-- What is there coincides with itself. -/
lemma coincide_self_iff : Coincide a a ↔ a ≠ none := by
  rw [Coincide, Option.ne_none_iff_exists']
  simp only [and_self]

lemma coincide_some_iff {x y : α} : Coincide (some x) (some y) ↔ x = y := by
  simp [Coincide, eq_comm]

/-- An injective map keeps what coincides. -/
lemma coincide_map_iff {f : α → β} (hf : ∀ x y, f x = f y → x = y) :
    Coincide (a.map f) (b.map f) ↔ Coincide a b := by
  constructor
  · rintro ⟨z, ha, hb⟩
    obtain ⟨x, rfl, rfl⟩ := Option.map_eq_some_iff.mp ha
    obtain ⟨y, rfl, hy⟩ := Option.map_eq_some_iff.mp hb
    exact ⟨x, rfl, congrArg some (hf y x hy)⟩
  · rintro ⟨x, rfl, rfl⟩
    exact ⟨f x, rfl, rfl⟩

/-- For what is compared as it is. -/
lemma beq_iff_coincide [BEq α] [LawfulBEq α] {f : α → β} (hf : ∀ x y, f x = f y → x = y)
    (x y : α) : (x == y) = true ↔ Coincide (some (f x)) (some (f y)) := by
  rw [beq_iff_eq, coincide_some_iff]
  exact ⟨congrArg f, hf x y⟩

end Coincide

mutual

/-- Values are the same if they have the same content. -/
lemma same_iff : ∀ v w : Value, v.same w = true ↔ Coincide v.content? w.content?
  | .bool _, w => by
      cases w with
      | bool => exact beq_iff_coincide (fun _ _ => Content.bool.inj) _ _
      | _ => exact iff_of_false nofun (by simp [Coincide, content?])
  | .int _, w => by
      cases w with
      | int => exact beq_iff_coincide (fun _ _ => Content.int.inj) _ _
      | _ => exact iff_of_false nofun (by simp [Coincide, content?])
  | .float _, w => by
      cases w with
      | float =>
          rw [same, content?, content?, coincide_map_iff fun _ _ => Content.magnitude.inj]
          exact Binary64.eq_iff_magnitude?
      | _ => exact iff_of_false nofun (by simp [Coincide, content?])
  | .str _, w => by
      cases w with
      | str => exact beq_iff_coincide (fun _ _ => Content.str.inj) _ _
      | _ => exact iff_of_false nofun (by simp [Coincide, content?])
  | .list items, w => by
      cases w with
      | list others =>
          rw [same, sameItems_iff items others, content?, content?,
            coincide_map_iff fun _ _ => Content.list.inj]
      | _ => exact iff_of_false nofun (by simp [Coincide, content?])
  | .stream _, w => by
      cases w with
      | stream => exact beq_iff_coincide (fun _ _ => Content.stream.inj) _ _
      | _ => exact iff_of_false nofun (by simp [Coincide, content?])
  | .function _, w => by
      cases w with
      | function => exact beq_iff_coincide (fun _ _ => Content.function.inj) _ _
      | _ => exact iff_of_false nofun (by simp [Coincide, content?])
  | .object _, w => by
      cases w with
      | object => exact beq_iff_coincide (fun _ _ => Content.object.inj) _ _
      | _ => exact iff_of_false nofun (by simp [Coincide, content?])

/-- Lists are the same if their contents coincide one by one. -/
lemma sameItems_iff : ∀ items others : List Value,
    sameItems items others = true ↔ Coincide (contents? items) (contents? others)
  | [], [] => by simp [sameItems, contents?, Coincide]
  | [], w :: rest => by
      simp only [sameItems, contents?, Coincide]
      split <;> simp
  | v :: rest, [] => by
      simp only [sameItems, contents?, Coincide]
      split <;> simp
  | v :: vs, w :: ws => by
      rw [sameItems, Bool.and_eq_true, same_iff v w, sameItems_iff vs ws, contents?, contents?]
      rcases content? v with _ | c <;> rcases content? w with _ | d <;>
        rcases contents? vs with _ | cs <;> rcases contents? ws with _ | ds <;>
        simp [Coincide, eq_comm]

end

end Value

namespace Calc

open Value (Coincide content? contents?)

/-! ### Operands -/

/-- What is compared of an operand: the magnitude of a number of either kind, and the content of any
other value. -/
def comparand? (v : Value) : Option Value.Content :=
  match v.toBinary64? with
  | some x => x.magnitude?.map .magnitude
  | none => v.content?

/-- Numbers are compared by their magnitudes. -/
lemma comparand?_of_toBinary64? {v : Value} {x : Binary64} (h : v.toBinary64? = some x) :
    comparand? v = x.magnitude?.map .magnitude := by
  rw [comparand?, h]

/-- Other values are compared by their contents. -/
lemma comparand?_of_toBinary64?_eq_none {v : Value} (h : v.toBinary64? = none) :
    comparand? v = v.content? := by
  rw [comparand?, h]

/-- What is compared of a number is never what is compared of another value. -/
lemma not_coincide_of_toBinary64? {v w : Value} {x : Binary64} (hv : v.toBinary64? = some x)
    (hw : w.toBinary64? = none) : ¬Coincide (comparand? v) (comparand? w) := by
  rw [comparand?_of_toBinary64? hv, comparand?_of_toBinary64?_eq_none hw]
  rintro ⟨c, hx, hc⟩
  obtain ⟨m, -, rfl⟩ := Option.map_eq_some_iff.mp hx
  cases w with
  | int | float => exact nomatch hw
  | _ => simp [content?] at hc

/-- A number is never the same as a value that is none. -/
lemma not_same_of_toBinary64? {v w : Value} {x : Binary64} (hv : v.toBinary64? = some x)
    (hw : w.toBinary64? = none) : ¬v.same w = true ∧ ¬w.same v = true := by
  cases v with
  | int | float =>
      cases w with
      | int | float => exact nomatch hw
      | _ => exact ⟨nofun, nofun⟩
  | _ => exact nomatch hv

/-- Values are equal if what is compared of them is the same. -/
lemma looselyEqual_iff (v w : Value) :
    looselyEqual v w = true ↔ Coincide (comparand? v) (comparand? w) := by
  rw [looselyEqual]
  rcases hv : v.toBinary64? with _ | x <;> rcases hw : w.toBinary64? with _ | y
  · rw [comparand?_of_toBinary64?_eq_none hv, comparand?_of_toBinary64?_eq_none hw]
    exact Value.same_iff v w
  · exact iff_of_false (not_same_of_toBinary64? hw hv).2
      fun h => not_coincide_of_toBinary64? hw hv h.symm
  · exact iff_of_false (not_same_of_toBinary64? hv hw).1 (not_coincide_of_toBinary64? hv hw)
  · rw [comparand?_of_toBinary64? hv, comparand?_of_toBinary64? hw,
      Value.coincide_map_iff fun _ _ => Value.Content.magnitude.inj]
    exact Binary64.eq_iff_magnitude?

/-! ### What is not a number -/

/-- The value is the float that is not a number, or a list that has it for an item at some depth. -/
inductive HoldsNan : Value → Prop where
  | nan : HoldsNan (.float .nan)
  | item {items : List Value} {v : Value} (hmem : v ∈ items) (hv : HoldsNan v) :
      HoldsNan (.list items)

lemma holdsNan_float_iff {x : Binary64} : HoldsNan (.float x) ↔ x = .nan := by
  constructor
  · rintro ⟨⟩
    rfl
  · rintro rfl
    exact .nan

/-- A list holds what is not a number exactly if one of its items does. -/
lemma holdsNan_list_iff {items : List Value} :
    HoldsNan (.list items) ↔ ∃ v ∈ items, HoldsNan v := by
  constructor
  · rintro (_ | ⟨hmem, hv⟩)
    exact ⟨_, hmem, hv⟩
  · rintro ⟨v, hmem, hv⟩
    exact .item hmem hv

mutual

/-- A value has no content exactly if a float in it is not a number. -/
lemma content?_eq_none_iff : ∀ v : Value, v.content? = none ↔ HoldsNan v
  | .float x => by
      rw [content?, Option.map_eq_none_iff, Binary64.magnitude?_eq_none_iff, holdsNan_float_iff]
  | .list items => by
      rw [content?, Option.map_eq_none_iff, contents?_eq_none_iff items, holdsNan_list_iff]
  | .bool _ | .int _ | .str _ | .stream _ | .function _ | .object _ => iff_of_false nofun nofun

/-- So it is with the items of a list. -/
lemma contents?_eq_none_iff : ∀ items : List Value,
    contents? items = none ↔ ∃ v ∈ items, HoldsNan v
  | [] => by simp [contents?]
  | v :: rest => by
      rw [List.exists_mem_cons_iff, ← content?_eq_none_iff v, ← contents?_eq_none_iff rest,
        contents?]
      cases content? v <;> cases contents? rest <;> simp

end

/-- There is nothing to compare of a value if and only if something in it is not a number. -/
lemma comparand?_eq_none_iff (v : Value) : comparand? v = none ↔ HoldsNan v := by
  cases v with
  | float x =>
      rw [comparand?_of_toBinary64? rfl, Option.map_eq_none_iff, Binary64.magnitude?_eq_none_iff,
        holdsNan_float_iff]
  | int n =>
      rw [comparand?_of_toBinary64? rfl,
        Binary64.magnitude?_of_value? (Binary64.value?_ofInt_toInt n)]
      exact iff_of_false nofun nofun
  | _ =>
      rw [comparand?_of_toBinary64?_eq_none rfl]
      exact content?_eq_none_iff _

/-! ### The operators -/

/-- The first value is equal to the second. -/
def Equal (v w : Value) : Prop := binary .eq v w = .ok (.bool true)

lemma binary_eq (v w : Value) : binary .eq v w = .ok (.bool (looselyEqual v w)) := rfl

lemma binary_ne (v w : Value) : binary .ne v w = .ok (.bool (!looselyEqual v w)) := rfl

/-- Values are equal if what is compared of them coincides. -/
lemma equal_iff {v w : Value} : Equal v w ↔ Coincide (comparand? v) (comparand? w) := by
  rw [Equal, binary_eq, ← looselyEqual_iff, Except.ok.injEq, Value.bool.injEq]

/-- Equality does not depend on the side. -/
lemma looselyEqual_comm (v w : Value) : looselyEqual v w = looselyEqual w v := by
  rw [Bool.eq_iff_iff, looselyEqual_iff, looselyEqual_iff]
  exact ⟨Coincide.symm, Coincide.symm⟩

/-- **Equality is a partial equivalence.** The operators of equality have an answer for any two
values: the same in both directions, and inequality the opposite one. Equality is transitive, and a
value is equal to itself if and only if nothing in it is not a number. -/
theorem equality_partial_equivalence :
    (∀ v w : Value, ∃ answer,
      binary .eq v w = .ok (.bool answer) ∧ binary .eq w v = .ok (.bool answer) ∧
        binary .ne v w = .ok (.bool !answer)) ∧
    (∀ u v w : Value, Equal u v → Equal v w → Equal u w) ∧
    ∀ v : Value, Equal v v ↔ ¬HoldsNan v := by
  refine ⟨fun v w => ⟨looselyEqual v w, binary_eq v w, ?_, binary_ne v w⟩, fun u v w huv hvw => ?_,
    fun v => ?_⟩
  · rw [binary_eq, looselyEqual_comm]
  · rw [equal_iff] at huv hvw ⊢
    exact huv.trans hvw
  · rw [equal_iff, Value.coincide_self_iff, ne_eq, comparand?_eq_none_iff]

end Calc

end LineRepl
