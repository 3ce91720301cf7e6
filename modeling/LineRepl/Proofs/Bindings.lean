/-
What binding names does to bindings.

* `Bindings.Rebound`: one name is bound anew and all others are left alone.
* `Bindings.rebound_set`: this is what binding a name does.
* `Bindings.get?_set`: the values of all names after one was bound.
* `Bindings.AgreeOn`: some names have the same values in two bindings, or none in either.
* `Bindings.setAll`: names bound one after another.
-/
import LineRepl.Bindings
import Mathlib.Data.List.Basic

namespace LineRepl.Bindings

/-- Binding the name to the value makes the second bindings of the first: the value is in the place
of the old one if the name was bound, and after all others if it was not. -/
inductive Rebound (name : String) (v : Value) : Bindings → Bindings → Prop
  | replaced (before after : List (String × Value)) (old : Value) :
      name ∉ before.map Prod.fst →
      Rebound name v ⟨before ++ (name, old) :: after⟩ ⟨before ++ (name, v) :: after⟩
  | added {entries : List (String × Value)} :
      name ∉ entries.map Prod.fst → Rebound name v ⟨entries⟩ ⟨entries ++ [(name, v)]⟩

variable {name other : String} {v : Value}

/-- An entry of another name in front of them is left alone. -/
lemma Rebound.cons {entry : String × Value} {entries entries' : List (String × Value)}
    (h : Rebound name v ⟨entries⟩ ⟨entries'⟩) (hne : name ≠ entry.1) :
    Rebound name v ⟨entry :: entries⟩ ⟨entry :: entries'⟩ := by
  cases h with
  | replaced before after old hbefore =>
      exact .replaced (entry :: before) after old
        (List.not_mem_cons_of_ne_of_not_mem hne hbefore)
  | added hentries => exact .added (List.not_mem_cons_of_ne_of_not_mem hne hentries)

/-- Binding a name keeps its place and all other entries. -/
lemma rebound_set (name : String) (v : Value) (b : Bindings) : Rebound name v b (b.set name v) := by
  obtain ⟨entries⟩ := b
  induction entries with
  | nil => exact .added List.not_mem_nil
  | cons entry rest ih =>
      obtain ⟨n, w⟩ := entry
      rw [set_cons]
      split
      next hn =>
        obtain rfl := beq_iff_eq.mp hn
        exact .replaced [] rest w List.not_mem_nil
      next hn => exact ih.cons fun h => hn (beq_iff_eq.mpr h.symm)

/-- Binding a name changes the value of no other. -/
lemma get?_set (b : Bindings) (name other : String) (v : Value) :
    (b.set name v).get? other = if other = name then some v else b.get? other := by
  split
  next h => rw [h, get?_set_self]
  next h =>
    obtain ⟨entries⟩ := b
    induction entries with
    | nil =>
        have hother : (other == name) = false := beq_eq_false_iff_ne.mpr h
        change List.lookup other [(name, v)] = none
        rw [List.lookup_cons, hother]
        rfl
    | cons entry rest ih =>
        obtain ⟨n, w⟩ := entry
        rw [get?, get?] at ih
        rw [set_cons]
        split
        next hn =>
          obtain rfl := beq_iff_eq.mp hn
          rw [get?, get?, List.lookup_cons, List.lookup_cons, beq_eq_false_iff_ne.mpr h]
        next => rw [get?, get?, List.lookup_cons, List.lookup_cons, ih]

/-! ### Agreement on names -/

/-- The names with the property have the same values in both, or none in either. -/
def AgreeOn (P : String → Prop) (b b' : Bindings) : Prop :=
  ∀ name, P name → b.get? name = b'.get? name

/-- Bindings that agree still do after a name was bound in both. -/
lemma AgreeOn.set {P : String → Prop} {b b' : Bindings} (h : AgreeOn P b b') (name : String)
    (v : Value) : AgreeOn P (b.set name v) (b'.set name v) := by
  intro other hother
  rw [get?_set, get?_set, h other hother]

/-- Names bound to values, one after another. -/
def setAll (b : Bindings) (assigned : List (String × Value)) : Bindings :=
  assigned.foldl (fun b entry => b.set entry.1 entry.2) b

lemma setAll_append (b : Bindings) (assigned assigned' : List (String × Value)) :
    b.setAll (assigned ++ assigned') = (b.setAll assigned).setAll assigned' :=
  List.foldl_append

/-- Bindings agree as before after the same assignments. -/
lemma AgreeOn.setAll {P : String → Prop} {b b' : Bindings} (h : AgreeOn P b b')
    (assigned : List (String × Value)) : AgreeOn P (b.setAll assigned) (b'.setAll assigned) := by
  induction assigned generalizing b b' with
  | nil => exact h
  | cons entry rest ih => exact ih (h.set entry.1 entry.2)

end LineRepl.Bindings
