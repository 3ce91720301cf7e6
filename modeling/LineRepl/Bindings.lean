/-
The names that lines can use, with their values. Names are listed in the order in
which they were first bound; giving a bound name a new value keeps its place.

* `Bindings.get?`: looks up a name.
* `Bindings.exchange`, `Bindings.take`: bind and unbind a name, and tell the value it had.
* `Bindings.set`, `Bindings.remove`: the same for callers that have no use for the old value.
* `lastResult`: the reserved name of the value printed last.
-/
import LineRepl.Store

namespace LineRepl

/-- The reserved name that is bound to the value printed last. -/
def lastResult : String := "_"

/-- Names and their values, in the order of first binding. -/
structure Bindings where
  entries : List (String × Value)
  deriving Repr

namespace Bindings

/-- No names. -/
def empty : Bindings := ⟨[]⟩

instance : Inhabited Bindings := ⟨empty⟩

/-- The value of a name. -/
def get? (b : Bindings) (name : String) : Option Value := b.entries.lookup name

/-- The name is bound. -/
def contains (b : Bindings) (name : String) : Bool := (b.get? name).isSome

/-- Gives the first entry of a name a new value, or adds an entry at the end, and tells the value
that was replaced. -/
def exchangeEntry (name : String) (v : Value) :
    List (String × Value) → Option Value × List (String × Value)
  | [] => (none, [(name, v)])
  | (n, w) :: rest =>
    if n == name then (some w, (n, v) :: rest)
    else (exchangeEntry name v rest).map id ((n, w) :: ·)

/-- Binds a name to a value, in place of its old value if it has one, and tells the old one. -/
def exchange (b : Bindings) (name : String) (v : Value) : Option Value × Bindings :=
  (exchangeEntry name v b.entries).map id Bindings.mk

/-- Binds a name to a value. -/
def set (b : Bindings) (name : String) (v : Value) : Bindings := (b.exchange name v).2

/-- Binding a name looks at one entry after another. -/
theorem set_cons (name : String) (v : Value) (n : String) (w : Value)
    (rest : List (String × Value)) :
    set ⟨(n, w) :: rest⟩ name v =
      if n == name then ⟨(n, v) :: rest⟩ else ⟨(n, w) :: (set ⟨rest⟩ name v).entries⟩ := by
  rw [set, exchange, exchangeEntry]
  split <;> rfl

/-- A name is bound to what it was bound to last. -/
theorem get?_set_self (b : Bindings) (name : String) (v : Value) :
    (b.set name v).get? name = some v := by
  obtain ⟨entries⟩ := b
  induction entries with
  | nil => exact List.lookup_cons_self
  | cons entry rest ih =>
    obtain ⟨n, w⟩ := entry
    rw [set_cons]
    split
    next hname => rw [beq_iff_eq.mp hname]; exact List.lookup_cons_self
    next hname =>
      rw [get?, List.lookup_cons, beq_eq_false_iff_ne.mpr fun h => hname (beq_iff_eq.mpr h.symm)]
      exact ih

/-- Drops the first entry of a name and tells its value. -/
def takeEntry (name : String) :
    List (String × Value) → Option Value × List (String × Value)
  | [] => (none, [])
  | (n, w) :: rest =>
    if n == name then (some w, rest) else (takeEntry name rest).map id ((n, w) :: ·)

/-- Unbinds a name and tells the value it had. -/
def take (b : Bindings) (name : String) : Option Value × Bindings :=
  (takeEntry name b.entries).map id Bindings.mk

/-- Unbinds a name. -/
def remove (b : Bindings) (name : String) : Bindings := (b.take name).2

/-- The number of names. -/
def size (b : Bindings) : Nat := b.entries.length

/-- The names with the kinds of their values, in order. -/
def kinds (b : Bindings) : List (String × Kind) :=
  b.entries.map fun (name, v) => (name, v.kind)

end Bindings

/-- What an engine works on: the names and the store that their streams live in. -/
structure Workspace where
  bindings : Bindings
  store : Store

namespace Workspace

/-- No names and no streams. -/
def empty : Workspace := ⟨.empty, .empty⟩

instance : Inhabited Workspace := ⟨empty⟩

/-- Binds a name to a value. -/
def bind (w : Workspace) (name : String) (v : Value) : Workspace :=
  { w with bindings := w.bindings.set name v }

end Workspace

end LineRepl
