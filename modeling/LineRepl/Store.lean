/-
Streams, and the store that all streams of a session live in.

A stream is a sequence of items, finite or not, and the number of items that have been
pulled from it. An item can be broken: pulling it ends in a panic, but uses it
up.

* `Stream.pull`: the next item, and the stream one item on.
* `Store.insert`: puts a stream into the store and gives its handle.
-/
import LineRepl.Value

namespace LineRepl

/-- An abrupt end of a computation. What is reported is the payload, if it is a
text. -/
structure Panic where
  payload : Option String
  deriving DecidableEq, Repr

/-- The text of a panic. -/
def Panic.message (p : Panic) : String := p.payload.getD "unknown panic payload"

/-- Why a computation stopped without an answer: it failed for a reason of type
`ε`, or it panicked. -/
inductive Stop (ε : Type) where
  | fault (e : ε)
  | panic (p : Panic)
  deriving DecidableEq, Repr

/-! ### Streams -/

/-- What a pull from a stream gives: a value, or a panic in place of one. -/
inductive Item where
  | value (v : Value)
  | broken (p : Panic)
  deriving Repr

/-- A sequence of items and how many of them have been pulled. The sequence ends at
the first index that has no item. -/
structure Stream where
  item : Nat → Option Item
  position : Nat

namespace Stream

/-- The stream of a sequence of which nothing has been pulled. -/
def start (item : Nat → Option Item) : Stream := ⟨item, 0⟩

/-- The stream of the values of a list. -/
def ofList (values : List Value) : Stream :=
  let items := values.toArray
  start fun i => items[i]?.map .value

/-- The integers from `first` on that are below `bound`. -/
def range (first bound : Int64) : Stream :=
  start fun i =>
    let n := first.toInt + i
    if n < bound.toInt then some (.value (.int (Int64.ofInt n))) else none

/-- The natural numbers. -/
def naturals : Stream := start fun i => some (.value (.int (Int64.ofNat i)))

/-- The next item, if there is one, and the stream after it. -/
def pull (s : Stream) : Option (Item × Stream) :=
  (s.item s.position).map fun i => (i, { s with position := s.position + 1 })

end Stream

/-! ### The store -/

/-- The streams that handles refer to, and how many objects have been made. -/
structure Store where
  streams : Array Stream
  objects : Nat

namespace Store

/-- The store without streams and objects. -/
def empty : Store := ⟨#[], 0⟩

instance : Inhabited Store := ⟨empty⟩

/-- The stream of a handle. A handle that refers to nothing stands for a stream
without items. -/
def stream (store : Store) (handle : Nat) : Stream :=
  store.streams[handle]?.getD (.ofList [])

/-- Puts the stream into the store and gives the handle that refers to it. -/
def insert (store : Store) (s : Stream) : Nat × Store :=
  (store.streams.size, { store with streams := store.streams.push s })

/-- Replaces the stream of a handle. -/
def put (store : Store) (handle : Nat) (s : Stream) : Store :=
  { store with streams := store.streams.setIfInBounds handle s }

/-- An identity that no object has yet. -/
def identity (store : Store) : Nat × Store :=
  (store.objects, { store with objects := store.objects + 1 })

end Store

end LineRepl
