/-
What a call of a native function does. Streams that a call makes are put into the
store; no call pulls from a stream.
-/
import LineRepl.Store

namespace LineRepl

/-- Why a call of a native function failed. -/
inductive CallFault where
  | expectedInt (got : Kind)
  | missingArgument (index : Nat)
  | noLength (kind : Kind)
  deriving DecidableEq, Repr

/-- The wording of a failed call. -/
def CallFault.message : CallFault → String
  | .expectedInt got => "expected Int argument, got " ++ got.name
  | .missingArgument index => "missing argument " ++ naturalText index
  | .noLength kind => "len() is not defined for " ++ kind.name

namespace NativeFunction

/-- The integer argument at an index. -/
def intArgument (args : List Value) (index : Nat) : Except (Stop CallFault) Int64 :=
  match args[index]? with
  | some (.int n) => .ok n
  | some other => .error (.fault (.expectedInt other.kind))
  | none => .error (.fault (.missingArgument index))

/-- The argument at index zero of a function that takes it for granted: without
arguments it panics. -/
def soleArgument (args : List Value) : Except (Stop CallFault) Value :=
  match args with
  | v :: _ => .ok v
  | [] => .error (.panic ⟨"index out of bounds: the len is 0 but the index is 0"⟩)

/-- The length of a text in characters or of a list in items. -/
def length (v : Value) : Except (Stop CallFault) Value :=
  match v with
  | .str s => .ok (.int (Int64.ofNat s.length))
  | .list items => .ok (.int (Int64.ofNat items.length))
  | other => .error (.fault (.noLength other.kind))

/-- The value of a call, and the store with the streams that it made. -/
def call (f : NativeFunction) (args : List Value) (store : Store) :
    Except (Stop CallFault) (Value × Store) :=
  match f with
  | .range => do
    let first ← intArgument args 0
    let bound ← intArgument args 1
    let (handle, store) := store.insert (.range first bound)
    .ok (.stream handle, store)
  | .naturals =>
    let (handle, store) := store.insert .naturals
    .ok (.stream handle, store)
  | .len => do
    let v ← soleArgument args
    let n ← length v
    .ok (n, store)
  | .str => do
    let v ← soleArgument args
    .ok (.str v.text, store)

end NativeFunction

end LineRepl
