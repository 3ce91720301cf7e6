/-
Computations of a machine, which can panic.

A machine counts in numbers of bounded size and looks items up by their index. Where a sum does not
fit, a difference is below zero or there is no item, it panics. Programs are written for it here
step by step, each step with the panic it can end in; that none of them does is then a theorem about
them.

* `Run`: a computation that answers, is refused, panics, or does not end.
* `Machine`: the greatest counts that there are.
* `item`, `slice`, `add`, `subtract`: the steps that can panic.
* `Run.given`: what is answered without such steps.
-/
import LineRepl.Store
import LineRepl.Text.Blank
import Mathlib.Tactic.Common

namespace LineRepl

/-- A computation: it ends in an answer, is refused for a reason of type `ε` or panics, or it does
not end. -/
abbrev Run (ε : Type) := ExceptT (Stop ε) Option

namespace Run

variable {ε ε' α β : Type}

/-- Nothing is answered, for a reason. -/
def refuse (e : ε) : Run ε α := throw (.fault e)

/-- The computation ends abruptly. -/
def crash (message : String) : Run ε α := throw (.panic ⟨message⟩)

/-- What is answered or refused is given. -/
def given : Except ε α → Run ε α
  | .ok x => pure x
  | .error e => refuse e

/-- What is answered or refused, or a panic, is given. -/
def ended : Except (Stop ε) α → Run ε α
  | .ok x => pure x
  | .error stop => throw stop

/-- The reason why a computation was refused is part of the answer. -/
def caught (r : Run ε α) : Run ε' (Except ε α) :=
  match r.run with
  | none => none
  | some (.ok x) => pure (.ok x)
  | some (.error (.fault e)) => pure (.error e)
  | some (.error (.panic p)) => throw (.panic p)

/-- The reason is told otherwise. -/
def refusedAs (f : ε → ε') (r : Run ε α) : Run ε' α := do
  match ← caught r with
  | .ok x => pure x
  | .error e => refuse (f e)

@[simp] lemma refuse_bind (e : ε) (f : α → Run ε β) : (refuse e >>= f) = refuse e := rfl

@[simp] lemma map_refuse (f : α → β) (e : ε) : f <$> (refuse e : Run ε α) = refuse e := rfl

@[simp] lemma given_ok (x : α) : given (.ok x : Except ε α) = pure x := rfl

@[simp] lemma given_error (e : ε) : given (.error e : Except ε α) = refuse e := rfl

@[simp] lemma ended_ok (x : α) : ended (.ok x : Except (Stop ε) α) = pure x := rfl

@[simp] lemma caught_given (r : Except ε α) :
    (caught (given r) : Run ε' (Except ε α)) = pure r := by
  cases r <;> rfl

end Run

/-! ### Steps -/

/-- The greatest counts of a machine: of what is indexed, and of levels of nesting. Texts lie in its
memory from an address on. -/
structure Machine where
  index : ℕ
  depth : ℕ
  address : ℕ

namespace Machine

open Run (crash)

variable {ε α : Type}

/-- The item at an index. -/
def item (xs : List α) (i : ℕ) : Run ε α :=
  match xs[i]? with
  | some x => pure x
  | none =>
    crash ("index out of bounds: the len is " ++ naturalText xs.length ++ " but the index is " ++
      naturalText i)

/-- The items from an index up to before another one. -/
def slice (xs : List α) (start stop : ℕ) : Run ε (List α) :=
  if stop < start then
    crash ("slice index starts at " ++ naturalText start ++ " but ends at " ++ naturalText stop)
  else if xs.length < stop then
    crash ("range end index " ++ naturalText stop ++ " out of range for slice of length " ++
      naturalText xs.length)
  else pure ((xs.take stop).drop start)

/-- The text from a byte on. -/
def sliceFrom (bytes : ℕ) (cs : List Char) : Run ε (List Char) :=
  match bytes, cs with
  | 0, cs => pure cs
  | _ + 1, [] => crash "start byte index is out of bounds"
  | bytes + 1, c :: rest =>
    if bytes + 1 < c.utf8Size then crash "start byte index is not a char boundary"
    else sliceFrom (bytes + 1 - c.utf8Size) rest
  termination_by cs.length

/-- The sum, if it is not above the greatest count. -/
def add (limit m n : ℕ) : Run ε ℕ :=
  if m + n ≤ limit then pure (m + n) else crash "attempt to add with overflow"

/-- The difference, if it is not below zero. -/
def subtract (m n : ℕ) : Run ε ℕ :=
  if n ≤ m then pure (m - n) else crash "attempt to subtract with overflow"

lemma item_length (front : List α) (x : α) (rest : List α) :
    (item (front ++ x :: rest) front.length : Run ε α) = pure x := by
  rw [item, List.getElem?_append_right (Nat.le_refl _), Nat.sub_self, List.getElem?_cons_zero]

lemma slice_length (front middle rest : List α) :
    (slice (front ++ (middle ++ rest)) front.length (front.length + middle.length) :
      Run ε (List α)) = pure middle := by
  rw [slice, if_neg (by omega), if_neg (by simp), List.take_length_add_append, List.take_left,
    List.drop_left]

/-- The text behind its first byte begins at a character, if the first one has one byte. -/
lemma sliceFrom_cons {c : Char} (hc : c.utf8Size = 1) (cs : List Char) :
    (sliceFrom 1 (c :: cs) : Run ε (List Char)) = pure cs := by
  rw [sliceFrom, if_neg (by omega), hc, sliceFrom]

/-- A sum below the limit is exact. -/
lemma add_eq {limit m n : ℕ} (h : m + n ≤ limit) : (add limit m n : Run ε ℕ) = pure (m + n) :=
  if_pos h

/-- So is a difference that is not negative. -/
lemma subtract_eq {m n : ℕ} (h : n ≤ m) : (subtract m n : Run ε ℕ) = pure (m - n) := if_pos h

end Machine

end LineRepl
