/-
Showing a stream page by page: one item to a line, and after every full page a pause that waits for
a line from the console.

An item is pulled before it is known whether there is room for it on the page; a listing that
ends at a pause has used that item up.

* `turnPage`: room for one more line, after a pause if the page is full.
* `listing`: all lines of a stream, until the stream or the input ends.
-/
import LineRepl.Console

namespace LineRepl

/-- How streams are shown: how many lines make a page, and whether lines carry their
numbers. -/
structure Paginator where
  limit : Nat
  limit_pos : 0 < limit
  numbered : Bool

/-- What a listing did: how many lines it wrote, and whether the input ended at a
pause. -/
structure Listing where
  lines : Nat
  cut : Bool
  deriving DecidableEq, Repr

namespace Paginator

/-- A page of the given number of lines, at least one, without line numbers. -/
def ofLimit (limit : Nat) : Paginator := ⟨max limit 1, by omega, false⟩

/-- A hundred lines make a page. -/
def default : Paginator := ofLimit 100

instance : Inhabited Paginator := ⟨default⟩

/-- Changes the number of lines of a page; there is at least one. -/
def setLimit (p : Paginator) (limit : Nat) : Paginator :=
  { p with limit := max limit 1, limit_pos := by omega }

/-- The prompt of a pause. -/
def pausePrompt (lines : Nat) : String :=
  "Line " ++ naturalText lines ++ ". Press enter key to continue."

/-- The line of an item, of which `lines` lines came before. -/
def lineText (p : Paginator) (lines : Nat) (v : Value) : String :=
  (if p.numbered then naturalText lines ++ " " else "") ++ v.text ++ "\n"

variable {κ : Type} [Console κ]

/-- The room that is left on the page after one more line. A full page waits for a line from the
console, without which there is no room. -/
def turnPage (p : Paginator) (lines : Nat) (room : Nat) (c : κ) :
    Except IoError (Option Nat) × κ :=
  match room with
  | room + 1 => (.ok (some room), c)
  | 0 =>
    match Console.readLine (pausePrompt lines) c with
    | (.error e, c) => (.error e, c)
    | (.ok none, c) => (.ok none, c)
    | (.ok (some _), c) => (.ok (some (p.limit - 1)), c)

/-- Turning a page adds no input. -/
theorem remaining_turnPage_le (p : Paginator) (lines room : Nat) (c : κ) :
    Console.remaining (turnPage p lines room c).2 ≤ Console.remaining c := by
  have h := Console.readLine_le (pausePrompt lines) c
  unfold turnPage
  cases room with
  | succ _ => exact Nat.le_refl _
  | zero => simp only; split <;> simp_all

/-- Room for a line is either taken from the page or paid for with a line of input. -/
theorem turnPage_room (p : Paginator) (lines room : Nat) (c : κ) {room' : Nat}
    (h : (turnPage p lines room c).1 = .ok (some room')) :
    Console.remaining (turnPage p lines room c).2 < Console.remaining c ∨
      Console.remaining (turnPage p lines room c).2 = Console.remaining c ∧ room' < room := by
  unfold turnPage at h ⊢
  cases room with
  | succ _ => right; simp_all
  | zero =>
    left
    have hlt := Console.readLine_lt (pausePrompt lines) c
    simp only at h ⊢
    split <;> simp_all

/-- Writes the items of a stream, of which `lines` have been written and `room` still fit on the
page. -/
def listingFrom (p : Paginator) (lines room : Nat) (s : Stream) (c : κ) :
    Except (Stop IoError) Listing × Stream × κ :=
  match s.pull with
  | none => (.ok ⟨lines, false⟩, s, c)
  | some (.broken panic, s) => (.error (.panic panic), s, c)
  | some (.value v, s) =>
    match _turned : turnPage p lines room c with
    | (.error e, c) => (.error (.fault e), s, c)
    | (.ok none, c) => (.ok ⟨lines, true⟩, s, c)
    | (.ok (some room), c₁) =>
      match hw : Console.write (p.lineText lines v) c₁ with
      | (.error e, c) => (.error (.fault e), s, c)
      | (.ok (), c₂) => listingFrom p (lines + 1) room s c₂
  termination_by (Console.remaining c, room)
  decreasing_by
    have hr := turnPage_room p lines _ c (by rw [_turned])
    have hle := Console.write_le (p.lineText lines v) c₁
    rw [hw] at hle
    rw [_turned] at hr
    simp only at hr hle
    rcases hr with hr | ⟨hr, hroom⟩
    · exact Prod.Lex.left _ _ (by omega)
    · rcases Nat.lt_or_eq_of_le hle with hlt | heq
      · exact Prod.Lex.left _ _ (by omega)
      · rw [heq, hr]
        exact Prod.Lex.right _ hroom

/-- Writes the items of a stream from the top of a page. -/
def listing (p : Paginator) (s : Stream) (c : κ) : Except (Stop IoError) Listing × Stream × κ :=
  listingFrom p 0 p.limit s c

/-- A listing adds no input. -/
theorem remaining_listingFrom_le (p : Paginator) (lines room : Nat) (s : Stream) (c : κ) :
    Console.remaining (listingFrom p lines room s c).2.2 ≤ Console.remaining c := by
  fun_induction listingFrom p lines room s c with
  | case1 | case2 => exact Nat.le_refl _
  | case3 lines room s c _ _ _ e c' h | case4 lines room s c _ _ _ c' h =>
    have := remaining_turnPage_le p lines room c
    rwa [h] at this
  | case5 lines room s c v _ _ room' c₁ h e c₂ hw =>
    have := remaining_turnPage_le p lines room c
    have hle := Console.write_le (p.lineText lines v) c₁
    rw [h] at this
    rw [hw] at hle
    exact Nat.le_trans hle this
  | case6 lines room s c v _ _ room' c₁ h c₂ hw ih =>
    have := remaining_turnPage_le p lines room c
    have hle := Console.write_le (p.lineText lines v) c₁
    rw [h] at this
    rw [hw] at hle
    exact Nat.le_trans ih (Nat.le_trans hle this)

end Paginator

end LineRepl
