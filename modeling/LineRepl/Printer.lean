/-
Printing results: a header with the number of the result, then the value, shown by the renderer of
its kind or as its text; streams are listed page by page.

* `Printer.print`: prints a result, or nothing if there is none.
* `remaining_print_le`: printing adds no input.
-/
import LineRepl.Dialogue
import LineRepl.Paginator

namespace LineRepl

/-- How values of a kind are shown. A renderer is a function of the value alone: it can neither pull
from the streams inside of it nor keep state from one value to the next. -/
abbrev Renderer := Value → Dialogue

/-- How results are printed: the number of the next one, what stands between number and value, the
renderers of kinds, and the pages of streams. -/
structure Printer where
  outputCount : Nat
  outputPrefix : String
  renderer? : Kind → Option Renderer
  paginator : Paginator

/-- What is left of the input and of the streams after something was printed. -/
structure Surroundings (κ : Type) where
  store : Store
  console : κ

/-- What printing a result did: whether anything was printed, and the listing of a stream. -/
structure Printing where
  printed : Bool
  listing : Option Listing
  deriving DecidableEq, Repr

namespace Printer

/-- The printer of a new session. -/
def default : Printer := ⟨0, " ==> ", fun _ => none, .default⟩

instance : Inhabited Printer := ⟨default⟩

/-- Gives a kind a renderer in place of its old one. -/
def setRenderer (p : Printer) (kind : Kind) (render : Renderer) : Printer :=
  { p with renderer? := fun k => if k = kind then some render else p.renderer? k }

/-- What is written before a value: the number of the result, in three digits at least, and the
output prefix. -/
def header (p : Printer) : String := paddedText p.outputCount ++ p.outputPrefix

/-- The conversation that shows a value that is no stream. -/
def dialogue (p : Printer) (v : Value) : Dialogue :=
  match p.renderer? v.kind with
  | some render => render v
  | none => .say (v.text ++ "\n")

variable {κ : Type} [Console κ]

/-- Shows a value. A stream is listed, whatever renderer its kind has. -/
def printBody (p : Printer) (v : Value) (s : Surroundings κ) :
    Except (Stop IoError) (Option Listing) × Surroundings κ :=
  match v with
  | .stream handle =>
    match p.paginator.listing (s.store.stream handle) s.console with
    | (.ok listing, stream, console) => (.ok (some listing), ⟨s.store.put handle stream, console⟩)
    | (.error stop, stream, console) => (.error stop, ⟨s.store.put handle stream, console⟩)
  | v =>
    match (p.dialogue v).run s.console with
    | (.ok (), console) => (.ok none, { s with console })
    | (.error stop, console) => (.error stop, { s with console })

/-- Prints a result under the next number. The number is used up only if all of it could be
printed. -/
def print (p : Printer) (result : Option Value) (s : Surroundings κ) :
    Except (Stop IoError) Printing × Printer × Surroundings κ :=
  match result with
  | none => (.ok ⟨false, none⟩, p, s)
  | some v =>
    match Console.write p.header s.console with
    | (.error e, console) => (.error (.fault e), p, { s with console })
    | (.ok (), console) =>
      match p.printBody v { s with console } with
      | (.error stop, s) => (.error stop, p, s)
      | (.ok listing, s) =>
        (.ok ⟨true, listing⟩, { p with outputCount := p.outputCount + 1 }, s)

/-- Showing a value adds no input. -/
theorem remaining_printBody_le (p : Printer) (v : Value) (s : Surroundings κ) :
    Console.remaining (p.printBody v s).2.console ≤ Console.remaining s.console := by
  unfold printBody
  split
  next handle =>
    have h := p.paginator.remaining_listingFrom_le 0 p.paginator.limit
      (s.store.stream handle) s.console
    unfold Paginator.listing
    split <;> simp_all
  next =>
    have h := Dialogue.remaining_run_le (p.dialogue v) s.console
    split <;> simp_all

/-- Printing adds no input. -/
theorem remaining_print_le (p : Printer) (result : Option Value) (s : Surroundings κ) :
    Console.remaining (p.print result s).2.2.console ≤ Console.remaining s.console := by
  unfold print
  split
  · exact Nat.le_refl _
  next v =>
    have hw := Console.write_le p.header s.console
    split
    next h => rw [h] at hw; exact hw
    next console h =>
      have hb := p.remaining_printBody_le v { s with console }
      rw [h] at hw
      split
      next hbody => rw [hbody] at hb; exact Nat.le_trans hb hw
      next hbody => rw [hbody] at hb; exact Nat.le_trans hb hw

end Printer

end LineRepl
