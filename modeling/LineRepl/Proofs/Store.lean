/-
Which streams of a store were pulled from.

* `Store.PullsOnly`: of the streams of a store only those of some handles were pulled from.
* `Store.pullsNone_insert`, `Store.pullsOnly_put_skip`: by adding a stream, and by pulling from one.
* `Paginator.exists_skip_listingFrom`: a listing only pulls.
* `Printer.pullsOnly_print`: printing pulls from no stream but the printed one.
-/
import LineRepl.Proofs.Equations
import LineRepl.Proofs.Relisting

namespace LineRepl

/-! ### Stores -/

namespace Store

/-- All streams are still there with their items, and only streams of the given handles were pulled
from. A stream that was added counts as one that was not pulled from before. -/
structure PullsOnly (P : ℕ → Prop) (store store' : Store) : Prop where
  size_le : store.streams.size ≤ store'.streams.size
  item_eq : ∀ handle < store.streams.size,
    (store'.stream handle).item = (store.stream handle).item
  position_le : ∀ handle, (store.stream handle).position ≤ (store'.stream handle).position
  position_eq : ∀ handle, ¬P handle →
    (store'.stream handle).position = (store.stream handle).position

/-- No stream was pulled from. -/
abbrev PullsNone (store store' : Store) : Prop := PullsOnly (fun _ => False) store store'

variable {P Q : ℕ → Prop} {store store' store'' : Store}

namespace PullsOnly

lemma refl (store : Store) : PullsOnly P store store where
  size_le := Nat.le_refl _
  item_eq _ _ := rfl
  position_le _ := Nat.le_refl _
  position_eq _ _ := rfl

lemma trans (h : PullsOnly P store store') (h' : PullsOnly P store' store'') :
    PullsOnly P store store'' where
  size_le := Nat.le_trans h.size_le h'.size_le
  item_eq handle hlt := by
    rw [h'.item_eq handle (Nat.lt_of_lt_of_le hlt h.size_le), h.item_eq handle hlt]
  position_le handle := Nat.le_trans (h.position_le handle) (h'.position_le handle)
  position_eq handle hP := (h'.position_eq handle hP).trans (h.position_eq handle hP)

lemma mono (h : PullsOnly P store store') (hPQ : ∀ handle, P handle → Q handle) :
    PullsOnly Q store store' where
  size_le := h.size_le
  item_eq := h.item_eq
  position_le := h.position_le
  position_eq handle hQ := h.position_eq handle fun hP => hQ (hPQ handle hP)

end PullsOnly

lemma PullsNone.pullsOnly (h : PullsNone store store') : PullsOnly P store store' :=
  h.mono nofun

lemma position_stream_of_size_le {handle : ℕ} (h : store.streams.size ≤ handle) :
    (store.stream handle).position = 0 := by
  simp [stream, Array.getElem?_eq_none h, Stream.ofList, Stream.start]

lemma stream_insert (store : Store) (s : Stream) (handle : ℕ) :
    (store.insert s).2.stream handle =
      if handle = store.streams.size then s else store.stream handle := by
  simp only [insert, stream, Array.getElem?_push]
  split_ifs <;> rfl

/-- A stream that was not pulled from is added. -/
lemma pullsNone_insert {s : Stream} (h : s.position = 0) :
    PullsNone store (store.insert s).2 := by
  have hposition (handle : ℕ) :
      ((store.insert s).2.stream handle).position = (store.stream handle).position := by
    rw [stream_insert]
    split
    next heq => rw [h, position_stream_of_size_le (Nat.le_of_eq heq.symm)]
    next => rfl
  refine ⟨?_, fun handle hlt => ?_, fun handle =>
    Nat.le_of_eq (hposition handle).symm, fun handle _ => hposition handle⟩
  · simp [insert]
  · rw [stream_insert, if_neg (Nat.ne_of_lt hlt)]

/-- A stream was put back after so many items were pulled from it. -/
lemma pullsOnly_put_skip (store : Store) (handle n : ℕ) :
    PullsOnly (· = handle) store (store.put handle ((store.stream handle).skip n)) := by
  have hother {other : ℕ} (h : other ≠ handle) :
      (store.put handle ((store.stream handle).skip n)).stream other = store.stream other := by
    simp [put, stream, Ne.symm h]
  by_cases hlt : handle < store.streams.size
  · have hself : (store.put handle ((store.stream handle).skip n)).stream handle =
        (store.stream handle).skip n := stream_put hlt _
    refine ⟨by simp [put], fun other _ => ?_, fun other => ?_, fun other hne => by rw [hother hne]⟩
    all_goals by_cases heq : other = handle
    · rw [heq, hself, Stream.skip]
    · rw [hother heq]
    · rw [heq, hself, Stream.skip]
      exact Nat.le_add_right _ _
    · exact Nat.le_of_eq (congrArg Stream.position (hother heq).symm)
  · -- a handle that refers to nothing is not put back
    have hsame : store.put handle ((store.stream handle).skip n) = store := by
      simp [put, Array.setIfInBounds, hlt]
    rw [hsame]
    exact .refl store

end Store

open Store (PullsOnly)

/-! ### Printing -/

variable {κ : Type} [Console κ]

/-- A listing leaves the stream some items further on. -/
lemma Paginator.exists_skip_listingFrom (p : Paginator) (lines room : ℕ) (s : Stream) (c : κ) :
    ∃ n, (listingFrom p lines room s c).2.1 = s.skip n := by
  fun_induction listingFrom p lines room s c with
  | case1 => exact ⟨0, rfl⟩
  | case2 lines room s c panic s' hpull => exact ⟨1, (Stream.item_of_pull hpull).2⟩
  | case3 lines room s c v s' hpull | case4 lines room s c v s' hpull =>
      exact ⟨1, (Stream.item_of_pull hpull).2⟩
  | case5 lines room s c v s' hpull => exact ⟨1, (Stream.item_of_pull hpull).2⟩
  | case6 lines room s c v s' hpull room' c₁ hturn c₂ hwrite ih =>
      obtain ⟨n, hn⟩ := ih
      refine ⟨1 + n, ?_⟩
      rw [hn, (Stream.item_of_pull hpull).2, Stream.skip_skip]

namespace Printer

variable (p : Printer) (v : Value)

lemma pullsOnly_printBody (around : Surroundings κ) :
    PullsOnly (fun handle => v = .stream handle) around.store (p.printBody v around).2.store := by
  by_cases h : ∃ handle, v = .stream handle
  · obtain ⟨handle, rfl⟩ := h
    obtain ⟨n, hn⟩ := p.paginator.exists_skip_listingFrom 0 p.paginator.limit
      (around.store.stream handle) around.console
    have hstore : (p.printBody (.stream handle) around).2.store =
        around.store.put handle ((around.store.stream handle).skip n) := by
      rw [← hn, printBody, Paginator.listing]
      rcases Paginator.listingFrom p.paginator 0 p.paginator.limit (around.store.stream handle)
        around.console with ⟨_ | _, _, _⟩ <;> rfl
    rw [hstore]
    refine (Store.pullsOnly_put_skip around.store handle n).mono ?_
    rintro _ rfl
    rfl
  · rw [printBody_of_ne_stream p (not_exists.mp h)]
    rcases (p.dialogue v).run around.console with ⟨_ | _, _⟩ <;> exact .refl around.store

/-- Printing a value pulls from no stream but the value itself. -/
lemma pullsOnly_print (around : Surroundings κ) :
    PullsOnly (fun handle => v = .stream handle) around.store
      (p.print (some v) around).2.2.store := by
  rw [print]
  rcases Console.write p.header around.console with ⟨_ | _, c⟩
  · exact .refl around.store
  · have hbody := p.pullsOnly_printBody v { around with console := c }
    rcases hresult : p.printBody v { around with console := c } with ⟨_ | _, around'⟩
    all_goals
      rw [hresult] at hbody
      simp only [hresult]
      exact hbody

end Printer

end LineRepl
