/-
Listings of one stream after another.

A stream is kept in a store, and all copies of its handle share its position. So a listing begins
where the one before it left the stream. One that ended at a pause has pulled an item for which no
line came: the next listing leaves that item out.

* `Showing`, `showAll`: requests to show a stream, and what becomes of them one after another.
* `Shown.Faithful`: what a request did to its console.
* `Consecutive`: where listings begin.
* `Gapless`: the items of all listings follow one another.
* `faithful_and_gapless_iff`: there is a gap if and only if there is a second listing and the first
  one left more than one item.
-/
import LineRepl.Printer
import LineRepl.Proofs.Listing
import Mathlib.Data.List.Forall2

namespace LineRepl

/-- A request to show a stream: the printer that shows it, and the lines that wait at the
console. -/
structure Showing where
  printer : Printer
  acknowledgements : List String

/-- How many lines a request has room for: its first page, and a page for every line that waits. -/
def Showing.capacity (showing : Showing) : ℕ :=
  showing.printer.paginator.limit * (showing.acknowledgements.length + 1)

/-- What became of a request: the index of the item that came next before it, the outcome, and the
console after it. -/
structure Shown where
  start : ℕ
  outcome : Except (Stop IoError) (Option Listing)
  console : QueueConsole

/-- Shows the stream of the handle. -/
def Showing.run (showing : Showing) (handle : ℕ) (store : Store) : Shown × Store :=
  match showing.printer.printBody (.stream handle)
      ⟨store, QueueConsole.ofLines showing.acknowledgements⟩ with
  | (outcome, around) => (⟨(store.stream handle).position, outcome, around.console⟩, around.store)

/-- Shows the stream of the handle for one request after the other. -/
def showAll (handle : ℕ) : List Showing → Store → List Shown
  | [], _ => []
  | showing :: rest, store =>
    (showing.run handle store).1 :: showAll handle rest (showing.run handle store).2

namespace Shown

/-- The listing that was made, if there was one. -/
def listing (x : Shown) : Listing :=
  match x.outcome with
  | .ok (some listing) => listing
  | _ => ⟨0, false⟩

/-- The indices of the items that were written. -/
def positions (x : Shown) : List ℕ := List.range' x.start x.listing.lines

/-- The request was served without an error, and the console has got a line for each of the items
from `start` on. Either the stream has no item left, or there was no room for the next one. -/
structure Faithful (showing : Showing) (s : Stream) (x : Shown) : Prop where
  outcome : x.outcome = .ok (some x.listing)
  written : x.console.written =
    showing.printer.paginator.linesOf s 0 x.start x.listing.lines
  found : ∀ i ∈ x.positions, s.item i ≠ none
  fits : x.listing.lines ≤ showing.capacity
  ended : x.listing.cut = false → s.item (x.start + x.listing.lines) = none
  full : x.listing.cut = true →
    s.item (x.start + x.listing.lines) ≠ none ∧ x.listing.lines = showing.capacity

end Shown

/-- The first listing begins at `start`, and every other where the one before it left off, which is
an item later if that one ended at a pause. -/
def Consecutive : ℕ → List Shown → Prop
  | _, [] => True
  | start, x :: rest =>
    x.start = start ∧ Consecutive (start + x.listing.lines + x.listing.cut.toNat) rest

/-- The items that were written are those from `start` on, none of them left out or repeated. -/
def Gapless (start : ℕ) (shown : List Shown) : Prop :=
  shown.flatMap Shown.positions =
    List.range' start (shown.flatMap Shown.positions).length

/-! ### One request -/

lemma Showing.capacity_pos (showing : Showing) : 0 < showing.capacity :=
  Nat.mul_pos showing.printer.paginator.limit_pos (Nat.succ_pos _)

/-- A stream that no handle refers to has no items. -/
lemma Store.item_stream_of_size_le {store : Store} {handle : ℕ}
    (h : store.streams.size ≤ handle) (i : ℕ) : (store.stream handle).item i = none := by
  simp [stream, Array.getElem?_eq_none h, Stream.ofList, Stream.start]

lemma Store.stream_put {store : Store} {handle : ℕ} (h : handle < store.streams.size)
    (s : Stream) : (store.put handle s).stream handle = s := by
  simp [stream, put, h]

/-- A stream that was pulled from is found in the store again. No item was pulled where the handle
refers to nothing. -/
lemma Store.stream_put_skip {store : Store} {handle n : ℕ}
    (hfound : ∀ j < n, (store.stream handle).item ((store.stream handle).position + j) ≠ none) :
    (store.put handle ((store.stream handle).skip n)).stream handle =
      (store.stream handle).skip n := by
  rcases Nat.lt_or_ge handle store.streams.size with h | h
  · exact stream_put h _
  · cases n with
    | zero => simp [put, stream, Stream.skip, Array.setIfInBounds, Nat.not_lt.mpr h]
    | succ n => exact absurd (item_stream_of_size_le h _) (hfound 0 n.succ_pos)

/-- A request writes what comes next in the stream and leaves the stream behind it. -/
lemma Showing.run_spec (showing : Showing) (handle : ℕ) (store : Store)
    (hs : (store.stream handle).Unbroken) :
    (showing.run handle store).1.Faithful showing (store.stream handle) ∧
      (showing.run handle store).1.start = (store.stream handle).position ∧
      (showing.run handle store).2.stream handle =
        (store.stream handle).skip ((showing.run handle store).1.listing.lines +
          (showing.run handle store).1.listing.cut.toNat) := by
  obtain ⟨count, cut, h⟩ := showing.printer.paginator.exists_listed
    (QueueConsole.ofLines showing.acknowledgements) hs
  rcases hr : showing.printer.paginator.listing (store.stream handle)
    (QueueConsole.ofLines showing.acknowledgements) with ⟨outcome, s', c'⟩
  rw [hr] at h
  obtain rfl : outcome = _ := h.result
  have hrun : showing.run handle store =
      (⟨(store.stream handle).position, .ok (some ⟨count, cut⟩), c'⟩, store.put handle s') := by
    simp only [Showing.run, Printer.printBody, hr, Nat.zero_add]
  have hstream : s' = (store.stream handle).skip (count + cut.toNat) := h.stream
  rw [hrun]
  have hcapacity : showing.printer.paginator.limit +
      showing.printer.paginator.limit * showing.acknowledgements.length = showing.capacity := by
    rw [Showing.capacity, Nat.mul_add, Nat.mul_one, Nat.add_comm]
  refine ⟨⟨rfl, h.written, fun i hi => ?_, hcapacity ▸ h.fits, h.ended, fun hcut => ⟨?_, ?_⟩⟩,
    rfl, ?_⟩
  · obtain ⟨hle, hlt⟩ : (store.stream handle).position ≤ i ∧
        i < (store.stream handle).position + count := List.mem_range'_1.mp hi
    have hfound := h.found (i - (store.stream handle).position) (by omega)
    rwa [Nat.add_sub_cancel' hle] at hfound
  · exact h.found count (by rw [show cut = true from hcut]; exact Nat.lt_succ_self _)
  · exact (h.full hcut).trans hcapacity
  · rw [hstream]
    exact Store.stream_put_skip h.found

/-! ### One request after another -/

lemma Shown.Faithful.of_skip {showing : Showing} {s : Stream} {n : ℕ} {x : Shown}
    (h : x.Faithful showing (s.skip n)) : x.Faithful showing s :=
  ⟨h.outcome, h.written, h.found, h.fits, h.ended, h.full⟩

/-- A request writes nothing if and only if the stream has no item left. -/
lemma Shown.Faithful.lines_eq_zero_iff {showing : Showing} {s : Stream} {x : Shown}
    (h : x.Faithful showing s) : x.listing.lines = 0 ↔ s.item x.start = none := by
  constructor
  · intro hlines
    cases hcut : x.listing.cut with
    | false => simpa [hlines] using h.ended hcut
    | true =>
        have hpos := showing.capacity_pos
        have hfull := (h.full hcut).2
        omega
  · intro hnone
    by_contra hlines
    exact h.found x.start (List.mem_range'_1.mpr (by omega)) hnone

lemma Shown.Faithful.cut_eq_false {showing : Showing} {s : Stream} {x : Shown}
    (h : x.Faithful showing s) (hnone : s.item x.start = none) : x.listing.cut = false := by
  rw [← Bool.not_eq_true]
  intro hcut
  refine (h.full hcut).1 ?_
  rw [h.lines_eq_zero_iff.mpr hnone]
  exact hnone

/-- A stream that never ends fills all pages, and the listing ends at the pause behind them. -/
lemma Shown.Faithful.listing_eq {showing : Showing} {s : Stream} {x : Shown}
    (h : x.Faithful showing s) (hs : ∀ i, s.item i ≠ none) :
    x.listing = ⟨showing.capacity, true⟩ := by
  rcases hlisting : x.listing with ⟨lines, _ | _⟩
  · exact absurd (h.ended (by rw [hlisting])) (hs _)
  · have hfull := (h.full (by rw [hlisting])).2
    rw [hlisting] at hfull
    rw [← hfull]

/-- All requests are served faithfully, each from where the one before it left the stream. -/
lemma showAll_spec (handle : ℕ) (showings : List Showing) (store : Store)
    (hs : (store.stream handle).Unbroken) :
    List.Forall₂ (fun showing x => x.Faithful showing (store.stream handle)) showings
        (showAll handle showings store) ∧
      Consecutive (store.stream handle).position (showAll handle showings store) := by
  induction showings generalizing store with
  | nil => exact ⟨.nil, trivial⟩
  | cons showing rest ih =>
      obtain ⟨hfaithful, hstart, hstream⟩ := showing.run_spec handle store hs
      have hrest := ih (showing.run handle store).2 (by rw [hstream]; exact hs)
      rw [hstream] at hrest
      refine ⟨.cons hfaithful (hrest.1.imp fun _ _ => Shown.Faithful.of_skip), hstart, ?_⟩
      rw [Nat.add_assoc]
      exact hrest.2

/-- Listings never go back. -/
lemma Consecutive.le_of_mem {start : ℕ} {shown : List Shown} (h : Consecutive start shown) :
    ∀ i ∈ shown.flatMap Shown.positions, start ≤ i := by
  induction shown generalizing start with
  | nil => exact nofun
  | cons x rest ih =>
      obtain ⟨rfl, hrest⟩ := h
      intro i hi
      rw [List.flatMap_cons, List.mem_append] at hi
      rcases hi with hi | hi
      · exact (List.mem_range'_1.mp hi).1
      · have hle := ih hrest i hi
        omega

/-- Nothing is written once the stream has no item left. -/
lemma Consecutive.flatMap_positions_eq_nil {s : Stream} {start : ℕ} {showings : List Showing}
    {shown : List Shown}
    (hfaithful : List.Forall₂ (fun showing x => x.Faithful showing s) showings shown)
    (h : Consecutive start shown) (hnone : s.item start = none) :
    shown.flatMap Shown.positions = [] := by
  induction hfaithful generalizing start with
  | nil => rfl
  | cons hx _ ih =>
      obtain ⟨rfl, hrest⟩ := h
      rw [hx.lines_eq_zero_iff.mpr hnone, hx.cut_eq_false hnone] at hrest
      rw [List.flatMap_cons, ih hrest hnone, Shown.positions, hx.lines_eq_zero_iff.mpr hnone]
      rfl

/-- Nothing is written without a gap after an item was left out. -/
lemma Consecutive.flatMap_positions_eq_nil_of_cut {x : Shown} {rest : List Shown}
    (h : Consecutive x.start (x :: rest)) (hcut : x.listing.cut = true)
    (hgapless : Gapless x.start (x :: rest)) : rest.flatMap Shown.positions = [] := by
  obtain ⟨-, hrest⟩ := h
  rw [hcut, Bool.toNat_true] at hrest
  rw [Gapless, List.flatMap_cons, List.length_append, Shown.positions, List.length_range',
    ← List.range'_append_1, List.append_cancel_left_eq] at hgapless
  -- an item right after the last line would be the one that was left out
  rcases hlength : (rest.flatMap Shown.positions).length with _ | n
  · exact List.length_eq_zero_iff.mp hlength
  · rw [hlength, List.range'_succ] at hgapless
    have hle := hrest.le_of_mem (x.start + x.listing.lines)
      (by rw [hgapless]; exact List.mem_cons_self)
    omega

lemma gapless_cons_of_eq_nil {start : ℕ} {x : Shown} {rest : List Shown} (hstart : x.start = start)
    (hrest : rest.flatMap Shown.positions = []) : Gapless start (x :: rest) := by
  rw [Gapless, List.flatMap_cons, hrest, List.append_nil, Shown.positions, List.length_range',
    hstart]

/-- If the second of two listings without a gap begins behind an item that was left out, the stream
ends there. -/
lemma exists_item_eq_none_of_gapless {s : Stream} {first second : Showing} {x y : Shown}
    {rest : List Shown} (hx : x.Faithful first s) (hy : y.Faithful second s)
    (h : Consecutive x.start (x :: y :: rest)) (hgapless : Gapless x.start (x :: y :: rest)) :
    ∃ i ≤ first.capacity + 1, s.item (x.start + i) = none := by
  cases hcut : x.listing.cut with
  | false => exact ⟨x.listing.lines, Nat.le_succ_of_le hx.fits, hx.ended hcut⟩
  | true =>
      refine ⟨first.capacity + 1, Nat.le_refl _, ?_⟩
      have hnil := h.flatMap_positions_eq_nil_of_cut hcut hgapless
      rw [List.flatMap_cons, List.append_eq_nil_iff, Shown.positions, List.range'_eq_nil_iff]
        at hnil
      obtain ⟨-, hstart, -⟩ := h
      rw [hcut, Bool.toNat_true, (hx.full hcut).2] at hstart
      rw [← Nat.add_assoc, ← hstart]
      exact hy.lines_eq_zero_iff.mp hnil.1

/-- If the stream ends within the first listing's pages or an item later, no listing comes upon an
item after that one. -/
lemma Shown.Faithful.item_eq_none_of_exists {showing : Showing} {s : Stream} {x : Shown}
    (h : x.Faithful showing s)
    (hnone : ∃ i ≤ showing.capacity + 1, s.item (x.start + i) = none) :
    s.item (x.start + x.listing.lines + x.listing.cut.toNat) = none := by
  cases hcut : x.listing.cut with
  | false => exact h.ended hcut
  | true =>
      obtain ⟨i, hi, hnone⟩ := hnone
      obtain ⟨hnext, hfull⟩ := h.full hcut
      rcases Nat.lt_trichotomy i x.listing.lines with hlt | rfl | hgt
      · exact absurd hnone (h.found _ (List.mem_range'_1.mpr (by omega)))
      · exact absurd hnone hnext
      · obtain rfl : i = x.listing.lines + 1 := by omega
        exact hnone

/-- Requests for one stream are all served, and each begins where the one before it left off. What
they write has a gap if and only if the stream goes on for more than one item after the pages of the
first request and there is a second one. -/
theorem faithful_and_gapless_iff (handle : ℕ) (showings : List Showing) (store : Store)
    (hs : (store.stream handle).Unbroken) :
    List.Forall₂ (fun showing x => x.Faithful showing (store.stream handle)) showings
        (showAll handle showings store) ∧
      Consecutive (store.stream handle).position (showAll handle showings store) ∧
      (Gapless (store.stream handle).position (showAll handle showings store) ↔
        ∀ first second rest, showings = first :: second :: rest →
          ∃ i ≤ first.capacity + 1,
            (store.stream handle).item ((store.stream handle).position + i) = none) := by
  obtain ⟨hfaithful, hconsecutive⟩ := showAll_spec handle showings store hs
  refine ⟨hfaithful, hconsecutive, ?_⟩
  generalize showAll handle showings store = shown at hfaithful hconsecutive ⊢
  rcases hfaithful with _ | @⟨_, x, _, shown, hx, hrest⟩
  · exact ⟨nofun, fun _ => rfl⟩
  · have hstart := hconsecutive.1
    rw [← hstart] at hconsecutive ⊢
    constructor
    · rintro hgapless _ _ _ ⟨⟩
      cases hrest with
      | cons hy _ => exact exists_item_eq_none_of_gapless hx hy hconsecutive hgapless
    · intro hnone
      refine gapless_cons_of_eq_nil rfl ?_
      cases hrest with
      | nil => rfl
      | cons hy hrest =>
          have hend := hx.item_eq_none_of_exists (hnone _ _ _ rfl)
          exact Consecutive.flatMap_positions_eq_nil (.cons hy hrest) hconsecutive.2 hend

/-- A request for pages of the given number of lines at a console whose input has ended. -/
def Showing.ofLimit (limit : ℕ) : Showing :=
  ⟨{ Printer.default with paginator := .ofLimit limit }, []⟩

lemma Stream.unbroken_naturals : Stream.naturals.Unbroken := fun _ _ h => nomatch h

/-- There is a gap between the first hundred natural numbers and the next hundred. -/
theorem not_gapless_naturals :
    Stream.naturals.Unbroken ∧
      ¬ Gapless 0 (showAll 0 [.ofLimit 100, .ofLimit 100] (Store.empty.insert .naturals).2) := by
  refine ⟨Stream.unbroken_naturals, fun hgapless => ?_⟩
  obtain ⟨-, -, hiff⟩ := faithful_and_gapless_iff 0 [.ofLimit 100, .ofLimit 100]
    (Store.empty.insert .naturals).2 Stream.unbroken_naturals
  obtain ⟨i, -, hi⟩ := hiff.mp hgapless _ _ _ rfl
  exact nomatch hi

/-- Of the natural numbers, two listings of two lines leave the third one out. -/
theorem written_showAll_naturals :
    ((showAll 0 [.ofLimit 2, .ofLimit 2] (Store.empty.insert .naturals).2).flatMap fun x =>
        x.console.written) = ["0\n", "1\n", "3\n", "4\n"] ∧
      ¬ Gapless 0 (showAll 0 [.ofLimit 2, .ofLimit 2] (Store.empty.insert .naturals).2) := by
  obtain ⟨hfaithful, hconsecutive⟩ := showAll_spec 0 [.ofLimit 2, .ofLimit 2]
    (Store.empty.insert .naturals).2 Stream.unbroken_naturals
  generalize showAll _ _ _ = shown at hfaithful hconsecutive ⊢
  cases hfaithful with
  | @cons _ x _ _ hx hrest =>
    cases hrest with
    | @cons _ y _ _ hy hnil =>
      cases hnil
      have hxlisting := hx.listing_eq nofun
      have hylisting := hy.listing_eq nofun
      obtain ⟨hxstart, hystart, -⟩ := hconsecutive
      rw [hxlisting] at hystart
      have hxwritten := hx.written
      have hywritten := hy.written
      rw [hxlisting, hxstart] at hxwritten
      rw [hylisting, hystart] at hywritten
      constructor
      · rw [List.flatMap_cons, List.flatMap_cons, hxwritten, hywritten]
        decide +kernel
      · rw [Gapless, List.flatMap_cons, List.flatMap_cons, Shown.positions, Shown.positions,
          hxlisting, hylisting, hxstart, hystart]
        decide

end LineRepl
