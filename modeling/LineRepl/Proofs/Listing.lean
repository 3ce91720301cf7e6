/-
What one listing of a stream does at a console that holds a queue of lines.

* `Stream.Unbroken`: pulling an item of the stream never panics.
* `QueueConsole.written`: the texts that were written, in order.
* `Listed`: the lines of a listing, the items it used up and how it ended.
* `exists_listed`: every listing of such a stream writes the items that come next, each on a line
  of its own. If it ends at a pause it has used up one item more.
-/
import LineRepl.Console.Queue
import LineRepl.Paginator
import Mathlib.Tactic.Common

namespace LineRepl

namespace Stream

/-- Pulling an item never panics. -/
def Unbroken (s : Stream) : Prop := ∀ i panic, s.item i ≠ some (.broken panic)

/-- Pulling one of the items that are left never panics. -/
def UnbrokenAhead (s : Stream) : Prop :=
  ∀ i, s.position ≤ i → ∀ panic, s.item i ≠ some (.broken panic)

/-- The stream, so many items further on. -/
def skip (s : Stream) (count : ℕ) : Stream := { s with position := s.position + count }

/-- The value at an index, where the stream has one. -/
def value (s : Stream) (i : ℕ) : Value :=
  match s.item i with
  | some (.value v) => v
  | _ => default

/-- Items are skipped one after another. -/
lemma skip_skip (s : Stream) (m n : ℕ) : (s.skip m).skip n = s.skip (m + n) := by
  rw [skip, skip, skip, Nat.add_assoc]

lemma value_eq {s : Stream} {i : ℕ} {v : Value} (h : s.item i = some (.value v)) :
    s.value i = v := by
  rw [value, h]

/-- What is pulled is the next item, and the stream has moved on by one. -/
lemma item_of_pull {s s' : Stream} {i : Item} (h : s.pull = some (i, s')) :
    s.item s.position = some i ∧ s' = s.skip 1 := by
  rw [pull, Option.map_eq_some_iff] at h
  obtain ⟨i', hi', heq⟩ := h
  cases heq
  exact ⟨hi', rfl⟩

lemma UnbrokenAhead.skip {s : Stream} (h : s.UnbrokenAhead) (count : ℕ) :
    (s.skip count).UnbrokenAhead :=
  fun i hi => h i (Nat.le_trans (Nat.le_add_right _ _) hi)

/-- What is listed from a list does not panic. -/
lemma unbrokenAhead_ofList (values : List Value) : (ofList values).UnbrokenAhead := by
  intro i _ panic h
  obtain ⟨v, -, hv⟩ := Option.map_eq_some_iff.mp h
  cases hv

/-- Where nothing is pulled the stream has ended. -/
lemma item_of_pull_eq_none {s : Stream} (h : s.pull = none) : s.item s.position = none :=
  Option.map_eq_none_iff.mp h

end Stream

namespace QueueConsole

/-- The texts that were written, in order. -/
def written (c : QueueConsole) : List String :=
  c.events.toList.filterMap fun
    | .prompt _ => none
    | .written text => some text

lemma written_push_prompt (queue : List String) (events : Array ConsoleEvent) (text : String) :
    written ⟨queue, events.push (.prompt text)⟩ = written ⟨queue, events⟩ := by
  simp [written]

lemma written_push_written (queue : List String) (events : Array ConsoleEvent) (text : String) :
    written ⟨queue, events.push (.written text)⟩ = written ⟨queue, events⟩ ++ [text] := by
  simp [written]

end QueueConsole

namespace Paginator

/-- The lines of `count` items from the index `start` on, numbered from `lines` on if lines carry
numbers. -/
def linesOf (p : Paginator) (s : Stream) (lines start count : ℕ) : List String :=
  (List.range count).map fun j => p.lineText (lines + j) (s.value (start + j))

lemma linesOf_succ (p : Paginator) (s : Stream) (lines start count : ℕ) :
    p.linesOf s lines start (count + 1) =
      p.lineText lines (s.value start) :: p.linesOf s (lines + 1) (start + 1) count := by
  rw [linesOf, linesOf, List.range_succ_eq_map, List.map_cons, List.map_map]
  simp only [Nat.add_zero, List.cons.injEq, true_and]
  refine List.map_congr_left fun j _ => ?_
  rw [Function.comp_apply, Nat.succ_eq_add_one, ← Nat.add_assoc, Nat.add_right_comm,
    show start + (j + 1) = start + 1 + j by omega]

/-- From the place where `lines` lines have been written and `room` still fit on the page, `count`
lines were written. The stream then had no item left, or one more was pulled and the input ended at
the pause before its line. -/
structure Listed (p : Paginator) (lines room : ℕ) (s : Stream) (c : QueueConsole) (count : ℕ)
    (cut : Bool) (r : Except (Stop IoError) Listing × Stream × QueueConsole) : Prop where
  result : r.1 = .ok ⟨lines + count, cut⟩
  stream : r.2.1 = s.skip (count + cut.toNat)
  written : r.2.2.written = c.written ++ p.linesOf s lines s.position count
  found : ∀ j < count + cut.toNat, s.item (s.position + j) ≠ none
  ended : cut = false → s.item (s.position + count) = none
  full : cut = true → count = room + p.limit * c.queue.length
  fits : count ≤ room + p.limit * c.queue.length

/-- A queue has room for a line, or its input has ended. -/
lemma turnPage_queue (p : Paginator) (lines room : ℕ) (c : QueueConsole) :
    (∃ room' c₁, turnPage p lines room c = (.ok (some room'), c₁) ∧ c₁.written = c.written ∧
        room' + 1 + p.limit * c₁.queue.length = room + p.limit * c.queue.length) ∨
      ∃ c₁, turnPage p lines room c = (.ok none, c₁) ∧ c₁.written = c.written ∧ room = 0 ∧
        c.queue = [] := by
  cases room with
  | succ room => exact .inl ⟨room, c, rfl, rfl, rfl⟩
  | zero =>
      obtain ⟨queue, events⟩ := c
      cases queue with
      | nil => exact .inr ⟨_, rfl, QueueConsole.written_push_prompt _ _ _, rfl, rfl⟩
      | cons line queue =>
          refine .inl ⟨p.limit - 1, _, rfl, QueueConsole.written_push_prompt _ _ _, ?_⟩
          have hpos := p.limit_pos
          simp only [List.tail_cons, List.length_cons, Nat.mul_add, Nat.mul_one]
          omega

/-- Nothing is listed of a stream that has ended. -/
lemma listed_of_pull_eq_none {p : Paginator} {lines room : ℕ} {s : Stream} {c : QueueConsole}
    (h : s.pull = none) : Listed p lines room s c 0 false (.ok ⟨lines, false⟩, s, c) where
  result := rfl
  stream := rfl
  written := (List.append_nil _).symm
  found _ h := absurd h (Nat.not_lt_zero _)
  ended _ := Stream.item_of_pull_eq_none h
  full h := nomatch h
  fits := Nat.zero_le _

/-- At the end of input a full page is the last one, and the next item is lost. -/
lemma listed_of_cut {p : Paginator} {lines : ℕ} {s s' : Stream} {c c₁ : QueueConsole} {i : Item}
    (h : s.pull = some (i, s')) (hwritten : c₁.written = c.written) (hqueue : c.queue = []) :
    Listed p lines 0 s c 0 true (.ok ⟨lines, true⟩, s', c₁) where
  result := rfl
  stream := (Stream.item_of_pull h).2
  written := hwritten.trans (List.append_nil _).symm
  found j hj := by
    obtain rfl : j = 0 := Nat.lt_one_iff.mp hj
    rw [Nat.add_zero, (Stream.item_of_pull h).1]
    exact nofun
  ended h := nomatch h
  full _ := by rw [hqueue]; rfl
  fits := Nat.zero_le _

/-- A line before a listing makes a listing of one line more. -/
lemma Listed.cons {p : Paginator} {lines room room' count : ℕ} {cut : Bool} {s s' : Stream}
    {c c₂ : QueueConsole} {v : Value} {r : Except (Stop IoError) Listing × Stream × QueueConsole}
    (hpull : s.pull = some (.value v, s'))
    (hroom : room' + 1 + p.limit * c₂.queue.length = room + p.limit * c.queue.length)
    (hwritten : c₂.written = c.written ++ [p.lineText lines v])
    (h : Listed p (lines + 1) room' s' c₂ count cut r) :
    Listed p lines room s c (count + 1) cut r := by
  obtain ⟨hitem, rfl⟩ := Stream.item_of_pull hpull
  have hfull := h.full
  have hfits := h.fits
  refine ⟨?_, ?_, ?_, fun j hj => ?_, fun hcut => ?_, fun hcut => ?_, ?_⟩
  · rw [h.result, Nat.add_right_comm, Nat.add_assoc]
  · rw [h.stream, Stream.skip_skip, Nat.add_right_comm, Nat.add_comm 1, Nat.add_right_comm]
  · rw [h.written, hwritten, linesOf_succ, Stream.value_eq hitem, List.append_assoc]
    rfl
  · cases j with
    | zero =>
        rw [Nat.add_zero, hitem]
        exact nofun
    | succ j =>
        have hfound := h.found j (by omega)
        rwa [Stream.skip, Nat.add_assoc, Nat.add_comm 1 j] at hfound
  · have hended := h.ended hcut
    rwa [Stream.skip, Nat.add_assoc, Nat.add_comm 1 count] at hended
  · have := hfull hcut
    omega
  · omega

/-- Every listing of a stream without broken items ahead ends, with its lines written. -/
lemma exists_listed_listingFrom (p : Paginator) (lines room : ℕ) {s : Stream} (c : QueueConsole)
    (hs : s.UnbrokenAhead) :
    ∃ count cut, Listed p lines room s c count cut (listingFrom p lines room s c) := by
  fun_induction listingFrom p lines room s c with
  | case1 lines room s c hpull => exact ⟨0, false, listed_of_pull_eq_none hpull⟩
  | case2 lines room s c panic s' hpull =>
      exact absurd (Stream.item_of_pull hpull).1 (hs _ (Nat.le_refl _) _)
  | case3 lines room s c v s' hpull e c₁ hturn =>
      rcases turnPage_queue p lines room c with ⟨_, _, h, -⟩ | ⟨_, h, -⟩ <;>
        cases h.symm.trans hturn
  | case4 lines room s c v s' hpull c₁ hturn =>
      rcases turnPage_queue p lines room c with ⟨_, _, h, -⟩ | ⟨_, h, hwritten, rfl, hqueue⟩
      · cases h.symm.trans hturn
      · cases h.symm.trans hturn
        exact ⟨0, true, listed_of_cut hpull hwritten hqueue⟩
  | case5 lines room s c v s' hpull room' c₁ hturn e c₂ hwrite => cases hwrite
  | case6 lines room s c v s' hpull room' c₁ hturn c₂ hwrite ih =>
      rcases turnPage_queue p lines room c with ⟨_, _, h, hwritten, hroom⟩ | ⟨_, h, -⟩
      · cases h.symm.trans hturn
        cases hwrite
        obtain ⟨-, rfl⟩ := Stream.item_of_pull hpull
        obtain ⟨count, cut, hlisted⟩ := ih (hs.skip 1)
        have hline := QueueConsole.written_push_written c₁.queue c₁.events (p.lineText lines v)
        exact ⟨count + 1, cut, hlisted.cons hpull (by exact hroom) (by rw [hline, ← hwritten])⟩
      · cases h.symm.trans hturn

/-- Every listing of an unbroken stream ends, with its lines written, from the top of a page. -/
lemma exists_listed (p : Paginator) {s : Stream} (c : QueueConsole) (hs : s.Unbroken) :
    ∃ count cut, Listed p 0 p.limit s c count cut (p.listing s c) :=
  exists_listed_listingFrom p 0 p.limit c fun i _ => hs i

end Paginator

end LineRepl
