/-
How a stream is divided into pages.

* `Stream.length`: how many items are left, which may be infinitely many.
* `Paginator.pauseBefore`: the pause before a line, if one is due there.
* `exists_transcript`: a listing shows its lines in order, each after the pause that is due before
  it; it may end at such a pause.
* `filterMap_prompt?_pages`, `filterMap_prompt?_pages_append`: the pauses among so many lines,
  without and with the one behind them.
* `listing_paginates`: how many lines and pauses there are, where the pauses stand, and what they
  take from the queue.
-/
import LineRepl.Proofs.Console
import LineRepl.Proofs.Equations
import LineRepl.Proofs.Listing
import Mathlib.Data.ENat.Lattice

namespace LineRepl

namespace Stream

/-- The number of items that are left. -/
noncomputable def length (s : Stream) : ℕ∞ :=
  ⨅ (i : ℕ) (_ : s.item (s.position + i) = none), (i : ℕ∞)

/-- A stream has so many items if none of them is missing. -/
lemma le_length_iff {s : Stream} {n : ℕ} :
    (n : ℕ∞) ≤ s.length ↔ ∀ i < n, s.item (s.position + i) ≠ none := by
  simp only [length, le_iInf_iff, Nat.cast_le]
  exact forall_congr' fun i => ⟨fun h hlt hnone => absurd (h hnone) (Nat.not_le.mpr hlt),
    fun h hnone => Nat.not_lt.mp fun hlt => h hlt hnone⟩

/-- It has no more if one is missing. -/
lemma length_le {s : Stream} {n : ℕ} (h : s.item (s.position + n) = none) :
    s.length ≤ (n : ℕ∞) :=
  iInf₂_le n h

end Stream

namespace Paginator

/-- The pause before a line of which `lines` lines came before: there is one behind each full
page. -/
def pauseBefore (p : Paginator) (lines : ℕ) : List ConsoleEvent :=
  if 0 < lines ∧ p.limit ∣ lines then [.prompt (pausePrompt lines)] else []

/-- A line and the pause before it. -/
def lineEvents (p : Paginator) (s : Stream) (lines start : ℕ) : List ConsoleEvent :=
  p.pauseBefore lines ++ [.written (p.lineText lines (s.value start))]

/-- What `count` lines show from the place on where `lines` lines came before. -/
def pages (p : Paginator) (s : Stream) (lines count : ℕ) : List ConsoleEvent :=
  (List.range count).flatMap fun j => p.lineEvents s (lines + j) (s.position + j)

lemma pages_succ (p : Paginator) (s : Stream) (lines count : ℕ) :
    p.pages s lines (count + 1) =
      p.lineEvents s lines s.position ++ p.pages (s.skip 1) (lines + 1) count := by
  rw [pages, pages, List.range_succ_eq_map, List.flatMap_cons, List.flatMap_map]
  congr 1
  refine List.flatMap_congr fun j _ => ?_
  rw [Stream.skip, Nat.add_right_comm, Nat.add_right_comm s.position]
  rfl

/-- After `lines` lines, `room` more fit on the page. -/
structure OnPage (p : Paginator) (lines room : ℕ) : Prop where
  dvd : p.limit ∣ lines + room
  first : lines = 0 → room = p.limit
  later : 0 < lines → room < p.limit

lemma onPage_zero (p : Paginator) : p.OnPage 0 p.limit :=
  ⟨by simp, fun _ => rfl, fun h => absurd h (Nat.lt_irrefl 0)⟩

/-- There is a pause before the line that a full page has no room for. -/
lemma OnPage.pauseBefore_of_full {p : Paginator} {lines : ℕ} (h : p.OnPage lines 0) :
    p.pauseBefore lines = [.prompt (pausePrompt lines)] := by
  have hpos := p.limit_pos
  have hfirst := h.first
  exact if_pos ⟨by omega, h.dvd⟩

/-- There is none where the page has room. -/
lemma OnPage.pauseBefore_of_room {p : Paginator} {lines room : ℕ} (h : p.OnPage lines (room + 1)) :
    p.pauseBefore lines = [] := by
  refine if_neg fun ⟨hpos, hdvd⟩ => ?_
  have hroom := Nat.le_of_dvd (Nat.succ_pos room) ((Nat.dvd_add_right hdvd).mp h.dvd)
  exact absurd (h.later hpos) (Nat.not_lt.mpr hroom)

variable {κ : Type} [Console κ]

/-- Turning the page asks for nothing but the pause that is due. -/
lemma turnPage_onPage {p : Paginator} {lines room : ℕ} (h : p.OnPage lines room) (c : κ) :
    (turnPage p lines room c).2 = Console.after c (p.pauseBefore lines) ∧
      ∀ room', (turnPage p lines room c).1 = .ok (some room') → p.OnPage (lines + 1) room' := by
  have hpos := p.limit_pos
  cases room with
  | succ room =>
      rw [h.pauseBefore_of_room]
      refine ⟨rfl, fun room' hroom => ?_⟩
      cases hroom
      have hfirst := h.first
      have hlater := h.later
      have hdvd := h.dvd
      rw [Nat.add_comm room, ← Nat.add_assoc] at hdvd
      exact ⟨hdvd, nofun, fun _ => by omega⟩
  | zero =>
      rw [h.pauseBefore_of_full, turnPage, Console.after_prompt, Console.after_nil]
      rcases Console.readLine (pausePrompt lines) c with ⟨_ | _ | _, c'⟩
      · exact ⟨rfl, fun room' hroom => by cases hroom⟩
      · exact ⟨rfl, fun room' hroom => by cases hroom⟩
      · refine ⟨rfl, fun room' hroom => ?_⟩
        cases hroom
        have hdvd := (Nat.dvd_add_left (Nat.dvd_refl p.limit)).mpr h.dvd
        exact ⟨by rwa [show lines + 1 + (p.limit - 1) = lines + 0 + p.limit by omega], nofun,
          fun _ => by omega⟩

/-- A listing that ends shows its lines, each after the pause that is due, and the pause at which
the input ended, if it did. -/
lemma exists_transcript {p : Paginator} {lines room : ℕ} {s : Stream} {c : κ} {l : Listing}
    (h : p.OnPage lines room) (hok : (listingFrom p lines room s c).1 = .ok l) :
    ∃ count, l.lines = lines + count ∧
      (listingFrom p lines room s c).2.2 =
        Console.after c (p.pages s lines count ++ if l.cut then p.pauseBefore l.lines else []) := by
  fun_induction listingFrom p lines room s c with
  | case1 lines room s c hpull =>
      cases hok
      exact ⟨0, rfl, rfl⟩
  | case2 lines room s c panic s' hpull => cases hok
  | case3 lines room s c v s' hpull e c₁ hturn => cases hok
  | case4 lines room s c v s' hpull c₁ hturn =>
      cases hok
      have hafter := (turnPage_onPage h c).1
      rw [hturn] at hafter
      exact ⟨0, rfl, hafter⟩
  | case5 lines room s c v s' hpull room' c₁ hturn e c₂ hwrite => cases hok
  | case6 lines room s c v s' hpull room' c₁ hturn c₂ hwrite ih =>
      obtain ⟨hafter, hroom⟩ := turnPage_onPage h c
      rw [hturn] at hafter hroom
      obtain ⟨count, hlines, hshown⟩ := ih (hroom room' rfl) hok
      obtain ⟨hitem, rfl⟩ := Stream.item_of_pull hpull
      have hline : c₂ = Console.after c (p.lineEvents s lines s.position) := by
        rw [lineEvents, Stream.value_eq hitem, Console.after_append, ← hafter]
        exact (congrArg Prod.snd hwrite).symm
      refine ⟨count + 1, by omega, ?_⟩
      rw [hshown, pages_succ, List.append_assoc, Console.after_append c, ← hline]

/-! ### Counting pauses -/

/-- A further line comes behind the pages. -/
lemma pages_concat (p : Paginator) (s : Stream) (lines count : ℕ) :
    p.pages s lines (count + 1) =
      p.pages s lines count ++ p.lineEvents s (lines + count) (s.position + count) := by
  rw [pages, pages, List.range_succ, List.flatMap_append, List.flatMap_singleton]

/-- The prompt of a pause tells how many lines were shown. -/
lemma filterMap_prompt?_pauseBefore (p : Paginator) (lines : ℕ) :
    (p.pauseBefore lines).filterMap ConsoleEvent.prompt? =
      if 0 < lines ∧ p.limit ∣ lines then [pausePrompt lines] else [] := by
  rw [pauseBefore]
  split <;> rfl

/-- A line has no prompt but that of the pause before it. -/
lemma filterMap_prompt?_lineEvents (p : Paginator) (s : Stream) (lines start : ℕ) :
    (p.lineEvents s lines start).filterMap ConsoleEvent.prompt? =
      (p.pauseBefore lines).filterMap ConsoleEvent.prompt? := by
  rw [lineEvents, List.filterMap_append]
  exact List.append_nil _

/-- Among `count` lines there is a pause behind each full page but the last one. -/
lemma filterMap_prompt?_pages (p : Paginator) (s : Stream) (count : ℕ) :
    (p.pages s 0 count).filterMap ConsoleEvent.prompt? =
      (List.range ((count - 1) / p.limit)).map fun j => pausePrompt ((j + 1) * p.limit) := by
  induction count with
  | zero => simp [pages]
  | succ count ih =>
      rw [pages_concat, List.filterMap_append, ih, filterMap_prompt?_lineEvents,
        filterMap_prompt?_pauseBefore, Nat.zero_add, Nat.add_sub_cancel]
      cases count with
      | zero => simp
      | succ count =>
          rw [Nat.add_sub_cancel, Nat.succ_div]
          split_ifs with hpause hdvd hdvd
          · have hlines : count + 1 = (count / p.limit + 1) * p.limit := by
              have hdiv := Nat.div_mul_cancel hdvd
              rw [Nat.succ_div_of_dvd hdvd] at hdiv
              exact hdiv.symm
            rw [List.range_succ, List.map_append, hlines]
            rfl
          · exact absurd hpause.2 hdvd
          · exact absurd ⟨Nat.succ_pos count, hdvd⟩ hpause
          · rw [List.append_nil, Nat.add_zero]

/-- The pauses of a listing, together with the one at which its input ended. -/
lemma filterMap_prompt?_pages_append (p : Paginator) (s : Stream) (count : ℕ) :
    (p.pages s 0 count ++ p.pauseBefore count).filterMap ConsoleEvent.prompt? =
      (List.range (count / p.limit)).map fun j => pausePrompt ((j + 1) * p.limit) := by
  have hpages := filterMap_prompt?_pages p s (count + 1)
  rw [Nat.add_sub_cancel, pages_concat, List.filterMap_append, filterMap_prompt?_lineEvents,
    Nat.zero_add] at hpages
  rw [List.filterMap_append, hpages]

/-! ### Listings at a console in memory -/

/-- What the listing of a stream comes to, with so many lines and pauses, at a console in memory. -/
structure Paginates (p : Paginator) (s : Stream) (c : QueueConsole) (lines pauses : ℕ)
    (r : Except (Stop IoError) Listing × Stream × QueueConsole) : Prop where
  /-- The number of lines is returned. -/
  returned : ∃ cut, r.1 = .ok ⟨lines, cut⟩
  /-- All items are listed, if the first page and one for each line that waits have room for
  them. -/
  lines_eq : (lines : ℕ∞) = min s.length ((p.limit * (c.queue.length + 1) : ℕ) : ℕ∞)
  /-- A pause is due behind each full page but the last, if lines wait for all of these. -/
  pauses_of_le : ∀ N : ℕ, s.length = N → (N - 1) / p.limit ≤ c.queue.length →
    pauses = (N - 1) / p.limit
  /-- If not, each line that waits answers a pause, and one more is shown. -/
  pauses_of_lt : (∀ N : ℕ, s.length = N → c.queue.length < (N - 1) / p.limit) →
    pauses = c.queue.length + 1
  /-- The lines are those of the items that come next, in order. -/
  written : r.2.2.written = c.written ++ (List.range lines).map fun i =>
    (if p.numbered then naturalText i ++ " " else "") ++ (s.value (s.position + i)).text ++ "\n"
  prompts : r.2.2.prompts = c.prompts ++ (List.range pauses).map fun j =>
    "Line " ++ naturalText ((j + 1) * p.limit) ++ ". Press enter key to continue."
  /-- Each pause stands right before the first line of a page, and the one that no line answers at
  the end. -/
  shown : r.2.2.events.toList = c.events.toList ++ (p.pages s 0 lines ++
    if pauses = c.queue.length + 1 then p.pauseBefore lines else [])
  /-- Each pause but the one that no line answers takes a line from the queue. -/
  queue : r.2.2.queue = c.queue.drop pauses

/-- What a listing comes to, by its lines and pauses and what was shown last. -/
lemma Paginates.of_after {p : Paginator} {s : Stream} {c : QueueConsole} {lines pauses : ℕ}
    {cut : Bool} {r : Except (Stop IoError) Listing × Stream × QueueConsole}
    {last : List ConsoleEvent}
    (hreturned : r.1 = .ok ⟨lines, cut⟩)
    (hwritten : r.2.2.written = c.written ++ p.linesOf s 0 s.position lines)
    (hshown : r.2.2 = Console.after c (p.pages s 0 lines ++ last))
    (hlast : last = if pauses = c.queue.length + 1 then p.pauseBefore lines else [])
    (hprompts : (p.pages s 0 lines ++ last).filterMap ConsoleEvent.prompt? =
      (List.range pauses).map fun j => pausePrompt ((j + 1) * p.limit))
    (hlines : (lines : ℕ∞) = min s.length ((p.limit * (c.queue.length + 1) : ℕ) : ℕ∞))
    (hle : ∀ N : ℕ, s.length = N → (N - 1) / p.limit ≤ c.queue.length →
      pauses = (N - 1) / p.limit)
    (hlt : (∀ N : ℕ, s.length = N → c.queue.length < (N - 1) / p.limit) →
      pauses = c.queue.length + 1) :
    p.Paginates s c lines pauses r := by
  rw [QueueConsole.after_eq] at hshown
  refine ⟨⟨cut, hreturned⟩, hlines, hle, hlt, ?_, ?_, ?_, ?_⟩
  · rw [hwritten, linesOf]
    simp only [Nat.zero_add]
    rfl
  · rw [hshown, QueueConsole.prompts_eq, QueueConsole.prompts_eq, Array.toList_append,
      List.filterMap_append, hprompts]
    rfl
  · rw [hshown, hlast, Array.toList_append]
  · rw [hshown, hprompts, List.length_map, List.length_range]

/-- **Exact pagination**: a stream whose items do not panic is listed to the end or until the lines
for its pauses are used up, whichever comes first. -/
theorem listing_paginates (p : Paginator) {s : Stream} (c : QueueConsole)
    (hs : s.UnbrokenAhead) :
    ∃ lines pauses, p.Paginates s c lines pauses (p.listing s c) := by
  obtain ⟨lines, cut, h⟩ := exists_listed_listingFrom p 0 p.limit c hs
  obtain ⟨lines', hlines, hshown⟩ := exists_transcript p.onPage_zero h.result
  obtain rfl : lines = lines' := by simpa using hlines
  have hreturned : (p.listing s c).1 = .ok ⟨lines, cut⟩ := h.result.trans (by rw [Nat.zero_add])
  rw [Nat.zero_add] at hshown
  have hcapacity : p.limit * (c.queue.length + 1) = p.limit + p.limit * c.queue.length := by
    rw [Nat.mul_add, Nat.mul_one, Nat.add_comm]
  have hfits : lines ≤ p.limit * (c.queue.length + 1) := hcapacity ▸ h.fits
  cases cut with
  | false =>
      have hlength : s.length = lines :=
        le_antisymm (Stream.length_le (h.ended rfl)) (Stream.le_length_iff.mpr h.found)
      have hpauses : (lines - 1) / p.limit < c.queue.length + 1 := by
        have hroom := Nat.mul_pos p.limit_pos (Nat.succ_pos c.queue.length)
        rw [Nat.succ_eq_add_one] at hroom
        rw [Nat.div_lt_iff_lt_mul p.limit_pos, Nat.mul_comm]
        omega
      refine ⟨lines, (lines - 1) / p.limit,
        .of_after hreturned h.written hshown ?_ ?_ ?_ (fun N hN _ => ?_) fun hmany => ?_⟩
      · rw [if_neg nofun, if_neg (Nat.ne_of_lt hpauses)]
      · rw [if_neg nofun, List.append_nil, filterMap_prompt?_pages]
      · rw [hlength, min_eq_left (Nat.cast_le.mpr hfits)]
      · obtain rfl : lines = N := Nat.cast_inj.mp (hlength.symm.trans hN)
        rfl
      · exact absurd hpauses (Nat.not_lt.mpr (hmany lines hlength))
  | true =>
      have hfull : lines = p.limit * (c.queue.length + 1) := (h.full rfl).trans hcapacity.symm
      have hlength : ((lines + 1 : ℕ) : ℕ∞) ≤ s.length := Stream.le_length_iff.mpr h.found
      refine ⟨lines, c.queue.length + 1,
        .of_after hreturned h.written hshown ?_ ?_ ?_ (fun N hN hfew => ?_) fun _ => rfl⟩
      · rw [if_pos rfl, if_pos rfl]
      · rw [if_pos rfl, filterMap_prompt?_pages_append, hfull,
          Nat.mul_div_cancel_left _ p.limit_pos]
      · rw [← hfull, min_eq_right ((Nat.cast_le.mpr (Nat.le_succ lines)).trans hlength)]
      · rw [hN, Nat.cast_le] at hlength
        have hmany : c.queue.length + 1 ≤ (N - 1) / p.limit := by
          rw [Nat.le_div_iff_mul_le p.limit_pos, Nat.mul_comm]
          omega
        exact absurd hfew (Nat.not_le.mpr hmany)

/-- Three items on pages of one line, with a line for one of the two pauses. -/
theorem listing_three_items_paginates :
    (Stream.ofList [.bool true, .str "", .bool false]).UnbrokenAhead ∧
      ∃ lines pauses, Paginates ⟨1, by decide, true⟩ (.ofList [.bool true, .str "", .bool false])
        (.ofLines [""]) lines pauses
        (listing ⟨1, by decide, true⟩ (.ofList [.bool true, .str "", .bool false])
          (QueueConsole.ofLines [""])) :=
  ⟨Stream.unbrokenAhead_ofList _, listing_paginates _ _ (Stream.unbrokenAhead_ofList _)⟩

end Paginator

end LineRepl
