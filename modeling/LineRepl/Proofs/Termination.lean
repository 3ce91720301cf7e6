/-
Every run over a queue of lines comes to an end.

* `QueueConsole.Attended`: every read gets a line, or nothing is asked for after it.
* `Paginator.Rationed`: a page of lines is shown for each line that waited, and one more; all reads
  are attended.
* `Paginator.rationed_listing`: so is every listing, also of a stream that does not end.
* `Session.Halts`: how a loop ends.
* `Session.exists_reads_halts`: every loop comes to its end after finitely many lines.
* `Session.run_ends`: the ends of all runs over a queue, and what they show on the way.
-/
import LineRepl.Proofs.Running

namespace LineRepl

/-! ### Listings -/

namespace QueueConsole

/-- Every read among the requests gets a line, or it is the last of them. -/
def Attended : QueueConsole → List ConsoleEvent → Prop
  | _, [] => True
  | c, .written text :: events => Attended (write text c).2 events
  | c, .prompt text :: events => (c.queue ≠ [] ∨ events = []) ∧ Attended (readLine text c).2 events

lemma length_written_write (text : String) (c : QueueConsole) :
    (write text c).2.written.length = c.written.length + 1 := by
  rw [write, written_push_written, List.length_append, List.length_singleton]

lemma written_readLine (prompt : String) (c : QueueConsole) :
    (readLine prompt c).2.written = c.written :=
  written_push_prompt _ _ _

end QueueConsole

namespace Paginator

/-- What was shown between two states of a console: at most a page of lines for each line that
waited and one page more, and every read got a line or was the end of it. -/
structure Rationed (p : Paginator) (c c' : QueueConsole) : Prop where
  lines : c'.written.length ≤ c.written.length + p.limit * (c.queue.length + 1)
  reads : ∃ events, c' = Console.after c events ∧ c.Attended events

/-- There is room on the page, or it is turned, for which a line is read. -/
lemma turnPage_cases (p : Paginator) (lines room : ℕ) (c : QueueConsole) :
    (∃ room', room = room' + 1 ∧ turnPage p lines room c = (.ok (some room'), c)) ∨
      (room = 0 ∧ c.queue ≠ [] ∧ turnPage p lines room c =
        (.ok (some (p.limit - 1)), (c.readLine (pausePrompt lines)).2)) ∨
      (room = 0 ∧ c.queue = [] ∧ turnPage p lines room c =
        (.ok none, (c.readLine (pausePrompt lines)).2)) := by
  cases room with
  | succ room => exact .inl ⟨room, rfl, rfl⟩
  | zero =>
      obtain ⟨_ | ⟨line, rest⟩, events⟩ := c
      · exact .inr (.inr ⟨rfl, rfl, rfl⟩)
      · exact .inr (.inl ⟨rfl, List.cons_ne_nil _ _, rfl⟩)

/-- No more lines are written than there is room for on this page and on those that the lines of the
queue are spent on. -/
lemma exists_attended_listingFrom (p : Paginator) (lines room : ℕ) (s : Stream) (c : QueueConsole) :
    ∃ events, (listingFrom p lines room s c).2.2 = Console.after c events ∧ c.Attended events ∧
      (listingFrom p lines room s c).2.2.written.length ≤
        c.written.length + room + p.limit * c.queue.length := by
  fun_induction listingFrom p lines room s c with
  | case1 lines room s c hpull | case2 lines room s c panic s' hpull =>
      exact ⟨[], rfl, trivial, by simp only; omega⟩
  | case3 lines room s c v s' hpull e c₁ hturn =>
      rcases turnPage_cases p lines room c with ⟨_, _, h⟩ | ⟨_, _, h⟩ | ⟨_, _, h⟩ <;>
        cases h.symm.trans hturn
  | case4 lines room s c v s' hpull c₁ hturn =>
      rcases turnPage_cases p lines room c with ⟨_, _, h⟩ | ⟨_, _, h⟩ | ⟨-, hqueue, h⟩ <;>
        cases h.symm.trans hturn
      refine ⟨[.prompt (pausePrompt lines)], rfl, ⟨.inr rfl, trivial⟩, ?_⟩
      simp only [QueueConsole.written_readLine]
      omega
  | case5 lines room s c v s' hpull room' c₁ hturn e c₂ hwrite => cases hwrite
  | case6 lines room s c v s' hpull room' c₁ hturn c₂ hwrite ih =>
      obtain ⟨events, hevents, hattended, hlines⟩ := ih
      obtain rfl : (QueueConsole.write (p.lineText lines v) c₁).2 = c₂ := congrArg Prod.snd hwrite
      rw [QueueConsole.length_written_write] at hlines
      rcases turnPage_cases p lines room c with ⟨room', rfl, h⟩ | ⟨rfl, hqueue, h⟩ | ⟨_, _, h⟩ <;>
        cases h.symm.trans hturn
      · refine ⟨.written (p.lineText lines v) :: events, hevents, hattended, ?_⟩
        change _ ≤ c.written.length + 1 + room' + p.limit * c.queue.length at hlines
        omega
      · refine ⟨.prompt (pausePrompt lines) :: .written (p.lineText lines v) :: events, hevents,
          ⟨.inl hqueue, hattended⟩, ?_⟩
        change _ ≤ (c.readLine (pausePrompt lines)).2.written.length + 1 + (p.limit - 1) +
          p.limit * c.queue.tail.length at hlines
        rw [QueueConsole.written_readLine] at hlines
        -- the line that was read has paid for a page
        have hpage : p.limit * c.queue.tail.length + p.limit = p.limit * c.queue.length := by
          rw [← Nat.mul_succ, Nat.succ_eq_add_one, List.length_tail,
            Nat.sub_add_cancel (List.length_pos_iff.mpr hqueue)]
        have hpos := p.limit_pos
        omega

/-- A listing shows no more than the input pays for, and ends where a read gets no line. -/
lemma rationed_listing (p : Paginator) (s : Stream) (c : QueueConsole) :
    p.Rationed c (p.listing s c).2.2 := by
  obtain ⟨events, hevents, hattended, hlines⟩ := exists_attended_listingFrom p 0 p.limit s c
  refine ⟨?_, events, hevents, hattended⟩
  rw [Nat.mul_succ, Nat.add_comm (p.limit * _), ← Nat.add_assoc]
  exact hlines

end Paginator

/-! ### What a session shows -/

namespace Session

/-- Whatever lines the session lists and whatever stream it prints, with the header of the result
before it, its console is asked for no more than the input pays for. -/
structure Rations (s : Session QueueConsole) : Prop where
  list : ∀ lines, s.printer.paginator.Rationed s.console (s.list lines).2.console
  print : ∀ store handle, s.printer.paginator.Rationed
    (s.console.write s.printer.header).2
    (s.printer.print (some (.stream handle)) ⟨store, s.console⟩).2.2.console

lemma rations (s : Session QueueConsole) : Rations s where
  list lines := by
    rw [console_list]
    exact s.printer.paginator.rationed_listing _ _
  print store handle := by
    have hheader : Console.write s.printer.header s.console =
        (.ok (), (s.console.write s.printer.header).2) := rfl
    rw [Printer.console_print _ _ _ hheader, Printer.console_printBody_stream]
    exact s.printer.paginator.rationed_listing _ _

/-! ### Loops -/

variable {κ : Type} [Console κ]

/-- How a loop ends, at its top: the session was ended, or its input has, or the loop breaks. -/
inductive Halts (s : Session κ) : Except Failure Unit × Session κ → Prop
  | stopped : s.running = false → Halts s (.ok (), s)
  | endOfInput {c : κ} : s.running = true →
      Console.readLine s.renderPrompt s.console = (.ok none, c) →
      Halts s (.ok (), note { s with console := c } .debug "end of input")
  | broken {f : Failure} {s' : Session κ} : Breaks s f s' → Halts s (.error f, s')

/-- Every loop comes to its end, after it has read and handled lines. -/
lemma exists_reads_halts (s : Session κ) :
    ∃ tops top, Reads .still s tops top ∧ Halts top s.loop := by
  fun_induction loop s with
  | case1 s hrunning e c hread => exact ⟨[], s, .nil s, .broken (.read hrunning hread)⟩
  | case2 s hrunning c hread => exact ⟨[], s, .nil s, .endOfInput hrunning hread⟩
  | case3 s hrunning line c hread f s' hstep =>
      exact ⟨[], s, .nil s, .broken (.line hrunning hread hstep)⟩
  | case4 s hrunning line c hread s' hstep ih =>
      obtain ⟨tops, top, hreads, hhalts⟩ := ih
      exact ⟨s :: tops, top, .cons hrunning hread hstep hreads, hhalts⟩
  | case5 s hrunning => exact ⟨[], s, .nil s, .stopped (by simpa using hrunning)⟩

variable {course : Course} {s s' : Session κ} {tops : List (Session κ)}

/-- Each line that is read at the top of the loop uses up input. -/
lemma length_add_remaining_of_reads (h : Reads course s tops s') :
    tops.length + Console.remaining s'.console ≤ Console.remaining s.console := by
  induction h with
  | nil s => simp
  | cons _ hread hstep _ ih =>
      have hlt := remaining_goOn_lt course hread hstep
      rw [List.length_cons]
      omega

/-- At each of the tops a line was read. -/
lemma exists_readLine_of_mem_reads (h : Reads course s tops s') {t : Session κ} (ht : t ∈ tops) :
    Console.remaining t.console ≤ Console.remaining s.console ∧
      ∃ line, (Console.readLine t.renderPrompt t.console).1 = .ok (some line) := by
  induction h with
  | nil s => cases ht
  | @cons _ _ _ _ line _ _ hread hstep _ ih =>
      rcases List.mem_cons.mp ht with rfl | ht
      · exact ⟨Nat.le_refl _, line, congrArg Prod.fst hread⟩
      · obtain ⟨hle, hline⟩ := ih ht
        exact ⟨Nat.le_trans hle (Nat.le_of_lt (remaining_goOn_lt course hread hstep)), hline⟩

/-- **Every run over a queue of lines ends**: its loop reads and handles finitely many lines, and
then it stops. Each read at the top of the loop takes a line of the queue or is the last one, so
there is at most one read more than there are lines; and whatever is listed on the way is cut where
the lines run out, also a stream that does not end. -/
theorem run_ends (s : Session QueueConsole) :
    ∃ tops top r, Reads .still s.started tops top ∧ Halts top r ∧ s.run = concluded r ∧
      tops.length + top.running.toNat ≤ s.console.queue.length + 1 ∧
      (∀ t ∈ tops, t.console.queue ≠ []) ∧
      ∀ t ∈ tops ++ [top], ∀ line rest, t.console.queue = line :: rest →
        rest.length < s.console.queue.length ∧
          Rations { t with console := ⟨rest, t.console.events.push (.prompt t.renderPrompt)⟩ } := by
  obtain ⟨tops, top, hreads, hhalts⟩ := exists_reads_halts s.started
  -- what remains of the input bounds the lines that are still read
  have hlength : tops.length + top.console.queue.length ≤ s.console.queue.length :=
    length_add_remaining_of_reads (s := s.started) hreads
  refine ⟨tops, top, _, hreads, hhalts, run_eq_concluded s, ?_, fun t ht hqueue => ?_,
    fun t ht line rest hqueue => ⟨?_, rations _⟩⟩
  · have hone := Bool.toNat_le top.running
    omega
  · obtain ⟨-, line, hline⟩ := exists_readLine_of_mem_reads hreads ht
    change Except.ok t.console.queue.head? = _ at hline
    rw [hqueue] at hline
    cases hline
  · have hle : t.console.queue.length ≤ s.console.queue.length := by
      rcases List.mem_append.mp ht with ht | ht
      · exact (exists_readLine_of_mem_reads (s := s.started) hreads ht).1
      · obtain rfl := List.mem_singleton.mp ht
        omega
    rw [hqueue, List.length_cons] at hle
    omega

end Session

end LineRepl
