/-
A session does the same at a console over bytes as at a console in memory, if the bytes spell the
lines.

* `Fits`: a text that is read back as the line that it is.
* `Spelled`: how lines are spelled as bytes; line ends of both kinds may be mixed, and the last one
  may be missing.
* `ByteConsole.readLine_of_spelled`: what is read is the first of the lines, and what is left spells
  the others.
* `Transcribes`: the console over bytes has got what the one in memory has got.
* `run_ofLines_agree_run_ofBytes`: runs at both consoles end alike, and the bytes that were written
  are the prompts and texts of the run in memory.
-/
import LineRepl.Console.Bytes
import LineRepl.Engine.Builtin
import LineRepl.Proofs.Similarity
import LineRepl.Proofs.Utf8
import Mathlib.Data.List.Basic
import Mathlib.Data.List.TakeWhile

namespace LineRepl

/-! ### Lines as bytes -/

/-- A text that a line can hold: there is no line feed in it and no carriage return at its end. -/
structure Fits (line : String) : Prop where
  feed : '\n' ∉ line.toList
  carriage : line.toList.getLast? ≠ some '\r'

/-- The bytes spell the lines: each is followed by a line feed or by a carriage return and a line
feed, which the last one may lack unless it is empty. -/
inductive Spelled : List String → List UInt8 → Prop
  | nil : Spelled [] []
  | feed {line : String} {lines : List String} {input : List UInt8} :
      Spelled lines input → Spelled (line :: lines) (utf8 line ++ 10 :: input)
  | carriage {line : String} {lines : List String} {input : List UInt8} :
      Spelled lines input → Spelled (line :: lines) (utf8 line ++ 13 :: 10 :: input)
  | last {line : String} : line ≠ "" → Spelled [line] (utf8 line)

lemma Spelled.eq_nil {input : List UInt8} (h : Spelled [] input) : input = [] := by
  cases h with
  | nil => rfl

lemma Spelled.ne_nil {line : String} {lines : List String} {input : List UInt8}
    (h : Spelled (line :: lines) input) : input ≠ [] := by
  cases h with
  | feed | carriage => simp
  | last hne =>
      intro hnil
      rw [utf8_eq_flatMap, List.flatMap_eq_nil_iff] at hnil
      refine hne (String.toList_eq_nil_iff.mp (List.eq_nil_iff_forall_not_mem.mpr fun c hc => ?_))
      exact String.utf8EncodeChar_ne_nil (hnil c hc)

lemma Fits.feed_notMem {line : String} (h : Fits line) : 10 ∉ utf8 line := by
  intro hmem
  rw [utf8_eq_flatMap, List.mem_flatMap] at hmem
  obtain ⟨c, hc, hb⟩ := hmem
  rcases singleton_or_le_of_mem_utf8EncodeChar hb with ⟨-, heq⟩ | hle
  · have hfeed : '\n'.toNat = c.toNat := heq
    exact h.feed (Char.toNat_inj.mp hfeed ▸ hc)
  · exact absurd hle (by decide)

lemma Fits.getLast?_utf8_ne {line : String} (h : Fits line) : (utf8 line).getLast? ≠ some 13 := by
  intro hlast
  have hcarriage := h.carriage
  rw [utf8_eq_flatMap] at hlast
  rcases List.eq_nil_or_concat' line.toList with hnil | ⟨init, c, hline⟩
  · rw [hnil] at hlast
    cases hlast
  · rw [hline, List.getLast?_concat] at hcarriage
    rw [hline, List.flatMap_append, List.flatMap_singleton,
      List.getLast?_append_of_ne_nil _ String.utf8EncodeChar_ne_nil] at hlast
    have hb := List.mem_of_getLast? hlast
    rcases singleton_or_le_of_mem_utf8EncodeChar hb with ⟨-, heq⟩ | hle
    · have hcarriage' : '\r'.toNat = c.toNat := heq
      exact hcarriage (congrArg some (Char.toNat_inj.mp hcarriage').symm)
    · exact absurd hle (by decide)

namespace ByteConsole

lemma decode?_utf8 (text : String) : decode? (utf8 text) = some text := by
  rw [decode?, utf8, Array.toArray_toList, String.toUTF8_eq_toByteArray, String.fromUTF8?,
    dif_pos text.isValidUTF8]
  rfl

/-- A line ends at the first line feed. -/
lemma firstLine_append_feed {bytes : List UInt8} (h : 10 ∉ bytes) (rest : List UInt8) :
    firstLine (bytes ++ 10 :: rest) = (chomp bytes, rest) := by
  have hne : ∀ b ∈ bytes, (b != 10) = true := fun b hb => bne_iff_ne.mpr (ne_of_mem_of_not_mem hb h)
  rw [firstLine, List.dropWhile_append_of_pos hne, List.takeWhile_append_of_pos hne]
  simp

lemma firstLine_of_feed_notMem {bytes : List UInt8} (h : 10 ∉ bytes) :
    firstLine bytes = (bytes, []) := by
  have hnil : bytes.dropWhile (· != 10) = [] :=
    List.dropWhile_eq_nil_iff.mpr fun b hb => bne_iff_ne.mpr (ne_of_mem_of_not_mem hb h)
  rw [firstLine, hnil]

/-- What the first line of the bytes is, if they spell lines. -/
lemma firstLine_of_spelled {line : String} {lines : List String} {input : List UInt8}
    (hline : Fits line) (h : Spelled (line :: lines) input) :
    ∃ rest, firstLine input = (utf8 line, rest) ∧ Spelled lines rest := by
  cases h with
  | feed hrest =>
      refine ⟨_, ?_, hrest⟩
      rw [firstLine_append_feed hline.feed_notMem, chomp, if_neg hline.getLast?_utf8_ne]
  | carriage hrest =>
      refine ⟨_, ?_, hrest⟩
      have hmem : 10 ∉ utf8 line ++ [13] := by simpa using hline.feed_notMem
      rw [List.append_cons, firstLine_append_feed hmem, chomp, List.getLast?_concat, if_pos rfl,
        List.dropLast_concat]
  | last => exact ⟨[], firstLine_of_feed_notMem hline.feed_notMem, .nil⟩

lemma write_of_fault_eq_none {c : ByteConsole} (h : ∀ k, c.fault k = none) (text : String) :
    ∃ writes, write text c = (.ok (), { c with output := c.output ++ text, writes }) := by
  rw [write]
  split
  next hempty =>
    subst hempty
    exact ⟨c.writes, by rw [String.append_empty]⟩
  · simp only [h]
    exact ⟨c.writes + 1, rfl⟩

/-- Reading shows the prompt and takes the first of the lines that the input spells. -/
lemma readLine_of_spelled {lines : List String} {c : ByteConsole} (hfault : ∀ k, c.fault k = none)
    (hlines : ∀ line ∈ lines, Fits line) (h : Spelled lines c.input) (prompt : String) :
    ∃ writes input, readLine prompt c =
        (.ok lines.head?, { c with input, output := c.output ++ prompt, writes }) ∧
      Spelled lines.tail input := by
  obtain ⟨writes, hwrite⟩ := write_of_fault_eq_none hfault prompt
  rw [readLine, hwrite]
  cases lines with
  | nil =>
      simp only [h.eq_nil]
      exact ⟨writes, [], rfl, .nil⟩
  | cons line lines =>
      obtain ⟨rest, hfirst, hrest⟩ := firstLine_of_spelled (hlines line List.mem_cons_self) h
      obtain ⟨b, bs, hinput⟩ := List.exists_cons_of_ne_nil h.ne_nil
      rw [hinput] at hfirst
      simp only [hinput, hfirst, decode?_utf8]
      exact ⟨writes, rest, rfl, hrest⟩

end ByteConsole

/-! ### Consoles with the same lines -/

/-- The input of the console over bytes spells the lines that wait in memory, its output is what was
shown in memory, and writing to it never fails. -/
structure Transcribes (q : QueueConsole) (b : ByteConsole) : Prop where
  fits : ∀ line ∈ q.queue, Fits line
  input : Spelled q.queue b.input
  output : b.output = String.join (q.events.toList.map ConsoleEvent.text)
  fault : ∀ k, b.fault k = none

lemma similar_transcribes : Console.Similar Transcribes where
  readLine prompt q b h := by
    obtain ⟨writes, input, hread, hspelled⟩ :=
      ByteConsole.readLine_of_spelled h.fault h.fits h.input prompt
    refine ⟨_, _, _, rfl, hread, ?_, hspelled, ?_, h.fault⟩
    · exact fun line hline => h.fits line (List.mem_of_mem_tail hline)
    · rw [Array.toList_push, List.map_append, String.join_append, h.output]
      rfl
  write text q b h := by
    obtain ⟨writes, hwrite⟩ := ByteConsole.write_of_fault_eq_none h.fault text
    refine ⟨_, _, _, rfl, hwrite, h.fits, h.input, ?_, h.fault⟩
    rw [Array.toList_push, List.map_append, String.join_append, h.output]
    rfl

lemma QueueConsole.output_eq_join_filter (c : QueueConsole) :
    c.output =
      String.join ((c.events.toList.filter (·.prompt?.isNone)).map ConsoleEvent.text) := by
  rw [output]
  congr 1
  induction c.events.toList with
  | nil => rfl
  | cons e events ih => cases e <;> simp [ih, ConsoleEvent.prompt?, ConsoleEvent.text]

/-- The session at another console. -/
def Session.moveTo {κ₁ κ₂ : Type} (s : Session κ₁) (c : κ₂) : Session κ₂ := s.become s.engine c

/-- What two runs have in common if one was held in memory and the other over bytes: the sessions
differ in nothing but the console, the bytes that were written are the prompts and the texts that
were shown in memory, in order, and without the prompts they are the output of the console in
memory. -/
structure Mirrored (q : Session QueueConsole) (b : Session ByteConsole) : Prop where
  session : b.moveTo () = q.moveTo ()
  written : b.console.output = String.join (q.console.events.toList.map ConsoleEvent.text)
  output : q.console.output =
    String.join ((q.console.events.toList.filter (·.prompt?.isNone)).map ConsoleEvent.text)

/-- **Interchangeable consoles**: a session that is run over bytes that spell some lines comes to
the same result, in the same state and with the same output, as one that is run over these lines in
memory. -/
theorem run_ofLines_agree_run_ofBytes {κ : Type} (setup : Session κ) {lines : List String}
    {input : List UInt8} (hlines : ∀ line ∈ lines, Fits line) (hinput : Spelled lines input) :
    Agree Mirrored (setup.moveTo (QueueConsole.ofLines lines)).run
      (setup.moveTo (ByteConsole.ofBytes input)).run := by
  have hstart : Transcribes (.ofLines lines) (.ofBytes input) :=
    ⟨hlines, hinput, rfl, fun _ => rfl⟩
  have htwin : Session.Twin Eq Transcribes (setup.moveTo (QueueConsole.ofLines lines))
      (setup.moveTo (ByteConsole.ofBytes input)) := ⟨_, _, rfl, rfl, hstart⟩
  obtain ⟨outcome, q, _, hq, hb, _, b, rfl, rfl, hR⟩ :=
    Session.run_similar similar_transcribes htwin
  exact ⟨outcome, q, _, hq, hb, rfl, hR.output, q.console.output_eq_join_filter⟩

/-- An empty line, a line that ends in a carriage return and a line feed, and a last line without a
line end. -/
theorem run_three_lines_agree :
    (∀ line ∈ ["", "naturals()", "::quit"], Fits line) ∧
      Spelled ["", "naturals()", "::quit"]
        (utf8 "" ++ 10 :: (utf8 "naturals()" ++ 13 :: 10 :: utf8 "::quit")) ∧
      Agree Mirrored
        ((Session.start .builtin Calc.engine ()).moveTo
          (QueueConsole.ofLines ["", "naturals()", "::quit"])).run
        ((Session.start .builtin Calc.engine ()).moveTo (ByteConsole.ofBytes
          (utf8 "" ++ 10 :: (utf8 "naturals()" ++ 13 :: 10 :: utf8 "::quit")))).run := by
  have hlines : ∀ line ∈ ["", "naturals()", "::quit"], Fits line := by
    simp only [List.forall_mem_cons]
    exact ⟨⟨by decide, by decide⟩, ⟨by decide, by decide⟩, ⟨by decide, by decide⟩,
      List.forall_mem_nil _⟩
  have hinput : Spelled ["", "naturals()", "::quit"]
      (utf8 "" ++ 10 :: (utf8 "naturals()" ++ 13 :: 10 :: utf8 "::quit")) :=
    .feed (.carriage (.last (by decide)))
  exact ⟨hlines, hinput, run_ofLines_agree_run_ofBytes _ hlines hinput⟩

end LineRepl
