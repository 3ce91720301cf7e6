/-
Sessions that handle lines alike.

What handling a line comes to depends on the console only through its answers, and neither on the
log nor on the number of lines before. Two sessions that differ in these handle a line alike, unless
the console of the first one is spent: it was asked for more than the other one has to agree about.

* `Likeness`: in what two sessions may differ, and when the console of the first one is spent.
* `Session.Like`: sessions that differ in nothing else.
* `AgreeUnless`: the outcomes are the same and what is left is alike, unless the first one is left
  spent.
* `Session.Alike.andThen`: what is alike stays so as like sessions go on alike.
* `Session.perform_like`, `Session.step_like`, `Session.loopAlong_like`: like sessions do alike what
  a script asks for, handle lines alike and run alike.
-/
import LineRepl.Proofs.Command
import LineRepl.Proofs.Console
import LineRepl.Proofs.Course

namespace LineRepl

variable {κ₁ κ₂ : Type}

/-- The answers are the same, and what is left after them is related. -/
def Agree {α σ₁ σ₂ : Type*} (R : σ₁ → σ₂ → Prop) (r₁ : α × σ₁) (r₂ : α × σ₂) : Prop :=
  ∃ a s₁ s₂, r₁ = (a, s₁) ∧ r₂ = (a, s₂) ∧ R s₁ s₂

/-- The answers are the same and what is left after them is related, or the first is left spent. -/
def AgreeUnless {α σ₁ σ₂ : Type*} (Spent : σ₁ → Prop) (R : σ₁ → σ₂ → Prop) (r₁ : α × σ₁)
    (r₂ : α × σ₂) : Prop :=
  Spent r₁.2 ∨ Agree R r₁ r₂

/-- The streams are the same and the consoles related. -/
def Paginator.Twin (R : κ₁ → κ₂ → Prop) (x : Stream × κ₁) (y : Stream × κ₂) : Prop :=
  x.1 = y.1 ∧ R x.2 y.2

/-- The stores are the same and the consoles related. -/
def Surroundings.Twin (R : κ₁ → κ₂ → Prop) (x : Surroundings κ₁) (y : Surroundings κ₂) : Prop :=
  x.store = y.store ∧ R x.console y.console

variable [Console κ₁] [Console κ₂]

/-- In what two sessions may differ. Related consoles give the same answers, until the first one is
spent, which it stays. -/
structure Likeness (κ₁ κ₂ : Type) [Console κ₁] [Console κ₂] where
  Spent : κ₁ → Prop
  Consoles : κ₁ → κ₂ → Prop
  Engines : Engine → Engine → Prop
  /-- How many lines were handled before. -/
  Counts : ℕ → ℕ → Prop
  Logs : Array LogRecord → Array LogRecord → Prop
  spent_of_le : ∀ {c c'}, Console.remaining c' ≤ Console.remaining c → Spent c → Spent c'
  readLine : ∀ prompt {c₁ c₂}, Consoles c₁ c₂ →
    AgreeUnless Spent Consoles (Console.readLine prompt c₁) (Console.readLine prompt c₂)
  write : ∀ text {c₁ c₂}, Consoles c₁ c₂ →
    AgreeUnless Spent Consoles (Console.write text c₁) (Console.write text c₂)
  counts_succ : ∀ {m n}, Counts m n → Counts (m + 1) (n + 1)
  logs_push : ∀ record {l₁ l₂}, Logs l₁ l₂ → Logs (l₁.push record) (l₂.push record)

/-- Related engines present themselves alike. -/
structure Engine.Similar (E : Engine → Engine → Prop) : Prop where
  refl : ∀ e, E e e
  info : ∀ {e₁ e₂}, E e₁ e₂ → e₁.info = e₂.info

/-- An engine is similar to itself. -/
lemma Engine.similar_eq : Engine.Similar Eq := ⟨fun _ => rfl, congrArg Engine.info⟩

lemma Likeness.push_eq (record : LogRecord) {l₁ l₂ : Array LogRecord} (h : l₁ = l₂) :
    l₁.push record = l₂.push record := by rw [h]

variable (S : Likeness κ₁ κ₂)

/-! ### Printing -/

section Printing

variable {c₁ : κ₁} {c₂ : κ₂}

/-- Like consoles take part in a conversation alike, unless one is spent. -/
lemma Dialogue.run_like (d : Dialogue) (h : S.Consoles c₁ c₂) :
    AgreeUnless S.Spent S.Consoles (d.run c₁) (d.run c₂) := by
  induction d generalizing c₁ c₂ with
  | done | fail | panic => exact .inr ⟨_, _, _, rfl, rfl, h⟩
  | write text next ih =>
      rcases S.write text h with hspent | ⟨answer, c₁', c₂', h₁, h₂, h'⟩
      · exact .inl (S.spent_of_le (remaining_run_le (next _) _) hspent)
      · rw [run, run, h₁, h₂]
        exact ih answer h'
  | readLine prompt next ih =>
      rcases S.readLine prompt h with hspent | ⟨answer, c₁', c₂', h₁, h₂, h'⟩
      · exact .inl (S.spent_of_le (remaining_run_le (next _) _) hspent)
      · rw [run, run, h₁, h₂]
        exact ih answer h'

namespace Paginator

/-- They turn a page alike. -/
lemma turnPage_like (p : Paginator) (lines room : ℕ) (h : S.Consoles c₁ c₂) :
    AgreeUnless S.Spent S.Consoles (turnPage p lines room c₁) (turnPage p lines room c₂) := by
  cases room with
  | succ room => exact .inr ⟨_, _, _, rfl, rfl, h⟩
  | zero =>
      rcases S.readLine (pausePrompt lines) h with hspent | ⟨answer, c₁', c₂', h₁, h₂, h'⟩
      · exact .inl ((congrArg S.Spent (console_turnPage p lines c₁)).mpr hspent)
      · rw [turnPage, turnPage, h₁, h₂]
        rcases answer with _ | _ | _ <;> exact .inr ⟨_, _, _, rfl, rfl, h'⟩

/-- A stream is listed alike at them. -/
lemma listingFrom_like (p : Paginator) (lines room : ℕ) (s : Stream) (h : S.Consoles c₁ c₂) :
    AgreeUnless (fun x => S.Spent x.2) (Twin S.Consoles) (listingFrom p lines room s c₁)
      (listingFrom p lines room s c₂) := by
  fun_induction listingFrom p lines room s c₁ generalizing c₂ with
  | case1 lines room s c₁ hpull =>
      rw [listingFrom_of_none p lines room c₂ hpull]
      exact .inr ⟨_, _, _, rfl, rfl, rfl, h⟩
  | case2 lines room s c₁ panic s' hpull =>
      rw [listingFrom_of_broken p lines room c₂ hpull]
      exact .inr ⟨_, _, _, rfl, rfl, rfl, h⟩
  | case3 lines room s c₁ v s' hpull e c₁' hturn | case4 lines room s c₁ v s' hpull c₁' hturn =>
      have hturned := turnPage_like S p lines room h
      rw [hturn] at hturned
      rcases hturned with hspent | ⟨_, _, c₂', h₁, h₂, h'⟩
      · exact .inl hspent
      · cases h₁
        rw [listingFrom_of_value p lines room c₂ hpull, h₂]
        exact .inr ⟨_, _, _, rfl, rfl, rfl, h'⟩
  | case5 lines room s c₁ v s' hpull room' c₁' hturn e c₁'' hwrite =>
      have hturned := turnPage_like S p lines room h
      have hle := Console.write_le (p.lineText lines v) c₁'
      rw [hturn] at hturned
      rw [hwrite] at hle
      rcases hturned with hspent | ⟨_, _, c₂', h₁, h₂, h'⟩
      · exact .inl (S.spent_of_le hle hspent)
      · cases h₁
        have hwritten := S.write (p.lineText lines v) h'
        rw [hwrite] at hwritten
        rcases hwritten with hspent | ⟨_, _, c₂'', h₁, h₂', h''⟩
        · exact .inl hspent
        · cases h₁
          rw [listingFrom_of_value p lines room c₂ hpull, h₂]
          simp only [h₂']
          exact .inr ⟨_, _, _, rfl, rfl, rfl, h''⟩
  | case6 lines room s c₁ v s' hpull room' c₁' hturn c₁'' hwrite ih =>
      have hturned := turnPage_like S p lines room h
      have hrest := p.remaining_listingFrom_le (lines + 1) room' s' c₁''
      have hle := Console.write_le (p.lineText lines v) c₁'
      rw [hturn] at hturned
      rw [hwrite] at hle
      rcases hturned with hspent | ⟨_, _, c₂', h₁, h₂, h'⟩
      · exact .inl (S.spent_of_le (Nat.le_trans hrest hle) hspent)
      · cases h₁
        have hwritten := S.write (p.lineText lines v) h'
        rw [hwrite] at hwritten
        rcases hwritten with hspent | ⟨_, _, c₂'', h₁, h₂', h''⟩
        · exact .inl (S.spent_of_le hrest hspent)
        · cases h₁
          rw [listingFrom_of_value p lines room c₂ hpull, h₂]
          simp only [h₂']
          exact ih h''

end Paginator

namespace Printer

/-- A value is shown alike. -/
lemma printBody_like (p : Printer) (v : Value) (store : Store) (h : S.Consoles c₁ c₂) :
    AgreeUnless (fun x => S.Spent x.console) (Surroundings.Twin S.Consoles)
      (p.printBody v ⟨store, c₁⟩) (p.printBody v ⟨store, c₂⟩) := by
  by_cases hv : ∃ handle, v = .stream handle
  · obtain ⟨handle, rfl⟩ := hv
    rcases Paginator.listingFrom_like S p.paginator 0 p.paginator.limit (store.stream handle) h with
      hspent | ⟨outcome, ⟨s, c₁'⟩, ⟨_, c₂'⟩, h₁, h₂, rfl, h'⟩
    · exact .inl ((congrArg S.Spent (p.console_printBody_stream handle ⟨store, c₁⟩)).mpr hspent)
    · simp only [printBody, Paginator.listing, h₁, h₂]
      cases outcome <;> exact .inr ⟨_, _, _, rfl, rfl, rfl, h'⟩
  · rw [not_exists] at hv
    rcases Dialogue.run_like S (p.dialogue v) h with hspent | ⟨outcome, c₁', c₂', h₁, h₂, h'⟩
    · exact .inl ((congrArg S.Spent (p.console_printBody_of_ne_stream hv ⟨store, c₁⟩)).mpr hspent)
    · simp only [printBody_of_ne_stream p hv, h₁, h₂]
      cases outcome <;> exact .inr ⟨_, _, _, rfl, rfl, rfl, h'⟩

/-- A result is printed alike, header and all. -/
lemma print_like (p : Printer) (result : Option Value) (store : Store) (h : S.Consoles c₁ c₂) :
    AgreeUnless (fun x => S.Spent x.2.console)
      (fun x y => x.1 = y.1 ∧ Surroundings.Twin S.Consoles x.2 y.2)
      (p.print result ⟨store, c₁⟩) (p.print result ⟨store, c₂⟩) := by
  cases result with
  | none => exact .inr ⟨_, _, _, rfl, rfl, rfl, rfl, h⟩
  | some v =>
      simp only [print]
      rcases S.write p.header h with hspent | ⟨answer, c₁', c₂', h₁, h₂, h'⟩
      · left
        generalize Console.write p.header c₁ = r at hspent ⊢
        rcases r with ⟨_ | _, c⟩
        · exact hspent
        · have hbody := S.spent_of_le (p.remaining_printBody_le v ⟨store, c⟩) hspent
          simp only
          generalize p.printBody v ⟨store, c⟩ = r at hbody ⊢
          rcases r with ⟨_ | _, _⟩ <;> exact hbody
      · rw [h₁, h₂]
        cases answer with
        | error => exact .inr ⟨_, _, _, rfl, rfl, rfl, rfl, h'⟩
        | ok =>
            simp only
            rcases printBody_like S p v store h' with
              hspent | ⟨outcome, ⟨store', c₁''⟩, ⟨_, c₂''⟩, h₁, h₂, rfl, h''⟩
            · left
              generalize p.printBody v ⟨store, c₁'⟩ = r at hspent ⊢
              rcases r with ⟨_ | _, _⟩ <;> exact hspent
            · rw [h₁, h₂]
              cases outcome <;> exact .inr ⟨_, _, _, rfl, rfl, rfl, rfl, h''⟩

end Printer

end Printing

/-! ### Sessions -/

namespace Session

omit [Console κ₁] [Console κ₂] in
/-- The session with another engine, at another console, after another number of lines and with
another log. -/
def recast (s : Session κ₁) (e : Engine) (c : κ₂) (count : ℕ) (log : Array LogRecord) :
    Session κ₂ :=
  { s with engine := e, console := c, inputCount := count, log }

/-- The sessions differ in nothing but what the likeness allows. -/
def Like (S : Likeness κ₁ κ₂) (s₁ : Session κ₁) (s₂ : Session κ₂) : Prop :=
  ∃ e c count log, s₂ = s₁.recast e c count log ∧ S.Engines s₁.engine e ∧ S.Consoles s₁.console c ∧
    S.Counts s₁.inputCount count ∧ S.Logs s₁.log log

/-- The outcomes are the same and the sessions stay alike, unless the console of the first is left
spent. -/
abbrev Alike (S : Likeness κ₁ κ₂) (r₁ : Except Failure Unit × Session κ₁)
    (r₂ : Except Failure Unit × Session κ₂) : Prop :=
  AgreeUnless (fun s => S.Spent s.console) (Like S) r₁ r₂

variable {S} {s₁ : Session κ₁} {s₂ : Session κ₂}

namespace Like

/-- Commands see the same of like sessions. -/
lemma view (h : Like S s₁ s₂) : s₂.view = s₁.view := by
  obtain ⟨e, c, count, log, rfl, -⟩ := h
  rfl

lemma counted (h : Like S s₁ s₂) : Like S s₁.counted s₂.counted := by
  obtain ⟨e, c, count, log, rfl, hE, hC, hcount, hlog⟩ := h
  exact ⟨e, c, count + 1, log, rfl, hE, hC, S.counts_succ hcount, hlog⟩

lemma record (h : Like S s₁ s₂) (record : LogRecord) :
    Like S { s₁ with log := s₁.log.push record } { s₂ with log := s₂.log.push record } := by
  obtain ⟨e, c, count, log, rfl, hE, hC, hcount, hlog⟩ := h
  exact ⟨e, c, count, log.push record, rfl, hE, hC, hcount, S.logs_push record hlog⟩

lemma noteListing (h : Like S s₁ s₂) (listing : Option Listing) :
    Like S (s₁.noteListing listing) (s₂.noteListing listing) := by
  rcases listing with _ | ⟨lines, _ | _⟩
  · exact h
  · exact h
  · exact h.record _

lemma workspace (h : Like S s₁ s₂) : s₂.workspace = s₁.workspace := by
  obtain ⟨e, c, count, log, rfl, -⟩ := h
  rfl

lemma withWorkspace (h : Like S s₁ s₂) (w : Workspace) :
    Like S { s₁ with workspace := w } { s₂ with workspace := w } := by
  obtain ⟨e, c, count, log, rfl, hrest⟩ := h
  exact ⟨e, c, count, log, rfl, hrest⟩

lemma bind (h : Like S s₁ s₂) (name : String) (v : Value) :
    Like S { s₁ with workspace := s₁.workspace.bind name v }
      { s₂ with workspace := s₂.workspace.bind name v } := by
  rw [h.workspace]
  exact h.withWorkspace _

/-- The prompts are the same if engines and counts are. -/
lemma prompt (hengines : S.Engines = Eq) (hcounts : S.Counts = Eq) (h : Like S s₁ s₂) :
    s₂.renderPrompt = s₁.renderPrompt := by
  obtain ⟨e, c, count, log, rfl, hE, -, hcount, -⟩ := h
  rw [hengines] at hE
  rw [hcounts] at hcount
  rw [← hE, ← hcount]
  rfl

/-- The same course goes on alike. -/
lemma goOn (hengines : S.Engines = Eq) (h : Like S s₁ s₂) (course : Course) (line : String)
    (w : Workspace) : Like S (s₁.goOn course line w) (s₂.goOn course line w) := by
  obtain ⟨e, c, count, log, rfl, hE, hrest⟩ := h
  rw [hengines] at hE
  subst hE
  exact ⟨_, c, count, log, rfl, hengines ▸ rfl, hrest⟩

end Like

omit [Console κ₁] in
/-- Goes on with the next thing, if nothing has failed. -/
def andThen (r : Except Failure Unit × Session κ₁)
    (next : Session κ₁ → Except Failure Unit × Session κ₁) : Except Failure Unit × Session κ₁ :=
  match r with
  | (.error f, s) => (.error f, s)
  | (.ok (), s) => next s

/-- What is alike stays so if like sessions go on alike, and spent ones leave their console spent.
-/
lemma Alike.andThen {r₁ : Except Failure Unit × Session κ₁} {r₂ : Except Failure Unit × Session κ₂}
    {g : Session κ₁ → Except Failure Unit × Session κ₁}
    {h : Session κ₂ → Except Failure Unit × Session κ₂} (hr : Alike S r₁ r₂)
    (hspent : ∀ s, S.Spent s.console → S.Spent (g s).2.console)
    (hnext : ∀ s₁ s₂, Like S s₁ s₂ → Alike S (g s₁) (h s₂)) :
    Alike S (Session.andThen r₁ g) (Session.andThen r₂ h) := by
  rcases hr with hleft | ⟨outcome, s₁, s₂, rfl, rfl, hlike⟩
  · obtain ⟨_ | _, s⟩ := r₁
    · exact .inl hleft
    · exact .inl (hspent s hleft)
  · cases outcome with
    | error => exact .inr ⟨_, _, _, rfl, rfl, hlike⟩
    | ok => exact hnext s₁ s₂ hlike

/-- Like sessions write alike. -/
lemma write_like (text : String) (h : Like S s₁ s₂) : Alike S (s₁.write text) (s₂.write text) := by
  obtain ⟨e, c, count, log, rfl, hE, hC, hrest⟩ := h
  rcases S.write text hC with hspent | ⟨answer, c₁, c₂, h₁, h₂, hC'⟩
  · exact .inl ((congrArg S.Spent (s₁.console_write text)).mpr hspent)
  · simp only [write, recast, h₁, h₂]
    cases answer <;> exact .inr ⟨_, _, _, rfl, rfl, e, c₂, count, log, rfl, hE, hC', hrest⟩

lemma list_like (lines : List String) (h : Like S s₁ s₂) :
    Alike S (s₁.list lines) (s₂.list lines) := by
  obtain ⟨e, c, count, log, rfl, hE, hC, hrest⟩ := h
  rcases Paginator.listingFrom_like S s₁.printer.paginator 0 s₁.printer.paginator.limit
    (.ofList (lines.map .str)) hC with hspent | ⟨outcome, ⟨s, c₁⟩, ⟨_, c₂⟩, h₁, h₂, rfl, hC'⟩
  · exact .inl ((congrArg S.Spent (s₁.console_list lines)).mpr hspent)
  · have hlike : Like S { s₁ with console := c₁ } (s₁.recast e c₂ count log) :=
      ⟨e, c₂, count, log, rfl, hE, hC', hrest⟩
    simp only [list, Paginator.listing, recast, h₁, h₂]
    cases outcome with
    | error => exact .inr ⟨_, _, _, rfl, rfl, hlike⟩
    | ok listing => exact .inr ⟨_, _, _, rfl, rfl, hlike.noteListing (some listing)⟩

/-- They print a result alike, bind it and count it. -/
lemma printResult_like (result : Option Value) (h : Like S s₁ s₂) :
    Alike S (s₁.printResult result) (s₂.printResult result) := by
  obtain ⟨e, c, count, log, rfl, hE, hC, hrest⟩ := h
  rcases Printer.print_like S s₁.printer result s₁.workspace.store hC with
    hspent | ⟨outcome, ⟨printer, store, c₁⟩, ⟨_, _, c₂⟩, h₁, h₂, rfl, rfl, hC'⟩
  · exact .inl ((congrArg S.Spent (s₁.console_printResult result)).mpr hspent)
  · have hlike : Like S (s₁.afterPrinting printer ⟨store, c₁⟩)
        ((s₁.recast e c count log).afterPrinting printer ⟨store, c₂⟩) :=
      ⟨e, c₂, count, log, rfl, hE, hC', hrest⟩
    rw [printResult, printResult, h₁]
    simp only [show (s₁.recast e c count log).printer.print result
      ⟨(s₁.recast e c count log).workspace.store, (s₁.recast e c count log).console⟩ = _ from h₂]
    cases outcome with
    | error => exact .inr ⟨_, _, _, rfl, rfl, hlike⟩
    | ok printing =>
        have hlike := hlike.noteListing printing.listing
        cases result with
        | none => exact .inr ⟨_, _, _, rfl, rfl, hlike⟩
        | some v => exact .inr ⟨_, _, _, rfl, rfl, hlike.bind lastResult v⟩

/-- They evaluate a line alike, if their engines reply alike. -/
lemma evaluate_like (line : String) (h : Like S s₁ s₂)
    (heval : s₁.engine.eval line s₁.workspace = s₂.engine.eval line s₂.workspace) :
    Alike S (s₁.evaluate line) (s₂.evaluate line) := by
  rw [evaluate, evaluate, ← heval]
  rcases s₁.engine.eval line s₁.workspace with ⟨v | _ | e | p, w⟩
  · exact printResult_like (some v) (h.withWorkspace w)
  · exact printResult_like none (h.withWorkspace w)
  · exact .inr ⟨_, _, _, rfl, rfl, h.withWorkspace w⟩
  · exact .inr ⟨_, _, _, rfl, rfl, h.withWorkspace w⟩

/-- They report a failure alike. -/
lemma fail_like (f : Failure) (h : Like S s₁ s₂) : Alike S (s₁.fail f) (s₂.fail f) := by
  by_cases hf : ∃ e, f = .io e
  · obtain ⟨e, rfl⟩ := hf
    exact .inr ⟨_, _, _, rfl, rfl, h⟩
  · rw [not_exists] at hf
    rw [fail_of_ne_io s₁ hf, fail_of_ne_io s₂ hf]
    refine Alike.andThen (write_like (f.report ++ "\n") (h.record (failureRecord f)))
      (g := fun s => (.ok (), { s with lastError := some f }))
      (h := fun s => (.ok (), { s with lastError := some f })) (fun _ => id) ?_
    rintro s₁' _ ⟨e, c, count, log, rfl, hrest⟩
    exact .inr ⟨_, _, _, rfl, rfl, e, c, count, log, rfl, hrest⟩

lemma settle_like {r₁ : Except Failure Unit × Session κ₁} {r₂ : Except Failure Unit × Session κ₂}
    (h : Alike S r₁ r₂) : Alike S (settle r₁) (settle r₂) := by
  rcases h with hspent | ⟨outcome, s₁, s₂, rfl, rfl, h⟩
  · exact .inl (S.spent_of_le (remaining_settle_le r₁) hspent)
  · cases outcome with
    | ok => exact .inr ⟨_, _, _, rfl, rfl, h⟩
    | error f => exact fail_like f h

/-! ### Commands -/

/-- They change to an engine alike. -/
lemma swapEngine_like (hE : Engine.Similar S.Engines) (id : String) (h : Like S s₁ s₂) :
    Agree (Like S) (s₁.swapEngine id) (s₂.swapEngine id) := by
  obtain ⟨e, c, count, log, rfl, hrel, hC, hcount, hlog⟩ := h
  simp only [swapEngine, recast]
  cases s₁.engines.find? id with
  | none => exact ⟨_, _, _, rfl, rfl, e, c, count, log, rfl, hrel, hC, hcount, hlog⟩
  | some e' =>
      simp only [← hE.info hrel]
      exact ⟨_, _, _, rfl, rfl, e', c, count, _, rfl, hE.refl e', hC, hcount,
        S.logs_push _ hlog⟩

/-- Like sessions do alike what a script asks for. If the script handles its argument as a line,
they have to handle that line alike. -/
lemma perform_like (hE : Engine.Similar S.Engines)
    {again₁ : Session κ₁ → Except Failure Unit × Session κ₁}
    {again₂ : Session κ₂ → Except Failure Unit × Session κ₂} {script : Script}
    (engines : EngineTable) (F : Failure → Prop)
    (hspent : ∀ script s, S.Spent s.console → S.Spent (perform again₁ script s).2.console)
    (hagain : script.Plain engines F ∨ ∀ {s₁ s₂}, Like S s₁ s₂ → Alike S (again₁ s₁) (again₂ s₂))
    (h : Like S s₁ s₂) : Alike S (perform again₁ script s₁) (perform again₂ script s₂) := by
  induction script generalizing s₁ s₂ with
  | done => exact .inr ⟨_, _, _, rfl, rfl, h⟩
  | fail f => exact .inr ⟨_, _, _, rfl, rfl, h⟩
  | view next ih =>
      rw [perform, perform, h.view]
      exact ih _ (hagain.imp_left fun hplain => hplain _) h
  | write text next ih =>
      exact (write_like text h).andThen (hspent next) fun _ _ h => ih hagain h
  | readLine prompt next ih =>
      obtain ⟨e, c, count, log, rfl, hrel, hC, hrest⟩ := h
      simp only [perform, recast]
      rcases S.readLine prompt hC with hleft | ⟨answer, c₁, c₂, h₁, h₂, hC'⟩
      · left
        generalize Console.readLine prompt s₁.console = r at hleft ⊢
        rcases r with ⟨_ | line, c⟩
        · exact hleft
        · exact hspent (next line) { s₁ with console := c } hleft
      · rw [h₁, h₂]
        have hlike : Like S { s₁ with console := c₁ } (s₁.recast e c₂ count log) :=
          ⟨e, c₂, count, log, rfl, hrel, hC', hrest⟩
        cases answer with
        | error => exact .inr ⟨_, _, _, rfl, rfl, hlike⟩
        | ok line => exact ih line (hagain.imp_left fun hplain => hplain line) hlike
  | list lines next ih =>
      exact (list_like lines h).andThen (hspent next) fun _ _ h => ih hagain h
  | bind name v next ih => exact ih (hagain.imp_left False.elim) (h.bind name v)
  | setPrompt prompt next ih | setLimit limit next ih | quit next ih =>
      obtain ⟨e, c, count, log, rfl, hrest⟩ := h
      exact ih hagain ⟨e, c, count, log, rfl, hrest⟩
  | toggleNumbers next ih =>
      obtain ⟨e, c, count, log, rfl, hrest⟩ := h
      exact ih _ (hagain.imp_left fun hplain => hplain _) ⟨e, c, count, log, rfl, hrest⟩
  | swapEngine id next ih =>
      obtain ⟨outcome, s₁', s₂', h₁, h₂, h'⟩ := swapEngine_like hE id h
      rw [perform, perform, h₁, h₂]
      cases outcome with
      | error => exact .inr ⟨_, _, _, rfl, rfl, h'⟩
      | ok => exact ih (hagain.imp_left And.right) h'
  | runArgument next ih =>
      rcases hagain with hplain | hagain
      · exact hplain.elim
      · exact (hagain h).andThen (hspent next) fun _ _ h => ih (.inr hagain) h

/-! ### Lines and runs -/

/-- Like sessions with the same engine handle a line alike. -/
lemma step_like (hengines : S.Engines = Eq) (line : String)
    (h : Like S s₁ s₂) : Alike S (step line s₁) (step line s₂) := by
  induction hn : line.length using Nat.strongRecOn generalizing line s₁ s₂ with
  | ind n ih =>
      have hcounted := h.counted
      obtain ⟨e, c, count, log, rfl, hE, hrest⟩ := h
      rw [hengines] at hE
      subst hE
      rw [step_eq, step_eq]
      refine settle_like ?_
      cases hparse : CommandLine.parse? s₁.commandPrefix.text line with
      | none =>
          rw [attempt_of_parse?_eq_none hparse,
            attempt_of_parse?_eq_none (s := s₁.recast s₁.engine c count log) hparse]
          exact evaluate_like line hcounted rfl
      | some named =>
          cases hfind : s₁.commands.find? named.name with
          | none =>
              rw [attempt_of_find?_eq_none hparse hfind,
                attempt_of_find?_eq_none (s := s₁.recast s₁.engine c count log) hparse hfind]
              exact .inr ⟨_, _, _, rfl, rfl, hcounted⟩
          | some command =>
              rw [attempt_of_find?_eq_some hparse hfind,
                attempt_of_find?_eq_some (s := s₁.recast s₁.engine c count log) hparse hfind]
              have hshorter := CommandLine.argument_shorter s₁.commandPrefix.nonempty hparse
              refine perform_like (hengines ▸ Engine.similar_eq) s₁.engines (fun _ => True)
                (fun script s hspent => ?_) (.inr fun hlike => ?_) (hcounted.record _)
              · exact S.spent_of_le (remaining_perform_le (remaining_step_le _) script s) hspent
              · exact ih _ (hn ▸ hshorter) _ hlike rfl

/-- Like sessions that show the same prompts run alike, if the first console is never spent. -/
lemma loopAlong_like (hengines : S.Engines = Eq) (hcounts : S.Counts = Eq)
    (hspent : ∀ c, ¬ S.Spent c) (course : Course) (h : Like S s₁ s₂) :
    Agree (Like S) (s₁.loopAlong course) (s₂.loopAlong course) := by
  induction hn : Console.remaining s₁.console using Nat.strongRecOn generalizing s₁ s₂ with
  | ind n ih =>
      have hview := h.prompt hengines hcounts
      obtain ⟨e, c, count, log, rfl, hE, hC, hrest⟩ := h
      cases hrunning : s₁.running with
      | false =>
          rw [loopAlong_of_not_running course hrunning,
            loopAlong_of_not_running (s := s₁.recast e c count log) course hrunning]
          exact ⟨_, _, _, rfl, rfl, e, c, count, log, rfl, hE, hC, hrest⟩
      | true =>
          rw [loopAlong_of_running course hrunning,
            loopAlong_of_running (s := s₁.recast e c count log) course hrunning, hview]
          rcases S.readLine s₁.renderPrompt hC with hleft | ⟨answer, c₁, c₂, h₁, h₂, hC'⟩
          · exact absurd hleft (hspent _)
          have hlike : Like S { s₁ with console := c₁ } (s₁.recast e c₂ count log) :=
            ⟨e, c₂, count, log, rfl, hE, hC', hrest⟩
          simp only [h₁, show Console.readLine s₁.renderPrompt
            (s₁.recast e c count log).console = _ from h₂]
          rcases answer with _ | _ | line
          · exact ⟨_, _, _, rfl, rfl, hlike⟩
          · exact ⟨_, _, _, rfl, rfl, hlike.record _⟩
          · rcases step_like hengines line hlike with
              hleft | ⟨outcome, s₁', s₂', hstep₁, hstep₂, hlike'⟩
            · exact absurd hleft (hspent _)
            simp only [hstep₁, show step line { s₁.recast e c count log with console := c₂ } = _
              from hstep₂]
            cases outcome with
            | error f => exact ⟨_, _, _, rfl, rfl, hlike'⟩
            | ok =>
                exact ih _ (hn ▸ remaining_goOn_lt course h₁ hstep₁)
                  (hlike'.goOn hengines course line _) rfl

/-- Their runs are concluded alike. -/
lemma concluded_like (hcounts : S.Counts = Eq) {r₁ : Except Failure Unit × Session κ₁}
    {r₂ : Except Failure Unit × Session κ₂} (h : Agree (Like S) r₁ r₂) :
    Agree (Like S) (concluded r₁) (concluded r₂) := by
  obtain ⟨outcome, s₁, _, rfl, rfl, e, c, count, log, rfl, hE, hC, hcount, hlog⟩ := h
  cases outcome with
  | error f => exact ⟨_, _, _, rfl, rfl, e, c, count, log, rfl, hE, hC, hcount, hlog⟩
  | ok =>
      rw [hcounts] at hcount
      subst hcount
      exact ⟨_, _, _, rfl, rfl, e, c, _, _, rfl, hE, hC, hcounts ▸ rfl, S.logs_push _ hlog⟩

/-- Like sessions that show the same prompts run alike, if the first console is never spent. -/
lemma runAlong_like (hengines : S.Engines = Eq) (hcounts : S.Counts = Eq)
    (hspent : ∀ c, ¬ S.Spent c) (course : Course) (h : Like S s₁ s₂) :
    Agree (Like S) (s₁.runAlong course) (s₂.runAlong course) := by
  refine concluded_like hcounts (loopAlong_like hengines hcounts hspent course ?_)
  obtain ⟨e, c, count, log, rfl, hE, hC, hcount, hlog⟩ := h
  rw [hengines] at hE
  subst hE
  exact ⟨_, c, count, _, rfl, hengines ▸ rfl, hC, hcount, S.logs_push _ hlog⟩

end Session

end LineRepl
