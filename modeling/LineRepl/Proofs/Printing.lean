/-
What printing asks of its console, and how it ends when the console never fails.

* `Console.similar_after`: every console is similar to itself, along with the requests that led to
  it. So a listing leads its console on by requests alone (`Paginator.exists_after_listing`), and so
  does whatever else is shown (`Printer.exists_after_printBody`).
* `Paginator.listing_outcome`: a listing ends well, or in the panic of an item that is left.
* `Dialogue.Sound`, `Printer.Sound`: renderers that end well or panic.
* `Printer.Printed`: what printing a value does.
* `Printer.print_outcome`: it ends well or in a panic.
-/
import LineRepl.Proofs.Listing
import LineRepl.Proofs.Similarity

namespace LineRepl

/-- A conversation that ends well or panics, as long as the console answers. -/
def Dialogue.Sound : Dialogue → Prop
  | .done => True
  | .fail _ => False
  | .panic _ => True
  | .write _ next => (next (.ok ())).Sound
  | .readLine _ next => ∀ line, (next (.ok line)).Sound

/-- All renderers end well or panic, as long as the console answers. -/
def Printer.Sound (p : Printer) : Prop :=
  ∀ kind render, p.renderer? kind = some render → ∀ v, (render v).Sound

variable {κ : Type} [Console κ]

/-! ### Requests -/

lemma Console.similar_after (c : κ) :
    Console.Similar fun c₁ c₂ : κ => c₁ = c₂ ∧ ∃ events, c₁ = Console.after c events where
  readLine prompt c₁ c₂ h := by
    obtain ⟨rfl, events, rfl⟩ := h
    exact ⟨_, _, _, rfl, rfl, rfl, events ++ [.prompt prompt], by rw [after_append]; rfl⟩
  write text c₁ c₂ h := by
    obtain ⟨rfl, events, rfl⟩ := h
    exact ⟨_, _, _, rfl, rfl, rfl, events ++ [.written text], by rw [after_append]; rfl⟩

lemma Paginator.exists_after_listing (p : Paginator) (s : Stream) (c : κ) :
    ∃ events, (p.listing s c).2.2 = Console.after c events := by
  obtain ⟨_, _, _, h, -, -, -, events, hevents⟩ := (listingFrom_like
    (.twin Eq (Console.similar_after c)) p 0 p.limit s ⟨rfl, [], rfl⟩).resolve_left id
  exact ⟨events, (congrArg (·.2.2) h).trans hevents⟩

lemma Printer.exists_after_printBody (p : Printer) (v : Value) (s : Surroundings κ) :
    ∃ events, (p.printBody v s).2.console = Console.after s.console events := by
  obtain ⟨_, _, _, h, -, -, -, events, hevents⟩ := (printBody_like
    (.twin Eq (Console.similar_after s.console)) p v s.store ⟨rfl, [], rfl⟩).resolve_left id
  exact ⟨events, (congrArg (·.2.console) h).trans hevents⟩

/-! ### Consoles that never fail -/

namespace Paginator

lemma exists_turnPage_eq {c : κ} (hc : Console.NeverFails c) (p : Paginator) (lines room : ℕ) :
    ∃ room' c', turnPage p lines room c = (.ok room', c') ∧ Console.NeverFails c' := by
  cases room with
  | succ room => exact ⟨_, _, rfl, hc⟩
  | zero =>
      obtain ⟨line, c', h, hc'⟩ := hc.exists_readLine_eq (pausePrompt lines)
      rw [turnPage, h]
      cases line <;> exact ⟨_, _, rfl, hc'⟩

lemma listingFrom_outcome (p : Paginator) (lines room : ℕ) (s : Stream) {c : κ}
    (hc : Console.NeverFails c) :
    (∃ l, (listingFrom p lines room s c).1 = .ok l) ∨
      ∃ panic i, (listingFrom p lines room s c).1 = .error (.panic panic) ∧ s.position ≤ i ∧
        s.item i = some (.broken panic) := by
  fun_induction listingFrom p lines room s c with
  | case1 lines room s c hpull => exact .inl ⟨_, rfl⟩
  | case2 lines room s c panic s' hpull =>
      exact .inr ⟨panic, s.position, rfl, Nat.le_refl _, (Stream.item_of_pull hpull).1⟩
  | case3 lines room s c v s' hpull e c₁ hturn =>
      obtain ⟨_, _, h, -⟩ := exists_turnPage_eq hc p lines room
      cases h.symm.trans hturn
  | case4 lines room s c v s' hpull c₁ hturn => exact .inl ⟨_, rfl⟩
  | case5 lines room s c v s' hpull room' c₁ hturn e c₂ hwrite =>
      obtain ⟨_, _, h, hc₁⟩ := exists_turnPage_eq hc p lines room
      cases h.symm.trans hturn
      obtain ⟨_, h, -⟩ := hc₁.exists_write_eq (p.lineText lines v)
      cases h.symm.trans hwrite
  | case6 lines room s c v s' hpull room' c₁ hturn c₂ hwrite ih =>
      obtain ⟨_, _, h, hc₁⟩ := exists_turnPage_eq hc p lines room
      cases h.symm.trans hturn
      obtain ⟨_, h, hc₂⟩ := hc₁.exists_write_eq (p.lineText lines v)
      cases h.symm.trans hwrite
      obtain ⟨-, rfl⟩ := Stream.item_of_pull hpull
      rcases ih hc₂ with hok | ⟨panic, i, hpanic, hi, hitem⟩
      · exact .inl hok
      · exact .inr ⟨panic, i, hpanic, Nat.le_trans (Nat.le_succ _) hi, hitem⟩

/-- A listing at a console that never fails ends well, or in the panic of an item that is left. -/
lemma listing_outcome (p : Paginator) (s : Stream) {c : κ} (hc : Console.NeverFails c) :
    (∃ l, (p.listing s c).1 = .ok l) ∨
      ∃ panic i, (p.listing s c).1 = .error (.panic panic) ∧ s.position ≤ i ∧
        s.item i = some (.broken panic) :=
  listingFrom_outcome p 0 p.limit s hc

end Paginator

lemma Dialogue.run_outcome {d : Dialogue} (hd : d.Sound) {c : κ} (hc : Console.NeverFails c) :
    (d.run c).1 = .ok () ∨ ∃ panic, (d.run c).1 = .error (.panic panic) := by
  induction d generalizing c with
  | done => exact .inl rfl
  | fail e => exact hd.elim
  | panic panic => exact .inr ⟨panic, rfl⟩
  | write text next ih =>
      obtain ⟨c', h, hc'⟩ := hc.exists_write_eq text
      rw [run, h]
      exact ih _ hd hc'
  | readLine prompt next ih =>
      obtain ⟨line, c', h, hc'⟩ := hc.exists_readLine_eq prompt
      rw [run, h]
      exact ih _ (hd line) hc'

namespace Printer

lemma Sound.dialogue {p : Printer} (h : p.Sound) (v : Value) : (p.dialogue v).Sound := by
  rw [Printer.dialogue]
  split
  next render hrender => exact h _ _ hrender v
  next => exact trivial

lemma printBody_outcome {p : Printer} (hp : p.Sound) (v : Value) {s : Surroundings κ}
    (hc : Console.NeverFails s.console) :
    (∃ listing, (p.printBody v s).1 = .ok listing) ∨
      ∃ panic, (p.printBody v s).1 = .error (.panic panic) := by
  by_cases hv : ∃ handle, v = .stream handle
  · obtain ⟨handle, rfl⟩ := hv
    have houtcome := p.paginator.listing_outcome (s.store.stream handle) hc
    rw [printBody]
    generalize p.paginator.listing (s.store.stream handle) s.console = r at houtcome ⊢
    obtain ⟨outcome, _, _⟩ := r
    rcases houtcome with ⟨l, rfl⟩ | ⟨panic, _, rfl, -⟩
    · exact .inl ⟨_, rfl⟩
    · exact .inr ⟨_, rfl⟩
  · rw [not_exists] at hv
    have houtcome := Dialogue.run_outcome (hp.dialogue v) hc
    rw [printBody_of_ne_stream p hv]
    generalize (p.dialogue v).run s.console = r at houtcome ⊢
    obtain ⟨outcome, _⟩ := r
    rcases houtcome with rfl | ⟨panic, rfl⟩
    · exact .inl ⟨_, rfl⟩
    · exact .inr ⟨_, rfl⟩

/-- What printing a value does: it begins with the header, and the number is used up if the printing
is completed. -/
structure Printed (p : Printer) (s : Surroundings κ)
    (r : Except (Stop IoError) Printing × Printer × Surroundings κ) : Prop where
  console : ∃ events, r.2.2.console = Console.after s.console (.written p.header :: events)
  completed : ∀ printing, r.1 = .ok printing → r.2.1 = { p with outputCount := p.outputCount + 1 }
  stopped : ∀ stop, r.1 = .error stop → r.2.1 = p

lemma printed_print (p : Printer) (v : Value) (s : Surroundings κ) :
    p.Printed s (p.print (some v) s) := by
  rw [print]
  rcases hwrite : Console.write p.header s.console with ⟨_ | _, c⟩
  · exact ⟨⟨[], (congrArg Prod.snd hwrite).symm⟩, fun _ h => (by cases h), fun _ _ => rfl⟩
  · obtain ⟨events, hevents⟩ := p.exists_after_printBody v { s with console := c }
    have hconsole : (p.printBody v { s with console := c }).2.console =
        Console.after s.console (.written p.header :: events) := by
      rw [hevents, Console.after_written, hwrite]
    simp only
    generalize p.printBody v { s with console := c } = r at hconsole ⊢
    rcases r with ⟨_ | _, _⟩
    · exact ⟨⟨events, hconsole⟩, fun _ h => (by cases h), fun _ _ => rfl⟩
    · exact ⟨⟨events, hconsole⟩, fun _ _ => rfl, fun _ h => (by cases h)⟩

lemma print_outcome {p : Printer} (hp : p.Sound) (v : Value) {s : Surroundings κ}
    (hc : Console.NeverFails s.console) :
    (∃ printing, (p.print (some v) s).1 = .ok printing) ∨
      ∃ panic, (p.print (some v) s).1 = .error (.panic panic) := by
  obtain ⟨c, h, hc'⟩ := hc.exists_write_eq p.header
  have houtcome := printBody_outcome hp v (s := { s with console := c }) hc'
  rw [print, h]
  simp only
  generalize p.printBody v { s with console := c } = r at houtcome ⊢
  obtain ⟨outcome, _⟩ := r
  rcases houtcome with ⟨listing, rfl⟩ | ⟨panic, rfl⟩
  · exact .inl ⟨_, rfl⟩
  · exact .inr ⟨_, rfl⟩

end Printer

end LineRepl
