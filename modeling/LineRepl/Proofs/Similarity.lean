/-
What a session does depends on its console only through the console's answers.

* `Console.Similar`: a relation between consoles under which they give the same answers and stay
  related.
* `Session.Twin`: sessions that differ in nothing but the engine and the console.
* `Session.perform_similar`, `Session.step_similar`, `Session.run_similar`: twins at similar
  consoles come to the same outcome and stay twins.
-/
import LineRepl.Proofs.Likeness

namespace LineRepl

variable {κ₁ κ₂ : Type}

/-- The session with another engine, at another console. -/
def Session.become (s : Session κ₁) (e : Engine) (c : κ₂) : Session κ₂ :=
  { s with engine := e, console := c }

/-- The sessions differ in nothing but the engine and the console, which are related. -/
def Session.Twin (E : Engine → Engine → Prop) (R : κ₁ → κ₂ → Prop) (s₁ : Session κ₁)
    (s₂ : Session κ₂) : Prop :=
  ∃ e c, s₂ = s₁.become e c ∧ E s₁.engine e ∧ R s₁.console c

variable [Console κ₁] [Console κ₂]

/-- Related consoles give the same answers and stay related. -/
structure Console.Similar (R : κ₁ → κ₂ → Prop) : Prop where
  readLine : ∀ prompt {c₁ c₂}, R c₁ c₂ →
    Agree R (Console.readLine prompt c₁) (Console.readLine prompt c₂)
  write : ∀ text {c₁ c₂}, R c₁ c₂ →
    Agree R (Console.write text c₁) (Console.write text c₂)

lemma Console.similar_eq : Console.Similar (Eq : κ₁ → κ₁ → Prop) where
  readLine _ _ _ h := h ▸ ⟨_, _, _, rfl, rfl, rfl⟩
  write _ _ _ h := h ▸ ⟨_, _, _, rfl, rfl, rfl⟩

/-- Sessions that are alike if they are twins. No console is ever spent. -/
def Likeness.twin (E : Engine → Engine → Prop) {R : κ₁ → κ₂ → Prop} (h : Console.Similar R) :
    Likeness κ₁ κ₂ where
  Spent _ := False
  Consoles := R
  Engines := E
  Counts := Eq
  Logs := Eq
  spent_of_le _ := id
  readLine prompt _ _ hR := .inr (h.readLine prompt hR)
  write text _ _ hR := .inr (h.write text hR)
  counts_succ := congrArg _
  logs_push := push_eq

namespace Session

variable {E : Engine → Engine → Prop} {R : κ₁ → κ₂ → Prop} {s₁ : Session κ₁} {s₂ : Session κ₂}

lemma like_twin_iff (h : Console.Similar R) : Like (.twin E h) s₁ s₂ ↔ Twin E R s₁ s₂ := by
  constructor
  · rintro ⟨e, c, count, log, rfl, hE, hR, rfl, rfl⟩
    exact ⟨e, c, rfl, hE, hR⟩
  · rintro ⟨e, c, rfl, hE, hR⟩
    exact ⟨e, c, _, _, rfl, hE, hR, rfl, rfl⟩

lemma agree_like_twin_iff (h : Console.Similar R) {α : Type*} {r₁ : α × Session κ₁}
    {r₂ : α × Session κ₂} : Agree (Like (.twin E h)) r₁ r₂ ↔ Agree (Twin E R) r₁ r₂ := by
  simp only [Agree, like_twin_iff]

lemma alike_twin_iff (h : Console.Similar R) {r₁ : Except Failure Unit × Session κ₁}
    {r₂ : Except Failure Unit × Session κ₂} :
    Alike (.twin E h) r₁ r₂ ↔ Agree (Twin E R) r₁ r₂ :=
  (or_iff_right id).trans (agree_like_twin_iff h)

/-- Twins with the same engine handle a line alike. -/
lemma step_similar (h : Console.Similar R) (line : String) (hs : Twin Eq R s₁ s₂) :
    Agree (Twin Eq R) (step line s₁) (step line s₂) :=
  (alike_twin_iff h).mp (step_like rfl line ((like_twin_iff h).mpr hs))

/-- Twins with the same engine run alike. -/
lemma run_similar (h : Console.Similar R) (hs : Twin Eq R s₁ s₂) :
    Agree (Twin Eq R) s₁.run s₂.run := by
  rw [← runAlong_still, ← runAlong_still]
  exact (agree_like_twin_iff h).mp
    (runAlong_like rfl rfl (fun _ => id) .still ((like_twin_iff h).mpr hs))

end Session

end LineRepl
