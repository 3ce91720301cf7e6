/-
How a run goes from line to line, also with engines that keep something between lines.

* `Course`: what the active engine has become once a line was handled.
* `Session.runAlong`: the run of a session along a course. Along the course on which engines stay as
  they are it is the run (`Session.runAlong_still`).
* `Session.remaining_goOn_lt`: each line uses up input.
* `Session.Reads`: the loop has read and handled lines, one after another, and is back at its top.
* `Session.loopAlong_of_reads`: what the loop comes to is what it comes to from there.
-/
import LineRepl.Proofs.Equations

namespace LineRepl

/-- What the active engine has become once a line was handled: by the line, the workspace that it
was handled in and the engine that was active after it. An engine that keeps something between lines
is another one after each line. -/
abbrev Course := String → Workspace → Engine → Engine

/-- Engines stay as they are. -/
def Course.still : Course := fun _ _ engine => engine

namespace Session

variable {κ : Type}

/-- The session as it goes on after the line, which was handled in the workspace. -/
def goOn (course : Course) (line : String) (w : Workspace) (s : Session κ) : Session κ :=
  { s with engine := course line w s.engine }

lemma goOn_still (line : String) (w : Workspace) (s : Session κ) : s.goOn .still line w = s := rfl

/-- What a run comes to, by what its loop came to: a session that was not left in an error is
stopped. -/
def concluded : Except Failure Unit × Session κ → Except Failure Unit × Session κ
  | (.error f, s) => (.error f, s)
  | (.ok (), s) => (.ok (), s.stop.note .debug s.stop.closing)

variable [Console κ]

/-- A line that is read and handled uses up input. -/
lemma remaining_goOn_lt (course : Course) {s s' : Session κ} {line : String} {c : κ}
    {outcome : Except Failure Unit}
    (hread : Console.readLine s.renderPrompt s.console = (.ok (some line), c))
    (hstep : step line { s with console := c } = (outcome, s')) :
    Console.remaining (s'.goOn course line s.workspace).console <
      Console.remaining s.console := by
  have hlt := Console.readLine_lt s.renderPrompt s.console line (by rw [hread])
  have hle := remaining_step_le line { s with console := c }
  rw [hread] at hlt
  rw [hstep] at hle
  exact Nat.lt_of_le_of_lt hle hlt

/-- Reads and handles lines while the session is running, along the course. -/
def loopAlong (course : Course) (s : Session κ) : Except Failure Unit × Session κ :=
  if s.running then
    match _read : Console.readLine s.renderPrompt s.console with
    | (.error e, console) => (.error (.io e), { s with console })
    | (.ok none, console) => (.ok (), note { s with console } .debug "end of input")
    | (.ok (some line), console) =>
      match _handled : step line { s with console } with
      | (.error f, s) => (.error f, s)
      | (.ok (), s') => loopAlong course (s'.goOn course line s.workspace)
  else (.ok (), s)
  termination_by Console.remaining s.console
  decreasing_by exact remaining_goOn_lt course _read _handled

/-- Runs the session along the course. -/
def runAlong (course : Course) (s : Session κ) : Except Failure Unit × Session κ :=
  concluded (s.started.loopAlong course)

/-- A run is concluded by what its loop came to. -/
lemma run_eq_concluded (s : Session κ) : s.run = concluded s.started.loop := run_eq s

variable {course : Course} {s s' : Session κ}

/-- A loop that is not running is left at once. -/
lemma loopAlong_of_not_running (course : Course) (h : s.running = false) :
    s.loopAlong course = (.ok (), s) := by
  rw [loopAlong, if_neg (by simp [h])]

/-- A loop that is running reads a line, handles it and goes on. -/
lemma loopAlong_of_running (course : Course) (h : s.running = true) :
    s.loopAlong course =
      match Console.readLine s.renderPrompt s.console with
      | (.error e, console) => (.error (.io e), { s with console })
      | (.ok none, console) => (.ok (), note { s with console } .debug "end of input")
      | (.ok (some line), console) =>
        match step line { s with console } with
        | (.error f, s) => (.error f, s)
        | (.ok (), s') => loopAlong course (s'.goOn course line s.workspace) := by
  rw [loopAlong, if_pos h]
  split
  · simp_all
  · simp_all
  · split <;> simp_all

/-- Where engines stay as they are, the loop is the loop of the session. -/
lemma loopAlong_still (s : Session κ) : s.loopAlong .still = s.loop := by
  fun_induction loop s with
  | case1 s hrunning e c hread =>
      rw [loopAlong_of_running _ hrunning, hread]
  | case2 s hrunning c hread =>
      rw [loopAlong_of_running _ hrunning, hread]
  | case3 s hrunning line c hread f s' hstep =>
      rw [loopAlong_of_running _ hrunning, hread]
      simp only [hstep]
  | case4 s hrunning line c hread s' hstep ih =>
      rw [loopAlong_of_running _ hrunning, hread]
      simp only [hstep, goOn_still]
      exact ih
  | case5 s hrunning =>
      exact loopAlong_of_not_running _ (by simpa using hrunning)

/-- A run is one along the course that changes nothing. -/
lemma runAlong_still (s : Session κ) : s.runAlong .still = s.run := by
  rw [runAlong, loopAlong_still, run_eq_concluded]

/-! ### Lines that were read -/

/-- The loop has read a line at the top of each of the sessions, in order, has handled it, and is
back at its top. -/
inductive Reads (course : Course) : Session κ → List (Session κ) → Session κ → Prop
  | nil (s : Session κ) : Reads course s [] s
  | cons {s s' s'' : Session κ} {tops : List (Session κ)} {line : String} {c : κ} :
      s.running = true → Console.readLine s.renderPrompt s.console = (.ok (some line), c) →
      step line { s with console := c } = (.ok (), s') →
      Reads course (s'.goOn course line s.workspace) tops s'' → Reads course s (s :: tops) s''

/-- What the loop comes to is what it comes to from where it is back at its top. -/
lemma loopAlong_of_reads {tops : List (Session κ)} (h : Reads course s tops s') :
    s.loopAlong course = s'.loopAlong course := by
  induction h with
  | nil s => rfl
  | cons hrunning hread hstep _ ih =>
      rw [loopAlong_of_running course hrunning, hread]
      simp only [hstep]
      exact ih

end Session

end LineRepl
