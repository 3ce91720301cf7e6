/-
What the built-in commands may ask for.

* `Prompt.WellRead`: the fragments of the template are those of the text that it was read from.
* `Script.Plain`: scripts that bind no name and handle no further line, and the failures they can
  end in.
* `Builtin.Refused`: the failures of the built-in commands.
* `Script.Closed`, `Builtin.closed_script`: properties that the built-in commands keep, and that
  their scripts have.
* `Builtin.plain_script`, `Builtin.exists_script_of_refused`: all built-in commands are plain and
  end in these failures only, and in these they end at once.
-/
import LineRepl.Proofs.CommandLine
import LineRepl.Proofs.CommandTable

namespace LineRepl

/-! ### Prompts and failures -/

/-- The fragments are those that the source spells. -/
def Prompt.WellRead (p : Prompt) : Prop := compile p.source = .ok p

/-- The prompt of a new session is read from its source. -/
lemma Prompt.wellRead_default : Prompt.default.WellRead := by
  have hsource : Prompt.default.source.toList = ['$', 'l', ':', '$', 'i', '>', ' '] := by
    decide
  rw [WellRead, compile, hsource]
  rfl

/-- So is every prompt that is made of a text. -/
lemma Prompt.wellRead_of_compile {text : String} {p : Prompt} (h : compile text = .ok p) :
    p.WellRead := by
  have hsource : p.source = text := by
    rw [compile] at h
    cases hpieces : Piece.ofChars 0 text.toList with
    | error e => simp [hpieces, Except.map] at h
    | ok pieces =>
        simp only [hpieces, Except.map, Except.ok.injEq] at h
        rw [← h]
  rw [WellRead, hsource]
  exact h

/-- The failure is not an engine's own one, told as one of the line. -/
def Failure.Sorted : Failure → Prop
  | .evaluation (.internal _) => False
  | _ => True

/-! ### Scripts -/

/-- The script binds no name and does not handle its argument as a line of its own. It may end in
the failures `F`. -/
def Script.Plain (engines : EngineTable) (F : Failure → Prop) : Script → Prop
  | .done => True
  | .fail f => F f
  | .view next => ∀ view, (next view).Plain engines F
  | .write _ next => next.Plain engines F
  | .readLine _ next => ∀ line, (next line).Plain engines F
  | .list _ next => next.Plain engines F
  | .bind .. => False
  | .setPrompt _ next => next.Plain engines F
  | .setLimit _ next => next.Plain engines F
  | .toggleNumbers next => ∀ on, (next on).Plain engines F
  | .swapEngine id next =>
    (engines.find? id = none → F (.unknownEngine id)) ∧ next.Plain engines F
  | .quit next => next.Plain engines F
  | .runArgument _ => False

/-- Lines are said one after another, so that what every writing keeps holds of all of them. -/
lemma Script.of_sayAll {P : Script → Prop} (hwrite : ∀ text next, P next → P (.write text next))
    (lines : List String) {next : Script} (h : P next) : P (sayAll lines next) := by
  induction lines with
  | nil => exact h
  | cons line rest ih => exact hwrite _ _ ih

/-- The property is kept by all that the scripts of the built-in commands are made of. -/
structure Script.Closed (P : Script → Prop) : Prop where
  done : P .done
  fail {f : Failure} : f.Sorted → P (.fail f)
  view {next : View → Script} : (∀ view, P (next view)) → P (.view next)
  write {text : String} {next : Script} : P next → P (.write text next)
  list {lines : List String} {next : Script} : P next → P (.list lines next)
  setPrompt {p : Prompt} : p.WellRead → P (.setPrompt p .done)
  setLimit {limit : ℕ} : P (.setLimit limit .done)
  toggleNumbers {next : Bool → Script} : (∀ on, P (next on)) → P (.toggleNumbers next)
  swapEngine {id : String} : P (.swapEngine id .done)
  quit : P (.quit .done)

namespace Builtin

/-- Nothing but blanks was given. -/
def Blank (argument : Option String) : Prop := ∀ text ∈ argument, Text.trim text = ""

/-- The failure of a built-in command that is given less than it needs, or something it has no use
for. -/
inductive Refused (engines : EngineTable) : CommandLine → Failure → Prop
  | template {text : String} {e : TemplateError} :
      Prompt.compile text = .error e → Refused engines ⟨"prompt", some text⟩ (.invalidTemplate e)
  | noEngine {argument : Option String} :
      Blank argument → Refused engines ⟨"setEngine", argument⟩
        (.ofMessage "missing argument, usage: setEngine <id>")
  | unknownEngine {text : String} :
      Text.trim text ≠ "" → engines.find? (Text.trim text) = none →
        Refused engines ⟨"setEngine", some text⟩ (.unknownEngine (Text.trim text))
  | noName {argument : Option String} :
      Blank argument → Refused engines ⟨"describe", argument⟩
        (.ofMessage "missing argument, usage: describe <name>")
  | malformedLimit {text : String} {fault : Count.Fault} :
      Count.ofText (Text.trim text) = .error fault → Refused engines ⟨"stream.limit", some text⟩
        (.unexpected ⟨"invalid stream.limit '" ++ text ++ "'", [fault.message]⟩)
  | zeroLimit {text : String} :
      Count.ofText (Text.trim text) = .ok 0 → Refused engines ⟨"stream.limit", some text⟩
        (.ofMessage "stream.limit must be positive")

variable {engines : EngineTable}

/-- No refusal is an error of the console. -/
lemma Refused.ne_io {named : CommandLine} {f : Failure} (h : Refused engines named f)
    (e : IoError) : f ≠ .io e := by
  cases h <;> exact nofun

lemma withArgument_some (usage text : String) (next : String → Script) :
    withArgument usage (some text) next =
      if Text.trim text = "" then .fail (.ofMessage ("missing argument, usage: " ++ usage))
      else next (Text.trim text) := rfl

/-- Without an argument the usage is told. -/
lemma withArgument_of_blank {usage : String} {argument : Option String} (h : Blank argument)
    (next : String → Script) :
    withArgument usage argument next =
      .fail (.ofMessage ("missing argument, usage: " ++ usage)) := by
  cases argument with
  | none => rfl
  | some text => rw [withArgument_some, if_pos (h text rfl)]

/-- There is an argument that is more than blanks, or none. -/
lemma blank_or_exists (argument : Option String) :
    Blank argument ∨ ∃ text, argument = some text ∧ Text.trim text ≠ "" := by
  cases argument with
  | none => exact .inl nofun
  | some text =>
      by_cases htext : Text.trim text = ""
      · exact .inl (by rintro _ ⟨⟩; exact htext)
      · exact .inr ⟨text, rfl, htext⟩

/-- A command that needs an argument fails, or goes on with a text that is not blank. -/
lemma of_withArgument {P : Script → Prop} {usage : String} {argument : Option String}
    {next : String → Script}
    (hblank : Blank argument → P (.fail (.ofMessage ("missing argument, usage: " ++ usage))))
    (hnext : ∀ text, argument = some text → Text.trim text ≠ "" → P (next (Text.trim text))) :
    P (withArgument usage argument next) := by
  rcases blank_or_exists argument with hargument | ⟨text, rfl, htext⟩
  · rw [withArgument_of_blank hargument]
    exact hblank hargument
  · rw [withArgument_some, if_neg htext]
    exact hnext text rfl htext

/-- A prompt is refused only if its template is misspelled. -/
lemma plain_prompt (argument : Option String) :
    (prompt.script argument).Plain engines (Refused engines ⟨"prompt", argument⟩) := by
  cases argument with
  | none => exact fun _ => trivial
  | some text =>
      simp only [prompt]
      split
      next p htext => exact trivial
      next e htext => exact Refused.template htext

/-- A change of engines is refused without a name and for an unknown one. -/
lemma plain_setEngine (argument : Option String) :
    (setEngine.script argument).Plain engines (Refused engines ⟨"setEngine", argument⟩) :=
  of_withArgument (P := Script.Plain engines _) .noEngine fun _ hargument htext =>
    hargument ▸ ⟨fun hfind => .unknownEngine htext hfind, trivial⟩

/-- A description is refused without a name. -/
lemma plain_describe (argument : Option String) :
    (describe.script argument).Plain engines (Refused engines ⟨"describe", argument⟩) :=
  of_withArgument (P := Script.Plain engines _) .noName fun _ _ _ _ =>
    Script.of_sayAll (P := Script.Plain engines _) (fun _ _ => id) _ trivial

/-- A limit is refused unless it is a positive count. -/
lemma plain_streamLimit (argument : Option String) :
    (streamLimit.script argument).Plain engines (Refused engines ⟨"stream.limit", argument⟩) := by
  cases argument with
  | none => exact fun _ => trivial
  | some text =>
      simp only [streamLimit]
      split
      next fault htext => exact Refused.malformedLimit htext
      next htext => exact Refused.zeroLimit htext
      next limit _ htext => exact trivial

/-- The built-in commands do nothing but what is plain, and fail only as they refuse. -/
lemma plain_script (engines : EngineTable) {c : Command} (h : c ∈ all) (argument : Option String) :
    (c.script argument).Plain engines (Refused engines ⟨c.info.name, argument⟩) := by
  simp only [all, List.mem_cons, List.not_mem_nil, or_false] at h
  rcases h with rfl | rfl | rfl | rfl | rfl | rfl | rfl | rfl | rfl | rfl
  · exact trivial
  · intro view
    simp only
    split <;> exact trivial
  · exact plain_prompt argument
  · exact fun _ => Script.of_sayAll (P := Script.Plain engines _) (fun _ _ => id) _ trivial
  · exact plain_setEngine argument
  · exact plain_describe argument
  · exact plain_streamLimit argument
  · exact fun _ => trivial
  · exact fun _ => trivial
  · intro view
    simp only
    split <;> exact trivial

/-- A property that the built-in commands keep holds of their scripts. -/
lemma closed_script {P : Script → Prop} (hP : Script.Closed P) {c : Command} (h : c ∈ all)
    (argument : Option String) : P (c.script argument) := by
  have hsay (lines : List String) : P (.sayAll lines .done) :=
    Script.of_sayAll (fun _ _ => hP.write) lines hP.done
  have hrefusal (usage : String) : P (.fail (.ofMessage ("missing argument, usage: " ++ usage))) :=
    hP.fail trivial
  simp only [all, List.mem_cons, List.not_mem_nil, or_false] at h
  rcases h with rfl | rfl | rfl | rfl | rfl | rfl | rfl | rfl | rfl | rfl
  · exact hP.quit
  · refine hP.view fun view => ?_
    split
    · exact hsay [_]
    · exact hsay [_]
  · cases argument with
    | none => exact hP.view fun _ => hsay [_]
    | some text =>
        simp only [prompt]
        split
        next p htext => exact hP.setPrompt (Prompt.wellRead_of_compile htext)
        next => exact hP.fail trivial
  · exact hP.view fun _ => hsay _
  · exact of_withArgument (fun _ => hrefusal _) fun _ _ _ => hP.swapEngine
  · exact of_withArgument (fun _ => hrefusal _) fun _ _ _ => hP.view fun _ => hsay _
  · cases argument with
    | none => exact hP.view fun _ => hsay [_]
    | some text =>
        simp only [streamLimit]
        split
        · exact hP.fail trivial
        · exact hP.fail trivial
        · exact hP.setLimit
  · exact hP.toggleNumbers fun _ => hsay [_]
  · exact hP.view fun _ => hP.list hP.done
  · refine hP.view fun view => ?_
    split
    · exact hsay [_]
    · exact hP.list hP.done

/-- A command that refuses does nothing else. -/
lemma exists_script_of_refused {named : CommandLine} {f : Failure} (h : Refused engines named f) :
    ∃ c, CommandTable.builtin.find? named.name = some c ∧
      (c.script named.argument = .fail f ∨
        ∃ id next, c.script named.argument = .swapEngine id next ∧ engines.find? id = none ∧
          f = .unknownEngine id) := by
  have hfind (c : Command) (hc : c ∈ all) : CommandTable.builtin.find? c.info.name = some c :=
    CommandTable.find?_builtin_eq_some_iff.mpr ⟨hc, rfl⟩
  cases h with
  | template htext =>
      exact ⟨prompt, hfind prompt (by simp [all]), .inl (by simp only [prompt, htext])⟩
  | noEngine hblank =>
      exact ⟨setEngine, hfind setEngine (by simp [all]), .inl (withArgument_of_blank hblank _)⟩
  | unknownEngine htext hengine =>
      refine ⟨setEngine, hfind setEngine (by simp [all]), .inr ⟨_, .done, ?_, hengine, rfl⟩⟩
      simp only [setEngine, withArgument_some, if_neg htext]
  | noName hblank =>
      exact ⟨describe, hfind describe (by simp [all]), .inl (withArgument_of_blank hblank _)⟩
  | malformedLimit htext | zeroLimit htext =>
      exact ⟨streamLimit, hfind streamLimit (by simp [all]),
        .inl (by simp only [streamLimit, htext])⟩

end Builtin

end LineRepl
