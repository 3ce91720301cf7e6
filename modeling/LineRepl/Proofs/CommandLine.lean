/-
Splitting the lines that name a command.

* `CommandLine.parse?_eq_none_iff`: the lines that name no command.
* `CommandLine.text`: what follows the marker, put together again.
* `CommandLine.text_ofChars`, `CommandLine.ofChars_text`: splitting undoes this, and this undoes
  splitting.
* `CommandLine.parse?_splits`: nothing of a line is lost as it is split.
-/
import LineRepl.CommandLine
import Mathlib.Data.List.TakeWhile
import Mathlib.Tactic.Common

namespace LineRepl.CommandLine

/-! ### Markers -/

/-- The marker is dropped where it is in front. -/
lemma dropMarker?_append (marker rest : List Char) :
    dropMarker? marker (marker ++ rest) = some rest := by
  induction marker with
  | nil => rfl
  | cons m marker ih => rw [List.cons_append, dropMarker?, if_pos rfl, ih]

/-- It is missed where it is not. -/
lemma dropMarker?_eq_none_iff {marker cs : List Char} :
    dropMarker? marker cs = none ↔ ¬ marker <+: cs := by
  fun_induction dropMarker? marker cs with
  | case1 cs => simp
  | case2 => simp
  | case3 marker c cs ih => simp [ih]
  | case4 m marker c cs hne => simp [hne]

/-- A line names no command if it does not start with the marker. -/
lemma parse?_eq_none_iff {marker line : String} :
    parse? marker line = none ↔ ¬ marker.toList <+: line.toList := by
  rw [parse?, Option.map_eq_none_iff, dropMarker?_eq_none_iff]

/-- What follows the marker is split at its first space. -/
lemma parse?_marker_append (marker rest : String) :
    parse? marker (marker ++ rest) = some (ofChars rest.toList) := by
  rw [parse?, String.toList_append, dropMarker?_append, Option.map_some]

/-! ### Names and arguments -/

/-- The name ends at the first space, and the argument is all that comes behind. -/
lemma ofChars_append {name : List Char} (h : ' ' ∉ name) (argument : List Char) :
    ofChars (name ++ ' ' :: argument) = ⟨String.ofList name, some (String.ofList argument)⟩ := by
  have hne : ∀ c ∈ name, (c != ' ') = true := fun c hc => bne_iff_ne.mpr fun heq => h (heq ▸ hc)
  rw [ofChars, List.takeWhile_append_of_pos hne, List.dropWhile_append_of_pos hne]
  simp

/-- Without a space there is no argument. -/
lemma ofChars_of_notMem {name : List Char} (h : ' ' ∉ name) :
    ofChars name = ⟨String.ofList name, none⟩ := by
  have hne : ∀ c ∈ name, (c != ' ') = true := fun c hc => bne_iff_ne.mpr fun heq => h (heq ▸ hc)
  rw [ofChars, List.takeWhile_eq_self_iff.mpr hne, List.dropWhile_eq_nil_iff.mpr hne]

/-- There is no space in a name. -/
lemma space_notMem_name_ofChars (cs : List Char) : ' ' ∉ (ofChars cs).name.toList := by
  rw [ofChars, String.toList_ofList]
  intro hmem
  have hne := List.mem_takeWhile_imp hmem
  exact bne_iff_ne.mp hne rfl

/-- What follows the marker: the name and, if there is an argument, a space and the argument. -/
def text (c : CommandLine) : String :=
  match c.argument with
  | none => c.name
  | some argument => c.name ++ " " ++ argument

lemma toList_text_some (name argument : String) :
    (text ⟨name, some argument⟩).toList = name.toList ++ ' ' :: argument.toList := by
  have hspace : " ".toList = [' '] := rfl
  simp only [text, String.toList_append, hspace, List.append_assoc, List.singleton_append]

/-- What is split can be put together again. -/
lemma text_ofChars (cs : List Char) : (ofChars cs).text = String.ofList cs := by
  rw [← String.toList_inj, String.toList_ofList]
  have hsplit := List.takeWhile_append_dropWhile (p := (· != ' ')) (l := cs)
  cases hrest : cs.dropWhile (· != ' ') with
  | nil =>
      rw [hrest, List.append_nil] at hsplit
      simp only [ofChars, hrest, text, String.toList_ofList, hsplit]
  | cons space argument =>
      have hspace : space = ' ' := by
        have hhead := List.head?_dropWhile_not (· != ' ') cs
        rw [hrest] at hhead
        simpa using hhead
      subst hspace
      rw [hrest] at hsplit
      simp only [ofChars, hrest, toList_text_some, String.toList_ofList, hsplit]

/-- What is put together can be split again, if there is no space in the name. -/
lemma ofChars_text {c : CommandLine} (h : ' ' ∉ c.name.toList) : ofChars c.text.toList = c := by
  obtain ⟨name, _ | argument⟩ := c
  · rw [text, ofChars_of_notMem h, String.ofList_toList]
  · rw [toList_text_some, ofChars_append h, String.ofList_toList, String.ofList_toList]

/-! ### Lines -/

/-- A name without a space, and an argument or none, behind the marker. -/
lemma parse?_append_text {c : CommandLine} (h : ' ' ∉ c.name.toList) (marker : String) :
    parse? marker (marker ++ c.text) = some c := by
  rw [parse?_marker_append, ofChars_text h]

/-- A name without a space and an argument, behind the marker. -/
lemma parse?_append {name : String} (h : ' ' ∉ name.toList) (marker argument : String) :
    parse? marker (marker ++ (name ++ " " ++ argument)) = some ⟨name, some argument⟩ :=
  parse?_append_text (c := ⟨name, some argument⟩) h marker

/-- A line is split into these two parts if it is the marker and both behind it. -/
lemma parse?_eq_some_iff {marker line : String} {c : CommandLine} :
    parse? marker line = some c ↔ ' ' ∉ c.name.toList ∧ line = marker ++ c.text := by
  constructor
  · intro h
    obtain ⟨rest, hrest, rfl⟩ := Option.map_eq_some_iff.mp h
    refine ⟨space_notMem_name_ofChars rest, ?_⟩
    rw [text_ofChars, ← String.toList_inj, String.toList_append, String.toList_ofList]
    exact eq_append_of_dropMarker? hrest
  · rintro ⟨hname, rfl⟩
    exact parse?_append_text hname marker

/-- **Command lines split without loss.** A line names no command if and only if it does not start
with the marker. It is split into a name without a space, and an argument or none, if and only if
it is the marker with these behind it. Any such name and any argument are got back. -/
theorem parse?_splits (marker : String) :
    (∀ line, parse? marker line = none ↔ ¬ marker.toList <+: line.toList) ∧
    (∀ line c, parse? marker line = some c ↔
      ' ' ∉ c.name.toList ∧ line = marker ++ c.text) ∧
    ∀ name : String, ' ' ∉ name.toList →
      parse? marker (marker ++ name) = some ⟨name, none⟩ ∧
        ∀ argument, parse? marker (marker ++ name ++ " " ++ argument) =
          some ⟨name, some argument⟩ := by
  refine ⟨fun line => parse?_eq_none_iff, fun line c => parse?_eq_some_iff, fun name hname =>
    ⟨parse?_append_text (c := ⟨name, none⟩) hname marker, fun argument => ?_⟩⟩
  have hassoc : marker ++ name ++ " " ++ argument = marker ++ (name ++ " " ++ argument) := by
    simp only [String.append_assoc]
  rw [hassoc]
  exact parse?_append hname marker argument

/-- A marker with a space in it stands twice in the line, and the argument is empty or begins with
a space. -/
theorem parse?_splits_repeated_marker :
    parse? ": " ": : " = some ⟨":", some ""⟩ ∧ parse? ": " ": :" = some ⟨":", none⟩ ∧
      parse? ": " ":  : " = some ⟨"", some ": "⟩ := by
  obtain ⟨-, -, hback⟩ := parse?_splits ": "
  have hcolon := hback ":" (by decide)
  exact ⟨hcolon.2 "", hcolon.1, (hback "" (by decide)).2 ": "⟩

end LineRepl.CommandLine
