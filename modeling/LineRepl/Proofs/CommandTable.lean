/-
What a table of commands holds after registrations.

* `CommandTable.find?_foldl_register`: the command that was registered last under a name is found.
* `CommandTable.find?_builtin_eq_some_iff`: the built-in commands are found by their names.
* `CommandTable.Sorted`, `CommandTable.sorted_foldl_register`: names ascend, however commands are
  registered.
* `CommandTable.Records`: what a table tells of its registrations.
* `CommandTable.records_foldl_register`: tables tell it of any registrations.
-/
import LineRepl.Command.Builtin
import LineRepl.Proofs.Utf8
import Mathlib.Data.Finset.Card
import Mathlib.Data.List.Nodup

namespace LineRepl.CommandTable

/-! ### Finding -/

lemma find?_cons (c : Command) (commands : List Command) (name : String) :
    (c :: commands).find? (·.info.name == name) =
      if c.info.name = name then some c else commands.find? (·.info.name == name) := by
  rw [List.find?_cons]
  split <;> simp_all

/-- Commands with different names are found by their names. -/
lemma find?_eq_some_iff_of_nodup {commands : List Command}
    (h : (commands.map (·.info.name)).Nodup) {name : String} {c : Command} :
    commands.find? (·.info.name == name) = some c ↔ c ∈ commands ∧ c.info.name = name := by
  have hmem {d : Command} (hd : commands.find? (·.info.name == name) = some d) :
      d ∈ commands ∧ d.info.name = name :=
    ⟨List.mem_of_find?_eq_some hd, by simpa using List.find?_some hd⟩
  refine ⟨hmem, fun ⟨hc, hname⟩ => ?_⟩
  cases hfind : commands.find? (·.info.name == name) with
  | none => exact absurd (beq_iff_eq.mpr hname) (List.find?_eq_none.mp hfind c hc)
  | some d =>
      obtain ⟨hd, hdname⟩ := hmem hfind
      rw [List.inj_on_of_nodup_map h hd hc (hdname.trans hname.symm)]

/-- What is inserted is found under its name, and all else as before. -/
lemma find?_insertSorted (c : Command) (commands : List Command) (name : String) :
    (insertSorted c commands).find? (·.info.name == name) =
      if c.info.name = name then some c else commands.find? (·.info.name == name) := by
  induction commands with
  | nil => exact find?_cons c [] name
  | cons d rest ih =>
      rw [insertSorted]
      split
      · exact find?_cons c (d :: rest) name
      · rw [find?_cons d]
        split
        next heq =>
          rw [find?_cons, heq]
          split_ifs <;> rfl
        next hne =>
          rw [find?_cons, ih]
          split_ifs with hd hc
          · exact absurd (hc.trans hd.symm) hne
          all_goals rfl

/-- Of the commands of a name the one that was registered last is found. -/
lemma find?_register (table : CommandTable) (c : Command) (name : String) :
    (table.register c).find? name = if c.info.name = name then some c else table.find? name :=
  find?_insertSorted c table.commands name

/-- After registrations the last one of a name is found, or else what was there before. -/
lemma find?_foldl_register (table : CommandTable) (commands : List Command) (name : String) :
    (commands.foldl register table).find? name =
      (commands.reverse.find? (·.info.name == name)).or (table.find? name) := by
  induction commands generalizing table with
  | nil => rfl
  | cons c rest ih =>
      rw [List.foldl_cons, ih, find?_register, List.reverse_cons, List.find?_append,
        Option.or_assoc]
      congr 1
      split_ifs with hname <;> simp [hname]

lemma find?_foldl_register_empty (history : List Command) (name : String) :
    (history.foldl register .empty).find? name =
      history.reverse.find? (·.info.name == name) :=
  (find?_foldl_register .empty history name).trans Option.or_none

/-- Nothing is found under a name that no registration had. -/
lemma find?_foldl_register_eq_none_iff {history : List Command} {name : String} :
    (history.foldl register .empty).find? name = none ↔ ∀ c ∈ history, c.info.name ≠ name := by
  simp [find?_foldl_register_empty]

lemma find?_builtin (name : String) :
    builtin.find? name = Builtin.all.reverse.find? (·.info.name == name) :=
  find?_foldl_register_empty Builtin.all name

lemma find?_builtin_eq_none_iff {name : String} :
    builtin.find? name = none ↔ ∀ c ∈ Builtin.all, c.info.name ≠ name :=
  find?_foldl_register_eq_none_iff

/-- The built-in commands are found by their names. -/
lemma find?_builtin_eq_some_iff {name : String} {c : Command} :
    builtin.find? name = some c ↔ c ∈ Builtin.all ∧ c.info.name = name := by
  rw [find?_builtin, find?_eq_some_iff_of_nodup (by decide), List.mem_reverse]

/-! ### Order -/

/-- The names of the commands ascend. -/
def Sorted (table : CommandTable) : Prop :=
  table.commands.Pairwise fun c d => c.info.name < d.info.name

/-- Insertion adds one command alone. -/
lemma mem_of_mem_insertSorted {c d : Command} {commands : List Command}
    (h : d ∈ insertSorted c commands) : d = c ∨ d ∈ commands := by
  induction commands with
  | nil => exact .inl (List.mem_singleton.mp h)
  | cons e rest ih =>
      rw [insertSorted] at h
      split_ifs at h with hlt heq
      · exact List.mem_cons.mp h
      · exact (List.mem_cons.mp h).imp_right (List.mem_cons_of_mem e)
      · rcases List.mem_cons.mp h with rfl | hrest
        · exact .inr List.mem_cons_self
        · exact (ih hrest).imp_right (List.mem_cons_of_mem e)

/-- Insertion keeps the order of the names. -/
lemma pairwise_insertSorted (c : Command) {commands : List Command}
    (h : commands.Pairwise fun c d => c.info.name < d.info.name) :
    (insertSorted c commands).Pairwise fun c d => c.info.name < d.info.name := by
  induction commands with
  | nil => exact List.pairwise_singleton _ c
  | cons e rest ih =>
      obtain ⟨hfirst, hrest⟩ := List.pairwise_cons.mp h
      rw [insertSorted]
      split_ifs with hlt heq
      · refine List.pairwise_cons.mpr ⟨fun d hd => ?_, h⟩
        rcases List.mem_cons.mp hd with rfl | hd
        · exact hlt
        · exact lt_trans hlt (hfirst d hd)
      · exact List.pairwise_cons.mpr ⟨fun d hd => heq ▸ hfirst d hd, hrest⟩
      · have hgt : e.info.name < c.info.name := lt_of_le_of_ne (not_lt.mp hlt) (Ne.symm heq)
        refine List.pairwise_cons.mpr ⟨fun d hd => ?_, ih hrest⟩
        rcases mem_of_mem_insertSorted hd with rfl | hd
        · exact hgt
        · exact hfirst d hd

lemma sorted_empty : empty.Sorted := .nil

/-- A registration keeps the names in order, whether it adds or replaces. -/
lemma Sorted.register {table : CommandTable} (h : table.Sorted) (c : Command) :
    (table.register c).Sorted := pairwise_insertSorted c h

/-- A table stays in order after registrations. -/
lemma sorted_foldl_register {table : CommandTable} (h : table.Sorted) (history : List Command) :
    (history.foldl register table).Sorted := by
  induction history generalizing table with
  | nil => exact h
  | cons c history ih => exact ih (h.register c)

/-! ### Names -/

/-- The names of the commands, in their order. -/
def names (table : CommandTable) : List String := table.infos.map (·.name)

lemma names_eq (table : CommandTable) : table.names = table.commands.map (·.info.name) :=
  List.map_map

namespace Sorted

variable {table : CommandTable}

lemma pairwise_names (h : table.Sorted) : table.names.Pairwise (· < ·) := by
  rw [names_eq]
  exact List.pairwise_map.mpr h

/-- No name is listed twice. -/
lemma nodup_names (h : table.Sorted) : table.names.Nodup := h.pairwise_names.imp ne_of_lt

/-- Each command of the table is found by its name. -/
lemma find?_eq_some_iff (h : table.Sorted) {name : String} {c : Command} :
    table.find? name = some c ↔ c ∈ table.commands ∧ c.info.name = name :=
  find?_eq_some_iff_of_nodup (names_eq table ▸ h.nodup_names)

/-- The names are those under which a command is found. -/
lemma mem_names_iff (h : table.Sorted) {name : String} :
    name ∈ table.names ↔ table.find? name ≠ none := by
  simp only [names_eq, List.mem_map, Option.ne_none_iff_exists', h.find?_eq_some_iff]

/-- The commands are found under their names, in order. -/
lemma map_find?_names (h : table.Sorted) :
    table.names.map table.find? = table.commands.map some := by
  rw [names_eq, List.map_map]
  exact List.map_congr_left fun c hc => h.find?_eq_some_iff.mpr ⟨hc, rfl⟩

end Sorted

/-! ### Registrations -/

/-- The command is the last one of its name. -/
def LastOfName (history : List Command) (c : Command) : Prop :=
  ∃ before after, history = before ++ c :: after ∧ ∀ d ∈ after, d.info.name ≠ c.info.name

/-- What the table tells of the registrations that made it. -/
structure Records (history : List Command) (table : CommandTable) : Prop where
  /-- Under each name the last command that was registered is found, -/
  found : ∀ name c, table.find? name = some c ↔ c.info.name = name ∧ LastOfName history c
  /-- and nothing, if there was none. -/
  missing : ∀ name, table.find? name = none ↔ ∀ c ∈ history, c.info.name ≠ name
  /-- Names ascend by their bytes. -/
  ascending : table.names.Pairwise fun m n => utf8 m < utf8 n
  mem_names : ∀ name, name ∈ table.names ↔ ∃ c ∈ history, c.info.name = name
  /-- The commands are in the order of the names. -/
  commands : table.commands.map some = table.names.map table.find?
  size : table.size = (history.map (·.info.name)).toFinset.card

/-- A search from the end finds the last one of the name. -/
lemma find?_reverse_eq_some_iff {history : List Command} {name : String} {c : Command} :
    history.reverse.find? (·.info.name == name) = some c ↔
      c.info.name = name ∧ LastOfName history c := by
  rw [List.find?_eq_some_iff_append, beq_iff_eq]
  refine and_congr_right fun hname => ⟨?_, ?_⟩
  · rintro ⟨after, before, hhistory, hafter⟩
    refine ⟨before.reverse, after.reverse, ?_, fun d hd => ?_⟩
    · rw [← List.reverse_reverse history, hhistory]
      simp
    · simpa [hname] using hafter d (List.mem_reverse.mp hd)
  · rintro ⟨before, after, rfl, hafter⟩
    refine ⟨after.reverse, before.reverse, by simp, fun d hd => ?_⟩
    simpa [hname] using hafter d (List.mem_reverse.mp hd)

/-- The table that registrations make of the empty one. -/
lemma records_foldl_register (history : List Command) :
    Records history (history.foldl register .empty) := by
  have hsorted := sorted_foldl_register sorted_empty history
  have hmem (name : String) : name ∈ (history.foldl register .empty).names ↔
      ∃ c ∈ history, c.info.name = name := by
    rw [hsorted.mem_names_iff, Ne, find?_foldl_register_eq_none_iff]
    simp only [not_forall, not_not, exists_prop]
  refine ⟨fun name c => ?_, fun name => find?_foldl_register_eq_none_iff, ?_, hmem,
    hsorted.map_find?_names.symm, ?_⟩
  · rw [find?_foldl_register_empty, find?_reverse_eq_some_iff]
  · exact hsorted.pairwise_names.imp utf8_lt
  · have hnames : (history.foldl register .empty).names.toFinset =
        (history.map (·.info.name)).toFinset := by
      ext name
      rw [List.mem_toFinset, List.mem_toFinset, hmem, List.mem_map]
    rw [← hnames, List.toFinset_card_of_nodup hsorted.nodup_names, names_eq, List.length_map, size]

/-- The built-in commands are registered before all others. -/
lemma records_foldl_register_builtin (history : List Command) :
    Records (Builtin.all ++ history) (history.foldl register .builtin) := by
  have hrecords := records_foldl_register (Builtin.all ++ history)
  rwa [List.foldl_append] at hrecords

end LineRepl.CommandTable
