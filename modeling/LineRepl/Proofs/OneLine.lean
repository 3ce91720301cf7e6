/-
Texts without line feeds.

* `OneLine`: no line feed is in the text.
* `oneLine_naturalText`, `oneLine_toDebugText`: numbers are written without one.
* `oneLine_quoted`: nor is there one between quotes, whatever text is quoted.
* `oneLine_of_mem_words`: words have none, whatever line they are words of.
* `OneLine.trim`, `OneLine.of_parse?`: what is cut out of a line without one has none.
-/
import LineRepl.Proofs.Binary64.Reading
import LineRepl.Proofs.CommandLine
import LineRepl.Proofs.Words
import LineRepl.Text.Quoted

namespace LineRepl

/-- There is no line feed in the text. -/
def OneLine (text : String) : Prop := '\n' ∉ text.toList

instance (text : String) : Decidable (OneLine text) := inferInstanceAs (Decidable (_ ∉ _))

/-! ### Parts -/

section

variable {text text' : String} {cs : List Char}

/-- Texts of one line make one line. -/
lemma OneLine.append (h : OneLine text) (h' : OneLine text') : OneLine (text ++ text') := by
  rw [OneLine, String.toList_append, List.mem_append]
  exact not_or.mpr ⟨h, h'⟩

/-- A text is one line if its characters are. -/
lemma oneLine_ofList : OneLine (String.ofList cs) ↔ '\n' ∉ cs := by
  rw [OneLine, String.toList_ofList]

/-- What is put together of characters of the text is one line if the text is. -/
lemma OneLine.of_subset (h : OneLine text) (hcs : ∀ c ∈ cs, c ∈ text.toList) :
    OneLine (String.ofList cs) :=
  oneLine_ofList.mpr fun hmem => h (hcs _ hmem)

lemma oneLine_toString {c : Char} (hc : c ≠ '\n') : OneLine c.toString := by
  rw [OneLine, Char.toString_eq_singleton, String.toList_singleton, List.mem_singleton]
  exact hc.symm

/-- Characters of a kind that the line feed is not of make one line. -/
lemma oneLine_of_forall {P : Char → Bool} (hP : P '\n' = false)
    (h : ∀ c ∈ text.toList, P c = true) : OneLine text :=
  fun hmem => absurd (h _ hmem) (by rw [hP]; exact Bool.false_ne_true)

end

/-! ### Numbers -/

lemma newline_notMem_decimalDigits (n : ℕ) : '\n' ∉ decimalDigits n :=
  fun hmem => absurd (isDigit_of_mem_decimalDigits hmem) (by decide)

lemma oneLine_naturalText (n : ℕ) : OneLine (naturalText n) :=
  oneLine_of_forall (P := Char.isDigit) rfl fun _ => Binary64.isDigit_of_mem_naturalText

lemma oneLine_integerText (n : ℤ) : OneLine (integerText n) := by
  rw [integerText]
  split
  · exact .append (by decide) (oneLine_naturalText _)
  · exact oneLine_naturalText _

lemma newline_notMem_significant (d : Decimal) : '\n' ∉ d.significant.1 := by
  intro hmem
  have hdrop := (List.dropWhile_suffix _).subset (List.mem_reverse.mp hmem)
  exact newline_notMem_decimalDigits d.digits (List.mem_reverse.mp hdrop)

/-- A decimal is written in one line. -/
lemma oneLine_positional {whole : String} (hwhole : OneLine whole) (d : Decimal) :
    OneLine (d.positional whole) := by
  have hdigits := newline_notMem_significant d
  have hzeros (n : ℕ) : '\n' ∉ List.replicate n '0' :=
    fun hmem => absurd (List.eq_of_mem_replicate hmem) (by decide)
  rw [Decimal.positional]
  simp only
  split_ifs
  · exact .append (.append (by decide) (oneLine_ofList.mpr (hzeros _))) (oneLine_ofList.mpr hdigits)
  · refine .append (oneLine_ofList.mpr fun hmem => ?_) hwhole
    exact (List.mem_append.mp hmem).elim hdigits (hzeros _)
  · refine .append (.append (oneLine_ofList.mpr fun hmem => ?_) (by decide))
      (oneLine_ofList.mpr fun hmem => ?_)
    · exact hdigits (List.mem_of_mem_take hmem)
    · exact hdigits (List.mem_of_mem_drop hmem)

/-- So it is with an exponent. -/
lemma oneLine_scientific (d : Decimal) : OneLine d.scientific := by
  have hdigits := newline_notMem_significant d
  have hfraction : '\n' ∉ d.significant.1.drop 1 := fun hmem => hdigits (List.mem_of_mem_drop hmem)
  rw [Decimal.scientific]
  refine .append (.append (.append ?_ ?_) (by decide)) (oneLine_integerText _)
  · exact oneLine_ofList.mpr fun hmem => hdigits (List.mem_of_mem_take hmem)
  · split
    · decide
    · exact .append (by decide) (oneLine_ofList.mpr hfraction)

lemma oneLine_signText (negative : Bool) : OneLine (Binary64.signText negative) := by
  cases negative <;> decide

/-- Floats are written on one line. -/
lemma oneLine_toDebugText (x : Binary64) : OneLine x.toDebugText := by
  cases x with
  | nan => decide
  | infinite negative => exact .append (oneLine_signText negative) (by decide)
  | finite negative m e h =>
      refine .append (oneLine_signText negative) ?_
      split
      · decide
      · simp only
        split
        · exact oneLine_scientific _
        · exact oneLine_positional (by decide) _

/-! ### Quoted texts -/

namespace Text

lemma newline_notMem_hexDigits (n : ℕ) : '\n' ∉ hexDigits n := by
  have hdigit : ∀ d < 16, hexDigit d ≠ '\n' := by decide
  induction n using hexDigits.induct with
  | case1 => simp [hexDigits]
  | case2 n hn ih =>
      rw [hexDigits, dif_neg hn, List.mem_append, List.mem_singleton]
      exact not_or.mpr ⟨ih, (hdigit (n % 16) (Nat.mod_lt n (by decide))).symm⟩

/-- The line feed is escaped, as long as it is not what quotes. -/
lemma newline_notMem_escape {quote : Char} (hquote : quote ≠ '\n') (c : Char) :
    '\n' ∉ escape quote c := by
  rw [escape]
  split_ifs with hpair hnewline hreturn htab hzero hvisible
  · have hne : c ≠ '\n' := by
      rintro rfl
      exact hpair.elim hquote.symm (by decide)
    simpa using hne.symm
  · decide
  · decide
  · decide
  · decide
  · simpa using Ne.symm hnewline
  · rw [codePointEscape]
    split <;> simp [newline_notMem_hexDigits]

end Text

/-- Quoted texts are on one line. -/
lemma oneLine_quoted (text : String) : OneLine (Text.quoted text) := by
  rw [Text.quoted, oneLine_ofList]
  simp [Text.newline_notMem_escape]

/-! ### Parts of lines -/

/-- No line feed is among the characters that are no blanks. -/
lemma ne_newline_of_isBlank {c : Char} (hc : Text.isBlank c = false) : c ≠ '\n' := by
  rintro rfl
  exact absurd hc (by decide)

/-- Words are cut at line feeds. -/
lemma oneLine_of_mem_words {line : String} {word : Text.Word} (h : word ∈ Text.words line) :
    OneLine word.text := by
  have hwords (offset : ℕ) (cs : List Char) (hmem : word ∈ Text.wordsFrom offset cs) :
      OneLine word.text := by
    induction offset, cs using Text.wordsFrom.induct with
    | case1 => simp [Text.wordsFrom] at hmem
    | case2 offset c rest hc ih =>
        rw [Text.wordsFrom, if_pos hc] at hmem
        exact ih hmem
    | case3 offset c rest hc tail after ih =>
        rw [Text.wordsFrom, if_neg hc, List.mem_cons] at hmem
        rcases hmem with rfl | hmem
        · rw [oneLine_ofList, List.mem_cons]
          have hfirst : c ≠ '\n' := ne_newline_of_isBlank (Bool.eq_false_iff.mpr hc)
          refine not_or.mpr ⟨hfirst.symm, fun htail => ?_⟩
          exact absurd (List.mem_takeWhile_imp htail) (by decide)
        · exact ih hmem
  exact hwords 0 line.toList h

/-- A line without the blanks around it is a line. -/
lemma OneLine.trim {text : String} (h : OneLine text) : OneLine (Text.trim text) := by
  refine h.of_subset fun c hc => ?_
  have hback := (List.dropWhile_suffix _).subset (List.mem_reverse.mp hc)
  exact (List.dropWhile_suffix _).subset (List.mem_reverse.mp hback)

/-- The name and the argument of a command are parts of its line. -/
lemma OneLine.of_parse? {marker line : String} {named : CommandLine} (h : OneLine line)
    (hline : CommandLine.parse? marker line = some named) :
    OneLine named.name ∧ ∀ argument ∈ named.argument, OneLine argument := by
  obtain ⟨cs, hcs, rfl⟩ := Option.map_eq_some_iff.mp hline
  have hsubset : ∀ c ∈ cs, c ∈ line.toList := fun c hc => by
    rw [CommandLine.eq_append_of_dropMarker? hcs]
    exact List.mem_append_right _ hc
  refine ⟨h.of_subset fun c hc => hsubset c ((List.takeWhile_prefix _).subset hc), ?_⟩
  intro argument hargument
  have hbehind : ∀ c ∈ cs.dropWhile (· != ' '), c ∈ line.toList :=
    fun c hc => hsubset c ((List.dropWhile_suffix _).subset hc)
  simp only [CommandLine.ofChars] at hargument
  split at hargument
  · exact nomatch hargument
  next space rest hrest =>
    obtain rfl := Option.some.inj hargument
    exact h.of_subset fun c hc => hbehind c (hrest ▸ List.mem_cons_of_mem _ hc)

end LineRepl
