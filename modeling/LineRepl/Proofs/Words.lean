/-
Lines that are made of words, and the characters that names are made of.

* `Text.IsWord`: the texts that are one word.
* `Text.wordTexts`: the words of a line, apart from where they stand.
* `Text.wordTexts_intercalate`: words with spaces between them are the words of the line so made.
* `Text.isBlank_eq_false_of_isNameContinue`, `Text.isBlank_eq_false_of_isDigit`: names and numbers
  hold no blanks.
* `Text.isDigit_eq_false_of_isNameStart`: names do not start with digits.
-/
import LineRepl.Text.Blank
import LineRepl.Text.Name
import Mathlib.Data.List.Basic
import Mathlib.Tactic.ByContra

namespace LineRepl.Text

/-! ### Words -/

/-- The text is one word: it has characters, and none of them is blank. -/
def IsWord (text : String) : Prop :=
  text.toList ≠ [] ∧ text.toList.all (!isBlank ·) = true

instance (text : String) : Decidable (IsWord text) :=
  inferInstanceAs (Decidable (_ ∧ _))

lemma isWord_iff {text : String} :
    IsWord text ↔ text.toList ≠ [] ∧ ∀ c ∈ text.toList, isBlank c = false := by
  simp [IsWord]

/-- The words of a line, apart from where they stand. -/
def wordTexts (line : String) : List String := (words line).map (·.text)

/-- Characters with a property are taken up to the first one without it. -/
lemma takeWhile_append {P : Char → Bool} {cs rest : List Char} (hcs : ∀ c ∈ cs, P c = true)
    (hrest : ∀ c ∈ rest.head?, P c = false) : (cs ++ rest).takeWhile P = cs := by
  rw [List.takeWhile_append_of_pos hcs]
  cases rest with
  | nil => simp
  | cons c _ => simp [hrest c rfl]

lemma dropWhile_append {P : Char → Bool} {cs rest : List Char} (hcs : ∀ c ∈ cs, P c = true)
    (hrest : ∀ c ∈ rest.head?, P c = false) : (cs ++ rest).dropWhile P = rest := by
  rw [List.dropWhile_append_of_pos hcs]
  cases rest with
  | nil => rfl
  | cons c _ => simp [hrest c rfl]

/-- A word ends at the end of the line or at a blank. -/
lemma wordsFrom_append (offset : ℕ) {word : List Char} (rest : List Char) (hne : word ≠ [])
    (hword : ∀ c ∈ word, isBlank c = false) (hrest : ∀ c ∈ rest.head?, isBlank c = true) :
    wordsFrom offset (word ++ rest) =
      ⟨offset, String.ofList word⟩ :: wordsFrom (offset + byteLength word) rest := by
  obtain ⟨c, tail, rfl⟩ := List.exists_cons_of_ne_nil hne
  have hinside : ∀ d ∈ tail, (!isBlank d) = true := fun d hd => by
    rw [hword d (List.mem_cons_of_mem c hd)]
    rfl
  have hnext : ∀ d ∈ rest.head?, (!isBlank d) = false := fun d hd => by
    rw [hrest d hd]
    rfl
  rw [List.cons_append, wordsFrom, if_neg (by simp [hword c List.mem_cons_self])]
  simp only [takeWhile_append hinside hnext, dropWhile_append hinside hnext]

lemma wordsFrom_space (offset : ℕ) (rest : List Char) :
    wordsFrom offset (' ' :: rest) = wordsFrom (offset + 1) rest := by
  rw [wordsFrom, if_pos (by decide)]
  rfl

lemma map_text_wordsFrom_intercalate (offset : ℕ) {texts : List String}
    (h : ∀ text ∈ texts, IsWord text) :
    (wordsFrom offset ([' '].intercalate (texts.map String.toList))).map (·.text) = texts := by
  induction texts generalizing offset with
  | nil => simp [wordsFrom]
  | cons text texts ih =>
      obtain ⟨hne, hword⟩ := isWord_iff.mp (h text List.mem_cons_self)
      have htexts : ∀ t ∈ texts, IsWord t := fun t ht => h t (List.mem_cons_of_mem text ht)
      cases texts with
      | nil =>
          have hend := wordsFrom_append offset [] hne hword (by simp)
          rw [List.append_nil] at hend
          simp [hend, wordsFrom]
      | cons next texts =>
          have hspace : isBlank ' ' = true := by decide
          have hrest := ih (offset + byteLength text.toList + 1) htexts
          rw [List.map_cons] at hrest
          rw [List.map_cons, List.map_cons, List.intercalate_cons_cons, List.append_assoc,
            List.singleton_append, wordsFrom_append offset _ hne hword (by simp [hspace]),
            wordsFrom_space, List.map_cons, hrest, String.ofList_toList]

/-- Words with spaces between them are the words of the line so made. -/
lemma wordTexts_intercalate {texts : List String} (h : ∀ text ∈ texts, IsWord text) :
    wordTexts (" ".intercalate texts) = texts := by
  rw [wordTexts, words, String.toList_intercalate]
  exact map_text_wordsFrom_intercalate 0 h

lemma wordTexts_of_isWord {text : String} (h : IsWord text) : wordTexts text = [text] := by
  have htexts := wordTexts_intercalate (List.forall_mem_singleton.mpr h)
  rwa [String.intercalate_singleton] at htexts

/-! ### Characters of names -/

/-- Sets whose ranges do not meet have no character in common. -/
lemma Ranges.contains_eq_false {r r' : Ranges} {c : Char}
    (hapart : ∀ a ∈ r, ∀ b ∈ r', a.2 < b.1 ∨ b.2 < a.1) (hc : r.contains c = true) :
    r'.contains c = false := by
  obtain ⟨a, ha, hlow, hhigh⟩ := contains_iff.mp hc
  by_contra h
  obtain ⟨b, hb, hlow', hhigh'⟩ := contains_iff.mp (Bool.not_eq_false _ ▸ h)
  have hab := hapart a ha b hb
  omega

/-- A character that a name can start with may also follow. -/
lemma isNameContinue_of_isNameStart {c : Char} (h : isNameStart c = true) :
    isNameContinue c = true := by
  rcases Bool.or_eq_true _ _ ▸ h with hunderscore | hstart
  · rw [beq_iff_eq.mp hunderscore]
    decide +kernel
  · exact Bool.or_eq_true _ _ ▸ .inl hstart

lemma isBlank_eq_false_of_isNameContinue {c : Char} (h : isNameContinue c = true) :
    isBlank c = false := by
  rcases Bool.or_eq_true _ _ ▸ h with hstart | hmark
  · exact Ranges.contains_eq_false (by decide +kernel) hstart
  · exact Ranges.contains_eq_false (by decide +kernel) hmark

lemma isBlank_eq_false_of_isDigit {c : Char} (h : c.isDigit = true) : isBlank c = false :=
  Ranges.contains_eq_false (by decide) (Ranges.contains_iff.mpr
    ⟨(0x30, 0x39), List.mem_singleton_self _, Char.isDigit_iff_toNat.mp h⟩)

lemma isDigit_eq_false_of_isNameStart {c : Char} (h : isNameStart c = true) : c.isDigit = false := by
  rcases Bool.or_eq_true _ _ ▸ h with hunderscore | hstart
  · rw [beq_iff_eq.mp hunderscore]
    decide
  · have hdigits : Ranges.contains [(0x30, 0x39)] c = false :=
      Ranges.contains_eq_false (by decide +kernel) hstart
    by_contra hdigit
    rw [Bool.not_eq_false, Char.isDigit_iff_toNat] at hdigit
    rw [Ranges.contains_iff.mpr ⟨_, List.mem_cons_self, hdigit⟩] at hdigits
    cases hdigits

end LineRepl.Text
