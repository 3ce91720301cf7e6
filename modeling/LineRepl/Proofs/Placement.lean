/-
Where the words of a line stand.

* `Text.byteLength_eq_length_iff`: there are as many bytes as characters where all of these have
  one.
* `Text.Behind`: a word stands in a line behind given characters.
* `Text.exists_behind`: every word of a line does, and its offset is their number of bytes.
* `Text.offset_lt_of_mem_words`, `Text.isWord_of_mem_words`: words are inside their line.
-/
import LineRepl.Proofs.Words

namespace LineRepl.Text

/-! ### Bytes -/

lemma foldl_utf8Size (n : ℕ) (cs : List Char) :
    cs.foldl (fun n c => n + c.utf8Size) n = n + byteLength cs := by
  induction cs generalizing n with
  | nil => rfl
  | cons c cs ih =>
      rw [List.foldl_cons, ih, byteLength.eq_def (c :: cs), List.foldl_cons, ih, Nat.zero_add,
        Nat.add_assoc]

lemma byteLength_cons (c : Char) (cs : List Char) :
    byteLength (c :: cs) = c.utf8Size + byteLength cs := by
  rw [byteLength, List.foldl_cons, Nat.zero_add, foldl_utf8Size]

/-- Bytes add up. -/
lemma byteLength_append (cs ds : List Char) :
    byteLength (cs ++ ds) = byteLength cs + byteLength ds := by
  rw [byteLength, List.foldl_append, foldl_utf8Size _ ds]
  rfl

/-- Every character has a byte. -/
lemma length_le_byteLength (cs : List Char) : cs.length ≤ byteLength cs := by
  induction cs with
  | nil => exact Nat.zero_le _
  | cons c cs ih =>
      have hpos := c.utf8Size_pos
      rw [byteLength_cons, List.length_cons]
      omega

/-- Bytes and characters are as many where every character has one byte. -/
lemma byteLength_eq_length_iff {cs : List Char} :
    byteLength cs = cs.length ↔ ∀ c ∈ cs, c.utf8Size = 1 := by
  induction cs with
  | nil => simp [byteLength]
  | cons c cs ih =>
      have hpos := c.utf8Size_pos
      have hle := length_le_byteLength cs
      rw [byteLength_cons, List.length_cons, List.forall_mem_cons, ← ih]
      omega

/-! ### Words -/

/-- The word stands in the line behind the characters `before`: neither these nor what follows go on
with it. -/
structure Behind (line before : List Char) (text : String) : Prop where
  isWord : IsWord text
  starts : ∀ c ∈ before.getLast?, isBlank c = true
  ends : ∃ after, line = before ++ (text.toList ++ after) ∧ ∀ c ∈ after.head?, isBlank c = true

namespace Behind

variable {cs before : List Char} {text : String}

/-- The line goes on with the word, so there is more of it. -/
lemma byteLength_lt (h : Behind cs before text) : byteLength before < byteLength cs := by
  obtain ⟨after, rfl, -⟩ := h.ends
  have hpos := List.length_pos_of_ne_nil (isWord_iff.mp h.isWord).1
  have hle := length_le_byteLength text.toList
  rw [byteLength_append, byteLength_append]
  omega

/-- A blank in front comes before the word. -/
lemma blank {c : Char} (hc : isBlank c = true) (h : Behind cs before text) :
    Behind (c :: cs) (c :: before) text where
  isWord := h.isWord
  starts := by
    rw [List.getLast?_cons]
    rintro d ⟨⟩
    cases hlast : before.getLast? with
    | none => exact hc
    | some d => exact h.starts d hlast
  ends := by
    obtain ⟨after, rfl, hafter⟩ := h.ends
    exact ⟨after, rfl, hafter⟩

/-- A word and what comes before the next one are apart. -/
lemma ne_nil (h : Behind cs before text) (hcs : ∀ c ∈ cs.head?, isBlank c = true) :
    before ≠ [] := by
  rintro rfl
  obtain ⟨after, rfl, -⟩ := h.ends
  obtain ⟨hne, hinside⟩ := isWord_iff.mp h.isWord
  obtain ⟨c, word, hword⟩ := List.exists_cons_of_ne_nil hne
  rw [hword] at hcs hinside
  exact absurd (hcs c rfl) (Bool.eq_false_iff.mp (hinside c List.mem_cons_self))

/-- So do characters in front, if something was before the word. -/
lemma append (h : Behind cs before text) (hbefore : before ≠ []) (front : List Char) :
    Behind (front ++ cs) (front ++ before) text where
  isWord := h.isWord
  starts := by
    rw [List.getLast?_append_of_ne_nil _ hbefore]
    exact h.starts
  ends := by
    obtain ⟨after, rfl, hafter⟩ := h.ends
    exact ⟨after, by rw [List.append_assoc], hafter⟩

end Behind

/-- A blank moves the offset on by its bytes. -/
lemma wordsFrom_blank {c : Char} (hc : isBlank c = true) (offset : ℕ) (rest : List Char) :
    wordsFrom offset (c :: rest) = wordsFrom (offset + c.utf8Size) rest := by
  rw [wordsFrom, if_pos hc]

/-- A text is empty, or it starts with a blank or with a word. -/
@[elab_as_elim]
lemma words_induction {P : ℕ → List Char → Prop} (nil : ∀ offset, P offset [])
    (blank : ∀ offset c cs, isBlank c = true → P (offset + c.utf8Size) cs → P offset (c :: cs))
    (word : ∀ offset text rest, text ≠ [] → (∀ c ∈ text, isBlank c = false) →
      (∀ c ∈ rest.head?, isBlank c = true) → P (offset + byteLength text) rest →
      P offset (text ++ rest)) (offset : ℕ) (cs : List Char) : P offset cs := by
  induction offset, cs using wordsFrom.induct with
  | case1 offset => exact nil offset
  | case2 offset c rest hc ih => exact blank offset c rest hc ih
  | case3 offset c rest hc tail after ih =>
      have hsplit : c :: rest = (c :: tail) ++ after :=
        congrArg (c :: ·) List.takeWhile_append_dropWhile.symm
      have htail : ∀ d ∈ tail, isBlank d = false := fun d hd => by
        simpa using List.all_eq_true.mp List.all_takeWhile d hd
      have hafter : ∀ d ∈ after.head?, isBlank d = true := fun d hd => by
        have hnot := List.head?_dropWhile_not (fun d => !isBlank d) rest
        rw [Option.mem_def.mp hd] at hnot
        simpa using hnot
      rw [hsplit]
      exact word offset (c :: tail) after (List.cons_ne_nil c tail)
        (List.forall_mem_cons.mpr ⟨Bool.eq_false_iff.mpr hc, htail⟩) hafter ih

/-- Every word of a line stands behind the characters that hold the words before it, and its offset
is the number of their bytes. -/
lemma exists_behind {offset : ℕ} {cs : List Char} {front back : List Word} {word : Word}
    (h : wordsFrom offset cs = front ++ word :: back) :
    ∃ before, Behind cs before word.text ∧ wordsFrom offset before = front ∧
      word.offset = offset + byteLength before := by
  induction offset, cs using words_induction generalizing front with
  | nil offset => simp [wordsFrom] at h
  | blank offset c cs hc ih =>
      rw [wordsFrom_blank hc] at h
      obtain ⟨before, hbehind, hfront, hoffset⟩ := ih h
      refine ⟨c :: before, hbehind.blank hc, ?_, ?_⟩
      · rw [wordsFrom_blank hc, hfront]
      · rw [hoffset, byteLength_cons, Nat.add_assoc]
  | word offset text rest htext hblank hrest ih =>
      rw [wordsFrom_append offset rest htext hblank hrest] at h
      cases front with
      | nil =>
          obtain ⟨rfl, -⟩ := List.cons.inj h
          refine ⟨[], ⟨isWord_iff.mpr ?_, by simp, rest, ?_, hrest⟩, by rw [wordsFrom], rfl⟩
          · rw [String.toList_ofList]
            exact ⟨htext, hblank⟩
          · rw [String.toList_ofList, List.nil_append]
      | cons first front =>
          obtain ⟨rfl, hothers⟩ := List.cons.inj h
          obtain ⟨before, hbehind, hfront, hoffset⟩ := ih hothers
          have hbefore := hbehind.ne_nil hrest
          have hhead : ∀ c ∈ before.head?, isBlank c = true := by
            obtain ⟨after, rfl, -⟩ := hbehind.ends
            rwa [List.head?_append_of_ne_nil _ hbefore] at hrest
          refine ⟨text ++ before, hbehind.append hbefore text, ?_, ?_⟩
          · rw [wordsFrom_append offset before htext hblank hhead, hfront]
          · rw [hoffset, byteLength_append, Nat.add_assoc]

/-- The characters before a word have fewer bytes than the line. -/
lemma offset_lt_of_mem_words {line : String} {word : Word} (h : word ∈ words line) :
    word.offset < byteLength line.toList := by
  obtain ⟨front, back, hwords⟩ := List.append_of_mem h
  obtain ⟨before, hbehind, -, hoffset⟩ := exists_behind hwords
  rw [hoffset, Nat.zero_add]
  exact hbehind.byteLength_lt

/-- There are no blanks in the words of a line. -/
lemma isWord_of_mem_words {line : String} {word : Word} (h : word ∈ words line) :
    IsWord word.text := by
  obtain ⟨front, back, hwords⟩ := List.append_of_mem h
  obtain ⟨before, hbehind, -⟩ := exists_behind hwords
  exact hbehind.isWord

end LineRepl.Text
