/-
Lines and their tokens.

* `Splits`: a text is gaps and lexemes, one lexeme for each token.
* `tokenize_ok_iff_splits`: the tokens of a line are those that it splits into, and where there
  are none, the line has tokens up to the column of the error.
* `tokenize_append_blank`: the tokens of two lines with a blank between them.
-/
import LineRepl.Proofs.Calc.Lexeme

namespace LineRepl.Calc

open Text (isBlank)

/-- The characters, the first of which stands at `column`, are gaps of blanks and lexemes of the
tokens in turn. Each lexeme starts at the column of its token, and it is as long as it can be. -/
inductive Splits : ℕ → List Char → List PlacedToken → Prop where
  | gap {column : ℕ} {gap : List Char} : (∀ c ∈ gap, isBlank c = true) → Splits column gap []
  | lexeme {column : ℕ} {gap lexeme rest : List Char} {t : Token} {tokens : List PlacedToken} :
      (∀ c ∈ gap, isBlank c = true) → Spells lexeme t → Longest lexeme rest →
      Splits (column + gap.length + lexeme.length) rest tokens →
      Splits column (gap ++ (lexeme ++ rest)) (⟨t, column + gap.length⟩ :: tokens)

/-! ### One gap or lexeme after another -/

section

variable {column : ℕ} {c : Char} {cs rest : List Char} {t : Token} {ts : List PlacedToken}

lemma tokenizeFrom_nil (column : ℕ) : tokenizeFrom column [] = .ok [] := by
  rw [tokenizeFrom]

/-- A blank moves the column on. -/
lemma tokenizeFrom_blank (hc : isBlank c = true) :
    tokenizeFrom column (c :: cs) = tokenizeFrom (column + 1) cs := by
  rw [tokenizeFrom, if_pos hc]

/-- A lexeme at the front of a text is its first token. -/
lemma tokenizeFrom_lexeme (h : Spells cs t) (hrest : Stops t rest) :
    tokenizeFrom column (cs ++ rest) =
      (tokenizeFrom (column + cs.length) rest).map (⟨t, column⟩ :: ·) := by
  obtain ⟨c, tail, rfl, hblank⟩ := h.exists_cons
  rw [List.cons_append, tokenizeFrom, if_neg (by simp [hblank]), h.scan hrest, List.length_cons]
  simp only [List.drop_left]
  rw [Nat.add_right_comm, Nat.add_assoc]

/-- Where a text with a lexeme at the front has tokens, so has what comes behind the lexeme. -/
lemma exists_of_tokenizeFrom_lexeme (h : Spells cs t) (hrest : Stops t rest)
    (hts : tokenizeFrom column (cs ++ rest) = .ok ts) :
    ∃ others, tokenizeFrom (column + cs.length) rest = .ok others ∧ ts = ⟨t, column⟩ :: others := by
  rw [tokenizeFrom_lexeme h hrest] at hts
  cases hothers : tokenizeFrom (column + cs.length) rest with
  | error e => rw [hothers] at hts; cases hts
  | ok others =>
      rw [hothers] at hts
      cases hts
      exact ⟨others, rfl, rfl⟩

/-- What is no token is a fault at its column. -/
lemma tokenizeFrom_fault {fault : SyntaxFault} (hc : isBlank c = false)
    (hscan : scan c cs = .error fault) :
    tokenizeFrom column (c :: cs) = .error ⟨fault, column⟩ := by
  rw [tokenizeFrom, if_neg (by simp [hc]), hscan]

/-- A text is empty, or it starts with a blank, with a lexeme or with characters that are none. -/
@[elab_as_elim]
lemma tokens_induction {P : ℕ → List Char → Prop} (nil : ∀ column, P column [])
    (blank : ∀ column c cs, isBlank c = true → P (column + 1) cs → P column (c :: cs))
    (lexeme : ∀ column cs rest t, Spells cs t → Stops t rest → P (column + cs.length) rest →
      P column (cs ++ rest))
    (fault : ∀ column c cs fault, isBlank c = false → scan c cs = .error fault →
      P column (c :: cs)) (column : ℕ) (cs : List Char) : P column cs := by
  induction column, cs using tokenizeFrom.induct with
  | case1 column => exact nil column
  | case2 column c rest hc ih => exact blank column c rest hc ih
  | case3 column c rest hc f hscan => exact fault column c rest f (Bool.eq_false_iff.mpr hc) hscan
  | case4 column c rest hc t n hscan ih =>
      obtain ⟨front, left, rfl, rfl, hfront, hleft⟩ := exists_of_scan hscan
      rw [List.drop_left, Nat.add_assoc, Nat.add_comm 1] at ih
      exact lexeme column (c :: front) left t hfront hleft ih

/-! ### Lines that have tokens -/

/-- Blanks move the column on by their number. -/
lemma tokenizeFrom_gap {gap : List Char} (hgap : ∀ c ∈ gap, isBlank c = true) :
    tokenizeFrom column (gap ++ rest) = tokenizeFrom (column + gap.length) rest := by
  induction gap generalizing column with
  | nil => rfl
  | cons c gap ih =>
      obtain ⟨hc, hgap⟩ := List.forall_mem_cons.mp hgap
      rw [List.cons_append, tokenizeFrom_blank hc, ih hgap, List.length_cons, Nat.add_right_comm,
        Nat.add_assoc]

lemma tokenizeFrom_of_blank {gap : List Char} (hgap : ∀ c ∈ gap, isBlank c = true) :
    tokenizeFrom column gap = .ok [] := by
  have hline : tokenizeFrom column (gap ++ []) = tokenizeFrom (column + gap.length) [] :=
    tokenizeFrom_gap hgap
  rwa [List.append_nil, tokenizeFrom_nil] at hline

lemma Splits.blank (hc : isBlank c = true) (h : Splits (column + 1) cs ts) :
    Splits column (c :: cs) ts := by
  cases h with
  | gap hgap => exact .gap (List.forall_mem_cons.mpr ⟨hc, hgap⟩)
  | @lexeme _ gap lexeme rest t tokens hgap ht hlongest hrest =>
      have hplace : column + 1 + gap.length = column + (c :: gap).length := by
        rw [List.length_cons]
        omega
      rw [hplace] at hrest ⊢
      exact .lexeme (List.forall_mem_cons.mpr ⟨hc, hgap⟩) ht hlongest hrest

/-- The tokens of a text are those that it splits into. -/
lemma tokenizeFrom_eq_ok_iff : tokenizeFrom column cs = .ok ts ↔ Splits column cs ts := by
  constructor
  · intro h
    induction column, cs using tokens_induction generalizing ts with
    | nil column =>
        rw [tokenizeFrom_nil] at h
        cases h
        exact .gap (by simp)
    | blank column c cs hc ih =>
        rw [tokenizeFrom_blank hc] at h
        exact (ih h).blank hc
    | lexeme column cs rest t ht hstops ih =>
        obtain ⟨others, hrest, rfl⟩ := exists_of_tokenizeFrom_lexeme ht hstops h
        obtain ⟨c, tail, rfl, -⟩ := ht.exists_cons
        have hlongest : Longest (c :: tail) rest := (stops_iff_longest ht).mp hstops
        have hsplits : Splits column ([] ++ (c :: tail ++ rest)) (⟨t, column⟩ :: others) :=
          .lexeme (List.forall_mem_nil _) ht hlongest (ih hrest)
        exact hsplits
    | fault column c cs fault hc hscan =>
        rw [tokenizeFrom_fault hc hscan] at h
        cases h
  · intro h
    induction h with
    | gap hgap => exact tokenizeFrom_of_blank hgap
    | lexeme hgap ht hlongest _ ih =>
        rw [tokenizeFrom_gap hgap, tokenizeFrom_lexeme ht (hlongest.stops ht), ih]
        rfl

/-- Where a text has no tokens, it has tokens up to the place where one is missing. -/
lemma exists_of_tokenizeFrom_eq_error {e : SyntaxError} (h : tokenizeFrom column cs = .error e) :
    ∃ front c left, cs = front ++ c :: left ∧ e.column = column + front.length ∧
      ∃ tokens, tokenizeFrom column front = .ok tokens := by
  induction column, cs using tokens_induction with
  | nil column =>
      rw [tokenizeFrom_nil] at h
      cases h
  | blank column c cs hc ih =>
      rw [tokenizeFrom_blank hc] at h
      obtain ⟨front, d, left, rfl, hcolumn, tokens, hfront⟩ := ih h
      refine ⟨c :: front, d, left, rfl, ?_, tokens, by rw [tokenizeFrom_blank hc, hfront]⟩
      rw [hcolumn, List.length_cons]
      omega
  | lexeme column cs rest t ht hstops ih =>
      rw [tokenizeFrom_lexeme ht hstops] at h
      cases hrest : tokenizeFrom (column + cs.length) rest with
      | ok others => rw [hrest] at h; cases h
      | error e' =>
          rw [hrest] at h
          cases h
          obtain ⟨front, d, left, rfl, hcolumn, tokens, hfront⟩ := ih hrest
          -- the lexeme stops where the text is cut off, too
          have hstops' : Stops t front := hstops.of_prefix (List.prefix_append front (d :: left))
          refine ⟨cs ++ front, d, left, by rw [List.append_assoc], ?_, ⟨t, column⟩ :: tokens, ?_⟩
          · rw [hcolumn, List.length_append, Nat.add_assoc]
          · rw [tokenizeFrom_lexeme ht hstops', hfront]
            rfl
  | fault column c cs fault hc hscan =>
      rw [tokenizeFrom_fault hc hscan] at h
      cases h
      exact ⟨[], c, cs, rfl, rfl, [], tokenizeFrom_nil column⟩

end

/-- **Nothing is lost between a line and its tokens.** The tokens of a line are those that it splits
into. A line without tokens has an error at one of its characters, and the characters before that
one have tokens. -/
theorem tokenize_ok_iff_splits (source : String) :
    (∀ tokens, tokenize source = .ok tokens ↔ Splits 1 source.toList tokens) ∧
      ∀ e, tokenize source = .error e → 1 ≤ e.column ∧ e.column ≤ source.length ∧
        ∃ tokens, tokenize (String.ofList (source.toList.take (e.column - 1))) = .ok tokens := by
  refine ⟨fun tokens => tokenizeFrom_eq_ok_iff, fun e he => ?_⟩
  obtain ⟨front, c, left, hsource, hcolumn, tokens, hfront⟩ := exists_of_tokenizeFrom_eq_error he
  have hlength : source.length = front.length + (left.length + 1) := by
    rw [← String.length_toList, hsource, List.length_append, List.length_cons]
  have htake : source.toList.take (e.column - 1) = front := by
    rw [hsource, hcolumn, Nat.add_sub_cancel_left, List.take_left]
  refine ⟨by omega, by omega, tokens, ?_⟩
  rw [htake, tokenize, String.toList_ofList, hfront]

/-! ### Lines with a blank between them -/

/-- The token further to the right. -/
def PlacedToken.shift (t : PlacedToken) (columns : ℕ) : PlacedToken :=
  { t with column := t.column + columns }

/-- The error further to the right. -/
def SyntaxError.shift (e : SyntaxError) (columns : ℕ) : SyntaxError :=
  { e with column := e.column + columns }

/-- Where a text stands changes nothing but the columns. -/
lemma tokenizeFrom_add (column columns : ℕ) (cs : List Char) :
    tokenizeFrom (column + columns) cs =
      ((tokenizeFrom column cs).map (List.map (·.shift columns))).mapError (·.shift columns) := by
  induction column, cs using tokens_induction with
  | nil column =>
      rw [tokenizeFrom_nil, tokenizeFrom_nil]
      rfl
  | blank column c cs hc ih =>
      rw [tokenizeFrom_blank hc, tokenizeFrom_blank hc, Nat.add_right_comm, ih]
  | lexeme column cs rest t ht hstops ih =>
      rw [tokenizeFrom_lexeme ht hstops, tokenizeFrom_lexeme ht hstops, Nat.add_right_comm, ih]
      cases tokenizeFrom (column + cs.length) rest <;> rfl
  | fault column c cs fault hc hscan =>
      rw [tokenizeFrom_fault hc hscan, tokenizeFrom_fault hc hscan]
      rfl

/-- Behind a blank the tokens begin anew. -/
lemma tokenizeFrom_append_blank {column : ℕ} {cs : List Char} {ts : List PlacedToken} {w : Char}
    (h : tokenizeFrom column cs = .ok ts) (hw : isBlank w = true) (more : List Char) :
    tokenizeFrom column (cs ++ w :: more) =
      (tokenizeFrom (column + (cs.length + 1)) more).map (ts ++ ·) := by
  induction column, cs using tokens_induction generalizing ts with
  | nil column =>
      rw [tokenizeFrom_nil] at h
      cases h
      rw [List.nil_append, tokenizeFrom_blank hw]
      cases tokenizeFrom (column + 1) more <;> rfl
  | blank column c cs hc ih =>
      rw [tokenizeFrom_blank hc] at h
      rw [List.cons_append, tokenizeFrom_blank hc, ih h, List.length_cons, Nat.add_assoc,
        Nat.add_comm 1]
  | lexeme column cs rest t ht hstops ih =>
      obtain ⟨others, hrest, rfl⟩ := exists_of_tokenizeFrom_lexeme ht hstops h
      have hplace : column + cs.length + (rest.length + 1) =
          column + ((cs ++ rest).length + 1) := by
        rw [List.length_append]
        omega
      rw [List.append_assoc, tokenizeFrom_lexeme ht (hstops.append_blank hw more), ih hrest, hplace]
      cases tokenizeFrom (column + ((cs ++ rest).length + 1)) more <;> rfl
  | fault column c cs fault hc hscan =>
      rw [tokenizeFrom_fault hc hscan] at h
      cases h

/-- **Blanks part lines into lines.** Where the first of two lines has tokens, the line that has
them both with a blank between them has these tokens followed by those of the second, or the error
of the second, both as far to the right as the second line was moved. -/
theorem tokenize_append_blank {s t : String} {w : Char} {ts : List PlacedToken}
    (hs : tokenize s = .ok ts) (hw : isBlank w = true) :
    (∀ us, tokenize t = .ok us →
      tokenize (s ++ String.singleton w ++ t) = .ok (ts ++ us.map (·.shift (s.length + 1)))) ∧
    ∀ e, tokenize t = .error e →
      tokenize (s ++ String.singleton w ++ t) = .error (e.shift (s.length + 1)) := by
  have hline : tokenize (s ++ String.singleton w ++ t) =
      (tokenizeFrom (1 + (s.length + 1)) t.toList).map (ts ++ ·) := by
    rw [tokenize, String.toList_append, String.toList_append, String.toList_singleton,
      List.append_assoc, List.singleton_append, tokenizeFrom_append_blank hs hw,
      String.length_toList]
  rw [hline, tokenizeFrom_add]
  constructor
  · intro us hus
    rw [tokenize] at hus
    rw [hus]
    rfl
  · intro e he
    rw [tokenize] at he
    rw [he]
    rfl

/-- A blank parts an operator from an equality sign, and an error behind it is moved. -/
theorem tokenize_less_blank :
    (tokenize "1 <" = .ok [⟨.int 1, 1⟩, ⟨.lt, 3⟩] ∧ isBlank ' ' = true) ∧
      tokenize ("1 <" ++ String.singleton ' ' ++ "= x") =
        .ok [⟨.int 1, 1⟩, ⟨.lt, 3⟩, ⟨.assign, 5⟩, ⟨.ident "x", 7⟩] ∧
      tokenize ("1 <" ++ String.singleton ' ' ++ "= $") = .error ⟨.unexpectedCharacter '$', 7⟩ := by
  have hs : tokenize "1 <" = .ok [⟨.int 1, 1⟩, ⟨.lt, 3⟩] := by decide +kernel
  have hw : isBlank ' ' = true := by decide
  have ht : tokenize "= x" = .ok [⟨.assign, 1⟩, ⟨.ident "x", 3⟩] := by decide +kernel
  have hfault : tokenize "= $" = .error ⟨.unexpectedCharacter '$', 3⟩ := by decide +kernel
  exact ⟨⟨hs, hw⟩, (tokenize_append_blank hs hw).1 _ ht, (tokenize_append_blank hs hw).2 _ hfault⟩

end LineRepl.Calc
