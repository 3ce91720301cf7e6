/-
Lines of the same tokens.

What an expression line does is told by its tokens alone. Blanks between them move the columns that
errors are reported at, each with its token, and change nothing else.

* `SamePlace`: the columns belong to the same place of two lines of tokens.
* `ParsedAlike`: two lines of tokens spell one statement, or they have one fault at the same place.
* `AnsweredAtSamePlace`: two lines have one answer, or are malformed alike at the same place.
* `respaced_alike`: this is so for any lines of the same tokens.
-/
import LineRepl.Proofs.Columns

open LineRepl.Calc.Grammar (columnAt columnAt_eq placed words)

namespace LineRepl.Calc

/-! ### Places -/

/-- The columns belong to the same place of two lines of tokens: to the tokens with one number, or
to the ends of both lines. The end of a line without tokens is at the first column. -/
inductive SamePlace (tokens tokens' : List PlacedToken) : ℕ → ℕ → Prop where
  | token {t t' : PlacedToken} (k : ℕ) : tokens[k]? = some t → tokens'[k]? = some t' →
      SamePlace tokens tokens' t.column t'.column
  | behind {t t' : PlacedToken} : tokens.getLast? = some t → tokens'.getLast? = some t' →
      SamePlace tokens tokens' (t.column + 1) (t'.column + 1)
  | empty : tokens = [] → tokens' = [] → SamePlace tokens tokens' 1 1

section

variable {tokens tokens' : List PlacedToken}

lemma samePlace_endColumn (h : tokens.length = tokens'.length) :
    SamePlace tokens tokens' (endColumn tokens) (endColumn tokens') := by
  rcases eq_or_ne tokens [] with rfl | hne
  · obtain rfl : tokens' = [] := List.eq_nil_of_length_eq_zero h.symm
    exact .empty rfl rfl
  · have hne' : tokens' ≠ [] := List.ne_nil_of_length_pos (h ▸ List.length_pos_of_ne_nil hne)
    have hlast := List.getLast?_eq_some_getLast hne
    have hlast' := List.getLast?_eq_some_getLast hne'
    rw [endColumn, endColumn, hlast, hlast']
    exact .behind hlast hlast'

/-- The places of tokens are the same in lines of one length. -/
lemma samePlace_columnAt (h : tokens.length = tokens'.length) (k : ℕ) :
    SamePlace tokens tokens' (columnAt tokens k) (columnAt tokens' k) := by
  rw [columnAt_eq, columnAt_eq]
  rcases Nat.lt_or_ge k tokens.length with hk | hk
  · have hk' : k < tokens'.length := h ▸ hk
    have ht : tokens[k]? = some tokens[k] := List.getElem?_eq_getElem hk
    have ht' : tokens'[k]? = some tokens'[k] := List.getElem?_eq_getElem hk'
    rw [ht, ht']
    exact .token k ht ht'
  · rw [List.getElem?_eq_none hk, List.getElem?_eq_none (h ▸ hk)]
    exact samePlace_endColumn h

/-! ### Statements -/

/-- What two lines of tokens spell: one statement, or nothing, for one fault at the same place. -/
inductive ParsedAlike (tokens tokens' : List PlacedToken) :
    Except SyntaxError Statement → Except SyntaxError Statement → Prop where
  | ok (s : Statement) : ParsedAlike tokens tokens' (.ok s) (.ok s)
  | error (fault : SyntaxFault) {i j : ℕ} : SamePlace tokens tokens' i j →
      ParsedAlike tokens tokens' (.error ⟨fault, i⟩) (.error ⟨fault, j⟩)

/-- Both lines are parsed as their tokens are at the columns from 1 on. -/
lemma parsedAlike_of_words_eq (h : words tokens = words tokens') :
    ParsedAlike tokens tokens' (parse tokens) (parse tokens') := by
  have hlength : tokens.length = tokens'.length := by
    simpa only [words, List.length_map] using congrArg List.length h
  rw [parse_eq_moved tokens, parse_eq_moved tokens', ← h]
  cases parse (placed (words tokens)) with
  | ok s => exact .ok s
  | error e => exact .error e.fault (samePlace_columnAt hlength (e.column - 1))

/-! ### Answers -/

/-- The answers to two lines, and the workspaces afterwards: the same for both, or both lines are
malformed, which one message says of the same place, and leave the workspace as it was. -/
inductive AnsweredAtSamePlace (tokens tokens' : List PlacedToken) (w : Workspace) :
    Reply × Workspace → Reply × Workspace → Prop where
  | same (r : Reply × Workspace) :
      (∀ message column, r.1 ≠ .error (.malformed message column)) →
      AnsweredAtSamePlace tokens tokens' w r r
  | malformed (message : String) {i j : ℕ} : SamePlace tokens tokens' i j →
      AnsweredAtSamePlace tokens tokens' w
        (.error (.malformed message i), w) (.error (.malformed message j), w)

lemma evalLine_of_tokenize {line : String} (hline : tokenize line = .ok tokens)
    (hne : tokens ≠ []) (w : Workspace) :
    evalLine line w =
      match parse tokens with
      | .error e => (malformed e, w)
      | .ok s => s.run w := by
  rw [evalLine, hline]
  cases tokens with
  | nil => exact absurd rfl hne
  | cons t tokens => rfl

lemma answeredAtSamePlace_of_words_eq {line line' : String} (h : words tokens = words tokens')
    (hline : tokenize line = .ok tokens) (hline' : tokenize line' = .ok tokens') (w : Workspace) :
    AnsweredAtSamePlace tokens tokens' w (evalLine line w) (evalLine line' w) := by
  rcases eq_or_ne tokens [] with rfl | hne
  · obtain rfl : tokens' = [] := List.map_eq_nil_iff.mp h.symm
    rw [evalLine, evalLine, hline, hline']
    refine .same _ fun message column h => ?_
    cases h
  · have hne' : tokens' ≠ [] := fun hnil =>
      hne (List.map_eq_nil_iff.mp (h.trans (List.map_eq_nil_iff.mpr hnil)))
    have hparse := parsedAlike_of_words_eq h
    rw [evalLine_of_tokenize hline hne, evalLine_of_tokenize hline' hne']
    generalize parse tokens = r, parse tokens' = r' at hparse
    cases hparse with
    | ok s => exact .same _ fun message column => run_ne_malformed s w message column
    | error fault hplace => exact .malformed fault.message hplace

/-- **What a line does is told by its tokens alone.** Any two lists of the same tokens are parsed to
one statement, or are refused with one fault at the same place. So any two lines of these tokens
have one answer and leave one workspace, or are refused with one message at the same place. -/
theorem respaced_alike (h : words tokens = words tokens') :
    ParsedAlike tokens tokens' (parse tokens) (parse tokens') ∧
      ∀ line line', tokenize line = .ok tokens → tokenize line' = .ok tokens' →
        ∀ w, AnsweredAtSamePlace tokens tokens' w (evalLine line w) (evalLine line' w) :=
  ⟨parsedAlike_of_words_eq h,
    fun _ _ hline hline' w => answeredAtSamePlace_of_words_eq h hline hline' w⟩

end

/-- The tokens of a line with a number too many, with a single blank among them. -/
def tight : List PlacedToken :=
  [⟨.ident "x", 1⟩, ⟨.assign, 2⟩, ⟨.openParen, 3⟩, ⟨.int 1, 4⟩, ⟨.int 2, 6⟩]

/-- The same tokens with more blanks among them. -/
def loose : List PlacedToken :=
  [⟨.ident "x", 1⟩, ⟨.assign, 3⟩, ⟨.openParen, 5⟩, ⟨.int 1, 7⟩, ⟨.int 2, 10⟩]

/-- Both lines are refused at their second number, which stands at different columns. -/
theorem respaced_second_number :
    words tight = words loose ∧
      tokenize "x=(1 2" = .ok tight ∧ tokenize "x = ( 1  2" = .ok loose ∧
      (evalLine "x=(1 2" ⟨.empty, .empty⟩).1 = .error (.malformed "expected ')'" 6) ∧
      (evalLine "x = ( 1  2" ⟨.empty, .empty⟩).1 = .error (.malformed "expected ')'" 10) ∧
      AnsweredAtSamePlace tight loose ⟨.empty, .empty⟩ (evalLine "x=(1 2" ⟨.empty, .empty⟩)
        (evalLine "x = ( 1  2" ⟨.empty, .empty⟩) := by
  have hwords : words tight = words loose := rfl
  have htight : tokenize "x=(1 2" = .ok tight := by decide +kernel
  have hloose : tokenize "x = ( 1  2" = .ok loose := by decide +kernel
  refine ⟨hwords, htight, hloose, ?_, ?_,
    (respaced_alike hwords).2 _ _ htight hloose ⟨.empty, .empty⟩⟩
  · have hparse : parse tight = .error ⟨.expectedClose .paren, 6⟩ := by cbv
    rw [evalLine_of_tokenize htight (by decide), hparse]
    rfl
  · have hparse : parse loose = .error ⟨.expectedClose .paren, 10⟩ := by cbv
    rw [evalLine_of_tokenize hloose (by decide), hparse]
    rfl

end LineRepl.Calc
