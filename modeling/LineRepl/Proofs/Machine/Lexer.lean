/-
Expression lines split into tokens by a machine.

The machine walks over the characters by their index. Each look at a character, each step forward
and each cut of a text is one that it could panic at.

* `Machine.tokenize`: the tokens of a line.
* `Machine.lexeme_eq`: what is found at an index is the token there, and where it ends.
* `Machine.tokenize_eq`: lines that the machine can count the characters of have their tokens.
-/
import LineRepl.Proofs.Binary64.Reading
import LineRepl.Proofs.Calc.Tokenization
import LineRepl.Proofs.Machine.Basic

namespace LineRepl.Machine

open Calc
open Run (crash given given_error given_ok refuse)
open Text (isBlank isNameContinue isNameStart)

variable {ε : Type}

/-! ### The program -/

/-- The index behind the characters with the property. -/
def runEnd (machine : Machine) (P : Char → Bool) (cs : List Char) (i : ℕ) : Run ε ℕ := do
  if i < cs.length then
    let c ← item cs i
    if P c then
      let i ← add machine.index i 1
      machine |>.runEnd P cs i
    else pure i
  else pure i
partial_fixpoint

/-- Whether there is a point with a digit behind it. -/
def fractionFollows (machine : Machine) (cs : List Char) (i : ℕ) : Run ε Bool := do
  let next ← add machine.index i 1
  if next < cs.length then
    let c ← item cs i
    if c = '.' then
      let next ← add machine.index i 1
      let d ← item cs next
      pure d.isDigit
    else pure false
  else pure false

/-- The number from `start` on, and the index behind it. -/
def number (machine : Machine) (cs : List Char) (start : ℕ) : Run SyntaxFault (Token × ℕ) := do
  let i ← runEnd machine Char.isDigit cs start
  if ← fractionFollows machine cs i then
    let i ← add machine.index i 1
    let i ← runEnd machine Char.isDigit cs i
    let text ← slice cs start i
    match Binary64.ofText? (String.ofList text) with
    | some x => pure (.float x, i)
    -- there is no error for such a text, since none comes up
    | none => crash ("invalid number '" ++ String.ofList text ++ "'")
  else
    let text ← slice cs start i
    let (t, _) ← given (scanNumber.integer text)
    pure (t, i)

/-- The name from `start` on, and the index behind it. -/
def name (machine : Machine) (cs : List Char) (start : ℕ) : Run SyntaxFault (Token × ℕ) := do
  let i ← add machine.index start 1
  let i ← runEnd machine isNameContinue cs i
  let text ← slice cs start i
  pure (.ident (String.ofList text), i)

/-- Whether the character is a backslash with a character behind it. -/
def escapes (machine : Machine) (cs : List Char) (c : Char) (i : ℕ) : Run ε Bool := do
  if c = '\\' then
    let next ← add machine.index i 1
    pure (decide (next < cs.length))
  else pure false

/-- The text with what stands before the next quote, and the index behind the quote. -/
def quoted (machine : Machine) (cs : List Char) (i : ℕ) (text : List Char) :
    Run SyntaxFault (List Char × ℕ) := do
  if i < cs.length then
    let c ← item cs i
    if c = '"' then
      let i ← add machine.index i 1
      pure (text, i)
    else if ← escapes machine cs c i then
      let next ← add machine.index i 1
      let d ← item cs next
      let i ← add machine.index i 2
      machine |>.quoted cs i (text ++ [unescape d])
    else
      let i ← add machine.index i 1
      machine |>.quoted cs i (text ++ [c])
  else refuse .unterminatedString
partial_fixpoint

/-- The operator at the index, and the index behind it. -/
def operator (machine : Machine) (cs : List Char) (c : Char) (i : ℕ) :
    Run SyntaxFault (Token × ℕ) := do
  let next ← add machine.index i 1
  match scanOperator c cs[next]? with
  | some (t, n) =>
    let i ← add machine.index i (1 + n)
    pure (t, i)
  | none => refuse (.unexpectedCharacter c)

/-- The token at the index, which starts with `c`, and the index behind it. -/
def lexeme (machine : Machine) (cs : List Char) (c : Char) (i : ℕ) :
    Run SyntaxFault (Token × ℕ) := do
  if c.isDigit then number machine cs i
  else if isNameStart c then name machine cs i
  else if c = '"' then
    let i ← add machine.index i 1
    let (text, i) ← quoted machine cs i []
    pure (.str (String.ofList text), i)
  else operator machine cs c i

/-- The tokens with those from the index on. -/
def tokensFrom (machine : Machine) (cs : List Char) (i : ℕ) (tokens : List PlacedToken) :
    Run SyntaxError (List PlacedToken) := do
  if i < cs.length then
    let c ← item cs i
    let column ← add machine.index i 1
    if isBlank c then
      let i ← add machine.index i 1
      machine |>.tokensFrom cs i tokens
    else
      let (t, i) ← (lexeme machine cs c i).refusedAs (⟨·, column⟩)
      machine |>.tokensFrom cs i (tokens ++ [⟨t, column⟩])
  else pure tokens
partial_fixpoint

/-- The tokens of a line. -/
def tokenize (machine : Machine) (source : String) : Run SyntaxError (List PlacedToken) :=
  tokensFrom machine source.toList 0 []

/-! ### Characters by their index -/

section

variable {machine : Machine} {cs : List Char} {i : ℕ}

/-- An index inside of the characters finds its character. -/
lemma item_eq {c : Char} (front rest : List Char) (hcs : cs = front ++ c :: rest)
    (hi : i = front.length) : (item cs i : Run ε Char) = pure c := by
  rw [hcs, hi, item_length]

/-- Bounds inside of the characters find what is between them. -/
lemma slice_eq {start : ℕ} (front middle rest : List Char) (hcs : cs = front ++ (middle ++ rest))
    (hstart : start = front.length) (hi : i = start + middle.length) :
    (slice cs start i : Run ε (List Char)) = pure middle := by
  rw [hcs, hi, hstart, slice_length]

/-- The step behind a character does not overflow where all characters can be counted. -/
lemma add_one_eq (hfits : cs.length < machine.index) (hi : i ≤ cs.length) :
    (add machine.index i 1 : Run ε ℕ) = pure (i + 1) :=
  add_eq (by omega)

/-- The end of a run of characters is found without an overflow. -/
lemma runEnd_eq {P : Char → Bool} (front run rest : List Char)
    (hcs : cs = front ++ (run ++ rest)) (hi : i = front.length)
    (hfits : cs.length < machine.index) (hrun : ∀ c ∈ run, P c = true)
    (hrest : ∀ c ∈ rest.head?, P c = false) :
    (runEnd machine P cs i : Run ε ℕ) = pure (i + run.length) := by
  induction run generalizing front i with
  | nil =>
      rw [runEnd]
      cases rest with
      | nil => rw [if_neg (by simp [hcs, hi]), List.length_nil, Nat.add_zero]
      | cons c rest =>
          rw [if_pos (by simp [hcs, hi]), item_eq front rest hcs hi, pure_bind,
            if_neg (by simp [hrest c rfl])]
          rfl
  | cons c run ih =>
      obtain ⟨hc, hrun⟩ := List.forall_mem_cons.mp hrun
      have hlt : i < cs.length := by simp [hcs, hi]
      rw [runEnd, if_pos hlt, item_eq front (run ++ rest) hcs hi, pure_bind, if_pos hc,
        add_one_eq hfits hlt.le, pure_bind,
        ih (front ++ [c]) (by simp [hcs]) (by simp [hi]) hrun, List.length_cons]
      congr 1
      omega

/-! ### Numbers -/

/-- A point with a digit behind it starts a fraction, and nothing else does. -/
def startsFraction : List Char → Bool
  | '.' :: d :: _ => d.isDigit
  | _ => false

/-- A point starts a fraction if a digit is behind it. -/
lemma startsFraction_eq_false_iff {rest : List Char} :
    startsFraction rest = false ↔ ∀ d more, rest = '.' :: d :: more → d.isDigit = false := by
  rw [startsFraction.eq_def]
  split
  · simp
  next hother => simpa using fun d more h => absurd h (hother d more)

lemma exists_of_startsFraction {rest : List Char} (h : startsFraction rest = true) :
    ∃ d more, rest = '.' :: d :: more ∧ d.isDigit = true := by
  rw [startsFraction.eq_def] at h
  split at h
  · exact ⟨_, _, rfl, h⟩
  · cases h

/-- The machine looks two characters ahead for it. -/
lemma fractionFollows_eq (front rest : List Char) (hcs : cs = front ++ rest)
    (hi : i = front.length) (hfits : cs.length < machine.index) :
    (fractionFollows machine cs i : Run ε Bool) = pure (startsFraction rest) := by
  have hlength : cs.length = i + rest.length := by rw [hcs, hi, List.length_append]
  rw [fractionFollows, add_one_eq hfits (by omega), pure_bind]
  rcases rest with _ | ⟨c, _ | ⟨d, rest⟩⟩
  · rw [if_neg (by simp at hlength; omega)]
    rfl
  · rw [if_neg (by simp at hlength; omega), startsFraction.eq_def]
    simp
  · rw [if_pos (by simp at hlength; omega), item_eq front (d :: rest) hcs hi, pure_bind]
    by_cases hc : c = '.'
    · have hnext : (item cs (i + 1) : Run ε Char) = pure d :=
        item_eq (front ++ [c]) rest (by simp [hcs]) (by simp [hi])
      rw [if_pos hc, pure_bind, hnext, pure_bind, hc]
      rfl
    · rw [if_neg hc, startsFraction.eq_def]
      simp [hc]

/-- The number that digits with a point between them are read as. -/
lemma ofText?_fraction {c : Char} {whole fraction : List Char} (hwhole : Digits (c :: whole))
    (hfraction : Digits fraction) :
    Binary64.ofText? (String.ofList (c :: (whole ++ '.' :: fraction))) =
      some (Decimal.toBinary64 false
        ⟨Binary64.digitsValue (c :: whole ++ fraction), -fraction.length⟩) := by
  have hc := hwhole.2 c List.mem_cons_self
  rw [Binary64.ofText?_of_isDigit String.toList_ofList hc, ← List.cons_append,
    Binary64.decimal?_of_fraction hwhole.1 hwhole.2 hfraction.2, Option.map_some]

/-- What a number is for the machine and for the lexer. -/
lemma number_eq {c : Char} (front rest : List Char) (hcs : cs = front ++ c :: rest)
    (hi : i = front.length) (hfits : cs.length < machine.index) (hc : c.isDigit = true) :
    number machine cs i = given ((scanNumber c rest).map fun (t, n) => (t, i + 1 + n)) := by
  obtain ⟨digits, after, rfl, hdigits, hnext⟩ := exists_eq_append Char.isDigit rest
  have hwhole : ∀ d ∈ c :: digits, d.isDigit = true := List.forall_mem_cons.mpr ⟨hc, hdigits⟩
  have hbehind : i + (c :: digits).length = (front ++ (c :: digits)).length := by
    rw [hi, List.length_append]
  rw [number, runEnd_eq front (c :: digits) after hcs hi hfits hwhole hnext, pure_bind,
    fractionFollows_eq (front ++ (c :: digits)) after (by simp [hcs]) hbehind hfits, pure_bind]
  -- behind the digits, a point without a digit is left to the next token
  cases hfraction : startsFraction after with
  | false =>
      rw [startsFraction_eq_false_iff] at hfraction
      rw [if_neg (by simp), slice_eq front (c :: digits) after hcs hi rfl, pure_bind,
        scanNumber_of_digits hdigits hnext hfraction]
      rcases hinteger : scanNumber.integer (c :: digits) with fault | ⟨t, n⟩
      · rfl
      · obtain ⟨k, rfl, -, rfl⟩ := integer_eq_ok_iff.mp hinteger
        have hend : i + (c :: digits).length = i + 1 + ((c :: digits).length - 1) := by
          rw [List.length_cons]
          omega
        rw [hend]
        rfl
  | true =>
      obtain ⟨d, more, rfl, hd⟩ := exists_of_startsFraction hfraction
      obtain ⟨ds, rest, rfl, hds, hend⟩ := exists_eq_append Char.isDigit more
      have hfraction : Digits (d :: ds) :=
        ⟨List.cons_ne_nil d ds, List.forall_mem_cons.mpr ⟨hd, hds⟩⟩
      have hnumber : Digits (c :: digits) := ⟨List.cons_ne_nil c digits, hwhole⟩
      have hpoint : (add machine.index (i + (c :: digits).length) 1 : Run SyntaxFault ℕ) = _ :=
        add_one_eq hfits (by simp [hcs, hi])
      rw [if_pos rfl, hpoint, pure_bind,
        runEnd_eq (front ++ c :: (digits ++ ['.'])) (d :: ds) rest (by simp [hcs])
          (by simp [hi]; omega) hfits hfraction.2 hend, pure_bind,
        slice_eq front (c :: (digits ++ '.' :: d :: ds)) rest (by simp [hcs]) hi (by simp; omega),
        pure_bind, ofText?_fraction hnumber hfraction,
        scanNumber_of_fraction hdigits hfraction.2 hend]
      have hlength : i + (c :: digits).length + 1 + (d :: ds).length =
          i + 1 + (digits.length + 1 + (d :: ds).length) := by
        rw [List.length_cons]
        omega
      rw [hlength]
      rfl

/-! ### Other tokens -/

/-- A name is read to its end. -/
lemma name_eq {c : Char} (front rest : List Char) (hcs : cs = front ++ c :: rest)
    (hi : i = front.length) (hfits : cs.length < machine.index) :
    name machine cs i =
      pure (.ident (String.ofList (c :: rest.takeWhile isNameContinue)),
        i + 1 + (rest.takeWhile isNameContinue).length) := by
  obtain ⟨tail, after, rfl, htail, hnext⟩ := exists_eq_append isNameContinue rest
  have hstep : (add machine.index i 1 : Run SyntaxFault ℕ) = pure (i + 1) :=
    add_one_eq hfits (by simp [hcs, hi])
  rw [name, hstep, pure_bind, runEnd_eq (front ++ [c]) tail after (by simp [hcs]) (by simp [hi])
    hfits htail hnext, pure_bind, slice_eq front (c :: tail) after (by simp [hcs]) hi
    (by rw [List.length_cons]; omega), pure_bind, Text.takeWhile_append htail hnext]

/-- A backslash escapes a character if there is one. -/
lemma escapes_eq {c : Char} (front rest : List Char) (hcs : cs = front ++ c :: rest)
    (hi : i = front.length) (hfits : cs.length < machine.index) :
    (escapes machine cs c i : Run ε Bool) = pure (decide (c = '\\' ∧ rest ≠ [])) := by
  have hlength : cs.length = i + (rest.length + 1) := by simp [hcs, hi]
  rw [escapes]
  by_cases hc : c = '\\'
  · rw [if_pos hc, add_one_eq hfits (by omega), pure_bind]
    rcases rest with _ | ⟨d, rest⟩
    · simp [hlength]
    · simp [hlength, hc]
  · simp [hc]

/-- What stands between quotes is for the machine what it is for the lexer. -/
lemma quoted_eq (front rest text : List Char) (hcs : cs = front ++ rest) (hi : i = front.length)
    (hfits : cs.length < machine.index) :
    quoted machine cs i text =
      match scanString rest with
      | some (more, n) => pure (text ++ more, i + n)
      | none => refuse .unterminatedString := by
  -- the program keeps the text read so far, the lexer puts characters before the rest of it
  induction rest using scanString.induct generalizing front i text with
  | case1 =>
      rw [quoted, if_neg (by simp [hcs, hi])]
      rfl
  | case2 rest =>
      have hlt : i < cs.length := by simp [hcs, hi]
      rw [quoted, if_pos hlt, item_eq front rest hcs hi, pure_bind, if_pos rfl,
        add_one_eq hfits hlt.le, pure_bind, scanString]
      simp only [List.append_nil]
  | case3 c rest ih =>
      have hlt : i + 1 < cs.length := by simp [hcs, hi]
      have hnext : (item cs (i + 1) : Run SyntaxFault Char) = pure c :=
        item_eq (front ++ ['\\']) rest (by simp [hcs]) (by simp [hi])
      have hstep : (add machine.index i 2 : Run SyntaxFault ℕ) = pure (i + 2) :=
        add_eq (by omega)
      rw [quoted, if_pos (by omega), item_eq front (c :: rest) hcs hi, pure_bind,
        if_neg (by decide), escapes_eq front (c :: rest) hcs hi hfits, pure_bind,
        if_pos (by simp), add_one_eq hfits (by omega), pure_bind, hnext, pure_bind, hstep,
        pure_bind, ih (front ++ ['\\', c]) (text ++ [unescape c]) (by simp [hcs]) (by simp [hi]),
        scanString]
      rcases scanString rest with _ | ⟨more, n⟩
      · rfl
      · simp only [Option.map_some, List.append_assoc, List.singleton_append, Nat.add_assoc,
          Nat.add_comm 2]
  | case4 c rest hquote hbackslash ih =>
      have hlt : i < cs.length := by simp [hcs, hi]
      have hplain : ¬ (c = '\\' ∧ rest ≠ []) := by
        rintro ⟨rfl, hrest⟩
        obtain ⟨d, ds, rfl⟩ := List.exists_cons_of_ne_nil hrest
        exact hbackslash d ds rfl rfl
      rw [quoted, if_pos hlt, item_eq front rest hcs hi, pure_bind, if_neg hquote,
        escapes_eq front rest hcs hi hfits, pure_bind, if_neg (by simpa using hplain),
        add_one_eq hfits hlt.le, pure_bind,
        ih (front ++ [c]) (text ++ [c]) (by simp [hcs]) (by simp [hi]),
        scanString.eq_4 c rest hquote hbackslash]
      rcases scanString rest with _ | ⟨more, n⟩
      · rfl
      · simp only [Option.map_some, List.append_assoc, List.singleton_append, Nat.add_assoc,
          Nat.add_comm 1]

/-- An operator is read with one character ahead. -/
lemma operator_eq {c : Char} (front rest : List Char) (hcs : cs = front ++ c :: rest)
    (hi : i = front.length) (hfits : cs.length < machine.index) :
    operator machine cs c i =
      match scanOperator c rest.head? with
      | some (t, n) => pure (t, i + 1 + n)
      | none => refuse (.unexpectedCharacter c) := by
  have hlength : cs.length = i + (rest.length + 1) := by simp [hcs, hi]
  have hnext : cs[i + 1]? = rest.head? := by
    rw [hcs, hi, List.getElem?_append_right (by omega), Nat.add_sub_cancel_left,
      List.getElem?_cons_succ, List.head?_eq_getElem?]
  rw [operator, add_one_eq hfits (by omega), pure_bind, hnext]
  rcases hscan : scanOperator c rest.head? with _ | ⟨t, n⟩
  · rfl
  · have hn : n ≤ rest.length := by
      rcases scanOperator_eq_some_iff.mp hscan with ⟨-, rfl, -⟩ | ⟨-, rfl, hhead⟩
      · exact Nat.zero_le _
      · obtain ⟨more, rfl⟩ := List.head?_eq_some_iff.mp hhead
        simp
    have hend : (add machine.index i (1 + n) : Run SyntaxFault ℕ) = pure (i + 1 + n) := by
      rw [add_eq (by omega), Nat.add_assoc]
    simp only [hend, pure_bind]

/-- **What is found at an index** is the token there, and where it ends. -/
lemma lexeme_eq {c : Char} (front rest : List Char) (hcs : cs = front ++ c :: rest)
    (hi : i = front.length) (hfits : cs.length < machine.index) :
    lexeme machine cs c i = given ((scan c rest).map fun (t, n) => (t, i + 1 + n)) := by
  have hstep : (add machine.index i 1 : Run SyntaxFault ℕ) = pure (i + 1) :=
    add_one_eq hfits (by simp [hcs, hi])
  rw [lexeme, scan]
  split_ifs with hdigit hstart hquote
  · exact number_eq front rest hcs hi hfits hdigit
  · exact name_eq front rest hcs hi hfits
  · rw [hstep, pure_bind, quoted_eq (front ++ [c]) rest [] (by simp [hcs]) (by simp [hi]) hfits]
    rcases scanString rest with _ | ⟨text, n⟩ <;> rfl
  · rw [operator_eq front rest hcs hi hfits]
    rcases scanOperator c rest.head? with _ | ⟨t, n⟩ <;> rfl

/-! ### Lines -/

/-- From any place on the machine finds the tokens of the lexer, or its fault. -/
lemma tokensFrom_eq (front rest : List Char) (tokens : List PlacedToken)
    (hcs : cs = front ++ rest) (hi : i = front.length) (hfits : cs.length < machine.index) :
    tokensFrom machine cs i tokens =
      given ((tokenizeFrom (i + 1) rest).map (tokens ++ ·)) := by
  generalize hcolumn : i + 1 = column
  induction column, rest using tokens_induction generalizing front i tokens with
  | nil column =>
      rw [tokensFrom, if_neg (by simp [hcs, hi]), tokenizeFrom_nil, Except.map, given_ok,
        List.append_nil]
  | blank column c rest hc ih =>
      have hlt : i < cs.length := by simp [hcs, hi]
      rw [tokensFrom, if_pos hlt, item_eq front rest hcs hi, pure_bind, add_one_eq hfits hlt.le,
        pure_bind, if_pos hc, pure_bind, tokenizeFrom_blank hc,
        ih (front ++ [c]) tokens (by simp [hcs]) (by simp [hi]) (by rw [hcolumn])]
  | lexeme column text rest t ht hstops ih =>
      obtain ⟨c, tail, rfl, hc⟩ := ht.exists_cons
      have hlt : i < cs.length := by simp [hcs, hi]
      have hcs : cs = front ++ c :: (tail ++ rest) := hcs
      have hlexeme : lexeme machine cs c i = pure (t, i + (c :: tail).length) := by
        rw [lexeme_eq front (tail ++ rest) hcs hi hfits, ht.scan hstops, List.length_cons,
          Nat.add_comm tail.length, ← Nat.add_assoc]
        rfl
      rw [tokensFrom, if_pos hlt, item_eq front (tail ++ rest) hcs hi, pure_bind,
        add_one_eq hfits hlt.le, pure_bind, if_neg (by simp [hc]), hlexeme,
        tokenizeFrom_lexeme ht hstops]
      have hrest : tokensFrom machine cs (i + (c :: tail).length) (tokens ++ [⟨t, column⟩]) = _ :=
        ih (front ++ c :: tail) (tokens ++ [⟨t, column⟩]) (by simp [hcs]) (by simp [hi]) (by omega)
      rw [← hcolumn] at hrest ⊢
      refine hrest.trans ?_
      rcases tokenizeFrom (i + 1 + (c :: tail).length) rest with e | others
      · rfl
      · exact congrArg pure (List.append_assoc _ _ _)
  | fault column c rest fault hc hscan =>
      have hlt : i < cs.length := by simp [hcs, hi]
      rw [tokensFrom, if_pos hlt, item_eq front rest hcs hi, pure_bind, add_one_eq hfits hlt.le,
        pure_bind, if_neg (by simp [hc]), lexeme_eq front rest hcs hi hfits, hscan,
        tokenizeFrom_fault hc hscan, ← hcolumn]
      rfl

end

/-- Lines that the machine can count the characters of have the tokens that the lexer gives them. -/
theorem tokenize_eq {machine : Machine} {source : String} (hfits : source.length < machine.index) :
    tokenize machine source = given (Calc.tokenize source) := by
  have hline : tokensFrom machine source.toList 0 [] = _ :=
    tokensFrom_eq [] source.toList [] rfl rfl (by rwa [String.length_toList])
  rw [tokenize, hline, Calc.tokenize]
  rcases tokenizeFrom 1 source.toList with e | tokens <;> rfl

end LineRepl.Machine
