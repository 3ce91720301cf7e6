/-
Lexemes: the characters that the lexer reads as one token.

What a lexeme stands for is told by its characters alone. Where it ends depends on what comes behind
it, because the lexer takes as many characters as it can.

* `decimalValue`, `Escape`: what digits and characters behind a backslash stand for.
* `Spells`: the characters are a lexeme of the token.
* `Lexeme`: they are one of any token, or the digits of a number that no token can hold.
* `Stops`: the characters behind a lexeme do not go on with it.
* `Spells.scan`, `exists_of_scan`: the lexer reads lexemes of tokens, up to where they stop.
* `stops_iff_longest`: a lexeme stops where it is as long as it can be.
-/
import LineRepl.Proofs.Binary64.Rounding
import LineRepl.Proofs.Calc.Identifier
import Mathlib.Data.Nat.Digits.Defs

namespace LineRepl.Calc

open Binary64 (RoundsTo digitsValue)
open Text (isBlank isNameContinue isNameStart)

/-! ### What lexemes stand for -/

/-- Decimal digits, at least one. -/
def Digits (cs : List Char) : Prop := cs ≠ [] ∧ ∀ c ∈ cs, c.isDigit = true

/-- The number that decimal digits stand for, of which the last one counts units, the one before it
tens, and so on. -/
def decimalValue (digits : List Char) : ℕ :=
  Nat.ofDigits 10 (digits.reverse.map fun c => c.toNat - '0'.toNat)

/-- What a character behind a backslash stands for: an `n` for the end of a line, a `t` for a
tabulator, and any other character for itself. -/
inductive Escape : Char → Char → Prop where
  | newline : Escape 'n' '\n'
  | tab : Escape 't' '\t'
  | itself {c : Char} : c ≠ 'n' → c ≠ 't' → Escape c c

/-- What may stand between quotes, and the text that it stands for. A quote or a backslash of the
text has to have a backslash before it, and every other character may. -/
inductive Quotes : List Char → List Char → Prop where
  | nil : Quotes [] []
  | plain {c : Char} {cs text : List Char} :
      c ≠ '"' → c ≠ '\\' → Quotes cs text → Quotes (c :: cs) (c :: text)
  | escaped {c d : Char} {cs text : List Char} :
      Escape c d → Quotes cs text → Quotes ('\\' :: c :: cs) (d :: text)

/-- The operators and marks of one character. -/
def symbols : List (Char × Token) :=
  [('=', .assign), ('<', .lt), ('>', .gt), ('+', .plus), ('-', .minus), ('*', .star), ('/', .slash),
    ('%', .percent), ('(', .openParen), (')', .closeParen), ('[', .openBracket),
    (']', .closeBracket), (',', .comma)]

/-- The operators of two characters, by the first one. The second is an equality sign. -/
def equalitySymbols : List (Char × Token) := [('=', .eq), ('!', .ne), ('<', .le), ('>', .ge)]

/-- The characters spell the token: an integer has their decimal value, a number with a point is
what their decimal value rounds to, a name is the characters themselves, and a text is what stands
between the quotes. -/
inductive Spells : List Char → Token → Prop where
  | int {cs : List Char} {n : Int64} : Digits cs → n.toInt = decimalValue cs → Spells cs (.int n)
  | float {whole fraction : List Char} {x : Binary64} : Digits whole → Digits fraction →
      RoundsTo ((decimalValue (whole ++ fraction) : ℚ) / 10 ^ fraction.length) x →
      Spells (whole ++ '.' :: fraction) (.float x)
  | ident {c : Char} {cs : List Char} : isNameStart c = true →
      (∀ d ∈ cs, isNameContinue d = true) → Spells (c :: cs) (.ident (String.ofList (c :: cs)))
  | str {cs text : List Char} : Quotes cs text →
      Spells ('"' :: (cs ++ ['"'])) (.str (String.ofList text))
  | symbol {c : Char} {t : Token} : (c, t) ∈ symbols → Spells [c] t
  | equality {c : Char} {t : Token} : (c, t) ∈ equalitySymbols → Spells [c, '='] t

/-- The characters spell a token, or they are digits, which the lexer does not part even where their
value is too large for a token. -/
def Lexeme (cs : List Char) : Prop := Digits cs ∨ ∃ t, Spells cs t

/-- The characters before `rest` are as many as can be one lexeme. -/
def Longest (cs rest : List Char) : Prop :=
  ∀ more, more <+: rest → Lexeme (cs ++ more) → more = []

/-! ### Where lexemes stop -/

/-- The character goes on with every lexeme of the token. -/
def Token.goesOn : Token → Char → Bool
  | .int _, c | .float _, c => c.isDigit
  | .ident _, c => isNameContinue c
  | .assign, c | .lt, c | .gt, c => c == '='
  | .str _, _ | .plus, _ | .minus, _ | .star, _ | .slash, _ | .percent, _ | .openParen, _
  | .closeParen, _ | .openBracket, _ | .closeBracket, _ | .comma, _ | .eq, _ | .ne, _ | .le, _
  | .ge, _ => false

/-- What comes behind a lexeme of the token does not go on with it, neither with its next character
nor, behind an integer, with a fraction. -/
structure Stops (t : Token) (rest : List Char) : Prop where
  next : ∀ c ∈ rest.head?, t.goesOn c = false
  fraction : ∀ n c more, t = .int n → rest = '.' :: c :: more → c.isDigit = false

/-- A blank ends every token. -/
lemma goesOn_of_isBlank {c : Char} (t : Token) (h : isBlank c = true) : t.goesOn c = false := by
  have hdigit : c.isDigit = false := by
    by_contra hc
    rw [Text.isBlank_eq_false_of_isDigit (Bool.not_eq_false _ ▸ hc)] at h
    cases h
  have hname : isNameContinue c = false := by
    by_contra hc
    rw [Text.isBlank_eq_false_of_isNameContinue (Bool.not_eq_false _ ▸ hc)] at h
    cases h
  have hequals : (c == '=') = false := by
    rw [beq_eq_false_iff_ne]
    rintro rfl
    exact absurd h (by decide)
  cases t <;> first | exact hdigit | exact hname | exact hequals | rfl

namespace Stops

variable {t : Token} {rest more : List Char}

lemma nil (t : Token) : Stops t [] := ⟨by simp, by simp⟩

/-- A token that nothing goes on with stops anywhere. -/
lemma of_goesOn (h : ∀ c, t.goesOn c = false) (rest : List Char) : Stops t rest := by
  refine ⟨fun c _ => h c, ?_⟩
  rintro n _ _ rfl -
  exact nomatch h '0'

/-- A lexeme stops where fewer characters come behind it. -/
lemma of_prefix (h : Stops t rest) (hmore : more <+: rest) : Stops t more := by
  obtain ⟨others, rfl⟩ := hmore
  constructor
  · intro c hc
    cases more with
    | nil => cases hc
    | cons d ds => exact h.next c hc
  · rintro n c ds ht rfl
    exact h.fraction n c (ds ++ others) ht rfl

/-- A lexeme stops before a blank. -/
lemma append_blank {c : Char} (h : Stops t rest) (hc : isBlank c = true) (more : List Char) :
    Stops t (rest ++ c :: more) := by
  rcases rest with _ | ⟨d, _ | ⟨e, ds⟩⟩
  · constructor
    · rintro _ ⟨⟩
      exact goesOn_of_isBlank t hc
    · rintro n d ds - hrest
      cases hrest
      exact absurd hc (by decide)
  · constructor
    · exact h.next
    · rintro n e ds - hrest
      cases hrest
      exact goesOn_of_isBlank (.int n) hc
  · constructor
    · exact h.next
    · rintro n e' ds' ht hrest
      cases hrest
      exact h.fraction n e ds ht rfl

end Stops

/-! ### Reading a lexeme -/

/-- Digits are read from the front, each one with ten times what was read before. -/
lemma digitsValue_eq_decimalValue (cs : List Char) : digitsValue cs = decimalValue cs := by
  induction cs using List.reverseRecOn with
  | nil => rfl
  | append_singleton cs c ih =>
      rw [decimalValue] at ih
      rw [decimalValue, List.reverse_append, List.reverse_singleton, List.singleton_append,
        List.map_cons, Nat.ofDigits_cons, ← ih, digitsValue, List.foldl_append, Nat.add_comm]
      rfl

/-- The character behind a backslash is read as an escape. -/
lemma escape_unescape (c : Char) : Escape c (unescape c) := by
  rw [unescape.eq_def]
  split
  · exact .newline
  · exact .tab
  next hn ht => exact .itself hn ht

/-- No other character is escaped so. -/
lemma Escape.unescape_eq {c d : Char} (h : Escape c d) : unescape c = d := by
  cases h with
  | newline | tab => rfl
  | itself hn ht => exact unescape.eq_3 c hn ht

/-- A quoted text is read up to the quote that closes it. -/
lemma Quotes.scanString {cs text : List Char} (h : Quotes cs text) (rest : List Char) :
    scanString (cs ++ '"' :: rest) = some (text, cs.length + 1) := by
  induction h with
  | nil => rfl
  | @plain c cs text hquote hbackslash _ ih =>
      rw [List.cons_append, Calc.scanString, ih]
      · rfl
      · exact hquote
      · intro _ _ h
        exact absurd h hbackslash
  | @escaped c d cs text hc _ ih =>
      rw [List.cons_append, List.cons_append, Calc.scanString, ih, Option.map_some, hc.unescape_eq]
      rfl

/-- Quoted texts end at the first quote that has no backslash before it. -/
lemma exists_of_scanString {cs text : List Char} {n : ℕ} (h : scanString cs = some (text, n)) :
    ∃ front rest, cs = front ++ '"' :: rest ∧ n = front.length + 1 ∧ Quotes front text := by
  induction cs using scanString.induct generalizing text n with
  | case1 => simp [scanString] at h
  | case2 rest =>
      rw [scanString] at h
      cases h
      exact ⟨[], rest, rfl, rfl, .nil⟩
  | case3 c rest ih =>
      rw [scanString, Option.map_eq_some_iff] at h
      obtain ⟨⟨text', n'⟩, hrest, ⟨⟩⟩ := h
      obtain ⟨front, rest', rfl, rfl, hfront⟩ := ih hrest
      exact ⟨'\\' :: c :: front, rest', rfl, rfl, .escaped (escape_unescape c) hfront⟩
  | case4 c rest hquote hbackslash ih =>
      rw [scanString, Option.map_eq_some_iff] at h
      · obtain ⟨⟨text', n'⟩, hrest, ⟨⟩⟩ := h
        obtain ⟨front, rest', rfl, rfl, hfront⟩ := ih hrest
        refine ⟨c :: front, rest', rfl, rfl, .plain hquote ?_ hfront⟩
        -- a backslash before the closing quote would take it into the text
        rintro rfl
        cases front with
        | nil => exact hbackslash '"' rest' rfl rfl
        | cons d ds => exact hbackslash d (ds ++ '"' :: rest') rfl rfl
      · exact hquote
      · exact hbackslash

/-! ### Numbers -/

lemma digits_singleton {c : Char} (hc : c.isDigit = true) : Digits [c] :=
  ⟨List.cons_ne_nil c [], List.forall_mem_singleton.mpr hc⟩

/-- Digits behind digits are digits. -/
lemma Digits.append {cs rest : List Char} (h : Digits cs) (hrest : ∀ d ∈ rest, d.isDigit = true) :
    Digits (cs ++ rest) :=
  ⟨List.append_ne_nil_of_left_ne_nil h.1 rest, List.forall_mem_append.mpr ⟨h.2, hrest⟩⟩

/-- Digits are an integer if they have its value, and are refused if no integer has it. -/
lemma integer_eq_ok_iff {digits : List Char} {t : Token} {n : ℕ} :
    scanNumber.integer digits = .ok (t, n) ↔
      ∃ k : Int64, t = .int k ∧ k.toInt = decimalValue digits ∧ n = digits.length - 1 := by
  rw [scanNumber.integer, ← digitsValue_eq_decimalValue]
  split_ifs with hlt
  · have hvalue : (Int64.ofNat (digitsValue digits)).toInt = digitsValue digits :=
      Int64.toInt_ofNat_of_lt hlt
    simp only [Except.ok.injEq, Prod.mk.injEq]
    constructor
    · rintro ⟨rfl, rfl⟩
      exact ⟨_, rfl, hvalue, rfl⟩
    · rintro ⟨k, rfl, hk, rfl⟩
      exact ⟨congrArg Token.int (Int64.toInt_inj.mp (hvalue.trans hk.symm)), rfl⟩
  · simp only [false_iff, not_exists, not_and]
    intro k _ hk
    have hhigh : k.toInt ≤ Int64.maxValue.toInt := Int64.toInt_le k
    rw [Int64.toInt_maxValue] at hhigh
    omega

/-- Digits with a point among them stand for a decimal. -/
lemma roundsTo_fraction_iff {digits : List Char} {k : ℕ} {x : Binary64} :
    RoundsTo ((decimalValue digits : ℚ) / 10 ^ k) x ↔
      x = Decimal.toBinary64 false ⟨digitsValue digits, -k⟩ := by
  rw [← Decimal.roundsTo_iff_eq_toBinary64, Decimal.value, zpow_neg, zpow_natCast,
    ← div_eq_mul_inv, digitsValue_eq_decimalValue]

/-- Digits with a point among them spell a number. -/
lemma spells_float {whole fraction : List Char} (hwhole : Digits whole)
    (hfraction : Digits fraction) :
    Spells (whole ++ '.' :: fraction)
      (.float (Decimal.toBinary64 false ⟨digitsValue (whole ++ fraction), -fraction.length⟩)) :=
  .float hwhole hfraction (roundsTo_fraction_iff.mpr rfl)

section

variable {c : Char} {cs rest : List Char}

/-- Digits without a fraction behind them are read as an integer. -/
lemma scanNumber_of_digits (hcs : ∀ d ∈ cs, d.isDigit = true)
    (hnext : ∀ d ∈ rest.head?, d.isDigit = false)
    (hfraction : ∀ d more, rest = '.' :: d :: more → d.isDigit = false) :
    scanNumber c (cs ++ rest) = scanNumber.integer (c :: cs) := by
  rw [scanNumber]
  simp only [Text.takeWhile_append hcs hnext, Text.dropWhile_append hcs hnext]
  split
  · rw [if_neg (by simp [hfraction _ _ rfl])]
  · rfl

/-- Digits with a fraction behind them are read as the number nearest to their value. -/
lemma scanNumber_of_fraction {d : Char} {ds : List Char} (hcs : ∀ d ∈ cs, d.isDigit = true)
    (hds : ∀ e ∈ d :: ds, e.isDigit = true) (hnext : ∀ e ∈ rest.head?, e.isDigit = false) :
    scanNumber c (cs ++ '.' :: d :: (ds ++ rest)) =
      .ok (.float (Decimal.toBinary64 false
        ⟨digitsValue (c :: cs ++ d :: ds), -(d :: ds).length⟩),
        cs.length + 1 + (d :: ds).length) := by
  have hpoint : ∀ e ∈ ('.' :: d :: (ds ++ rest)).head?, e.isDigit = false := by
    rintro _ ⟨⟩
    rfl
  obtain ⟨hd, hds⟩ := List.forall_mem_cons.mp hds
  rw [scanNumber]
  simp only [Text.takeWhile_append hcs hpoint, Text.dropWhile_append hcs hpoint, if_pos hd,
    Text.takeWhile_append hds hnext, List.length_cons]

end

/-- A text starts with the characters of a kind up to the first of another kind. -/
lemma exists_eq_append (P : Char → Bool) (cs : List Char) :
    ∃ front rest, cs = front ++ rest ∧ (∀ c ∈ front, P c = true) ∧
      ∀ c ∈ rest.head?, P c = false := by
  induction cs with
  | nil => exact ⟨[], [], rfl, by simp, by simp⟩
  | cons c cs ih =>
      cases hc : P c with
      | true =>
          obtain ⟨front, rest, rfl, hfront, hrest⟩ := ih
          exact ⟨c :: front, rest, rfl, List.forall_mem_cons.mpr ⟨hc, hfront⟩, hrest⟩
      | false => exact ⟨[], c :: cs, rfl, by simp, by simp [hc]⟩

/-- A number that starts with given digits goes on from there up to where it stops. -/
lemma exists_of_scanNumber {c : Char} {digits rest : List Char} {t : Token} {n : ℕ}
    (hdigits : Digits (c :: digits)) (h : scanNumber c (digits ++ rest) = .ok (t, n)) :
    ∃ more left, rest = more ++ left ∧ n = (digits ++ more).length ∧
      Spells (c :: (digits ++ more)) t ∧ Stops t left := by
  obtain ⟨more, rest, rfl, hmore, hnext⟩ := exists_eq_append Char.isDigit rest
  have hwhole : Digits (c :: (digits ++ more)) := hdigits.append hmore
  have hfront : ∀ d ∈ digits ++ more, d.isDigit = true := (List.forall_mem_cons.mp hwhole.2).2
  rw [← List.append_assoc] at h
  by_cases hfraction : ∀ d ds, rest = '.' :: d :: ds → d.isDigit = false
  · rw [scanNumber_of_digits hfront hnext hfraction, integer_eq_ok_iff] at h
    obtain ⟨k, rfl, hk, rfl⟩ := h
    exact ⟨more, rest, rfl, rfl, .int hwhole hk, hnext, fun _ d ds _ => hfraction d ds⟩
  · push Not at hfraction
    obtain ⟨d, ds, rfl, hd⟩ := hfraction
    obtain ⟨ds, rest, rfl, hds, hnext⟩ := exists_eq_append Char.isDigit ds
    have hdigits : ∀ e ∈ d :: ds, e.isDigit = true :=
      List.forall_mem_cons.mpr ⟨Bool.not_eq_false _ ▸ hd, hds⟩
    rw [scanNumber_of_fraction hfront hdigits hnext] at h
    cases h
    refine ⟨more ++ '.' :: d :: ds, rest, by simp, by simp; omega, ?_, hnext, by simp⟩
    rw [← List.append_assoc]
    exact spells_float hwhole ⟨List.cons_ne_nil d ds, hdigits⟩

/-! ### Operators and marks -/

/-- An equality sign belongs to the operator before it. -/
lemma scanOperator_eq_some_iff {c : Char} {next : Option Char} {t : Token} {n : ℕ} :
    scanOperator c next = some (t, n) ↔
      (c, t) ∈ symbols ∧ n = 0 ∧ (∀ d ∈ next, t.goesOn d = false) ∨
        (c, t) ∈ equalitySymbols ∧ n = 1 ∧ next = some '=' := by
  constructor
  · intro h
    unfold scanOperator at h
    split at h <;> cases h <;> simp_all [symbols, equalitySymbols, Token.goesOn]
    all_goals
      rintro _ rfl rfl
      contradiction
  · rintro (⟨hmem, rfl, hnext⟩ | ⟨hmem, rfl, rfl⟩)
    · rcases next with _ | d <;> fin_cases hmem <;>
        simp_all [scanOperator, Token.goesOn]
    · fin_cases hmem <;> rfl

/-! ### One token -/

lemma ne_int_of_symbol {c : Char} {t : Token} (h : (c, t) ∈ symbols) (n : Int64) : t ≠ .int n := by
  rintro rfl
  simp [symbols] at h

/-- Nothing goes on with an operator of two characters. -/
lemma goesOn_equality {c : Char} {t : Token} (h : (c, t) ∈ equalitySymbols) (d : Char) :
    t.goesOn d = false := by
  have hall : ∀ s ∈ equalitySymbols, s.2.goesOn d = false := by
    simp [equalitySymbols, Token.goesOn]
  exact hall _ h

/-- Operators and marks are told from all other lexemes by their first characters. -/
lemma symbol_chars : ∀ s ∈ symbols ++ equalitySymbols,
    s.1.isDigit = false ∧ isNameStart s.1 = false ∧ s.1 ≠ '"' ∧ isBlank s.1 = false := by
  decide +kernel

section

variable {c : Char} {cs rest : List Char} {t : Token} {n : ℕ}

/-- What is read as an operator is the token of its symbol. -/
lemma scan_of_symbol {found : Token × ℕ} (h : (c, t) ∈ symbols ++ equalitySymbols)
    (hoperator : scanOperator c cs.head? = some found) : scan c cs = .ok found := by
  obtain ⟨hdigit, hstart, hquote, -⟩ := symbol_chars _ h
  rw [scan, if_neg (by simp [hdigit]), if_neg (by simp [hstart]), if_neg hquote, hoperator]

/-- A lexeme is read as the token that it spells, where it stops. -/
lemma Spells.scan (h : Spells (c :: cs) t) (hrest : Stops t rest) :
    scan c (cs ++ rest) = .ok (t, cs.length) := by
  generalize hlexeme : c :: cs = lexeme at h
  cases h with
  | @int _ n hdigits hn =>
      subst hlexeme
      obtain ⟨hc, hcs⟩ := List.forall_mem_cons.mp hdigits.2
      rw [Calc.scan, if_pos hc, scanNumber_of_digits hcs hrest.next
        fun d more hd => hrest.fraction n d more rfl hd, integer_eq_ok_iff]
      exact ⟨n, rfl, hn, rfl⟩
  | @float whole fraction x hwhole hfraction hx =>
      obtain rfl := roundsTo_fraction_iff.mp hx
      obtain ⟨d, ds, rfl⟩ := List.exists_cons_of_ne_nil hfraction.1
      obtain ⟨c', whole, rfl⟩ := List.exists_cons_of_ne_nil hwhole.1
      rw [List.cons_append, List.cons.injEq] at hlexeme
      obtain ⟨rfl, rfl⟩ := hlexeme
      obtain ⟨hc, hcs⟩ := List.forall_mem_cons.mp hwhole.2
      have hlength : (whole ++ '.' :: d :: ds).length = whole.length + 1 + (d :: ds).length := by
        rw [List.length_append, List.length_cons, Nat.add_assoc, Nat.add_comm 1]
      rw [Calc.scan, if_pos hc, List.append_assoc, List.cons_append, List.cons_append,
        scanNumber_of_fraction hcs hfraction.2 hrest.next, hlength]
  | ident hstart hcs =>
      cases hlexeme
      have hdigit := Text.isDigit_eq_false_of_isNameStart hstart
      rw [Calc.scan, if_neg (by simp [hdigit]), if_pos hstart]
      simp only [Text.takeWhile_append hcs hrest.next]
  | @str front text hfront =>
      cases hlexeme
      rw [Calc.scan, if_neg (by decide), if_neg (by decide +kernel), if_pos rfl, List.append_assoc,
        List.singleton_append, hfront.scanString, List.length_append]
      rfl
  | symbol hmem =>
      cases hlexeme
      exact scan_of_symbol (List.mem_append_left _ hmem)
        (scanOperator_eq_some_iff.mpr (.inl ⟨hmem, rfl, hrest.next⟩))
  | equality hmem =>
      cases hlexeme
      exact scan_of_symbol (List.mem_append_right _ hmem)
        (scanOperator_eq_some_iff.mpr (.inr ⟨hmem, rfl, rfl⟩))

/-- What is read as a token is a lexeme of it, up to where it stops. -/
lemma exists_of_scan (h : scan c cs = .ok (t, n)) :
    ∃ front rest, cs = front ++ rest ∧ n = front.length ∧ Spells (c :: front) t ∧
      Stops t rest := by
  rw [scan] at h
  split_ifs at h with hdigit hstart hquote
  · exact exists_of_scanNumber (digits_singleton hdigit) h
  · obtain ⟨front, rest, rfl, hfront, hnext⟩ := exists_eq_append isNameContinue cs
    simp only [Text.takeWhile_append hfront hnext] at h
    cases h
    exact ⟨front, rest, rfl, rfl, .ident hstart hfront, hnext, by simp⟩
  · cases hstring : scanString cs with
    | none => rw [hstring] at h; cases h
    | some found =>
        rw [hstring] at h
        cases h
        obtain ⟨front, rest, rfl, hn, hfront⟩ := exists_of_scanString hstring
        rw [hquote]
        exact ⟨front ++ ['"'], rest, by simp, by simp [hn], .str hfront, by simp [Token.goesOn],
          by simp⟩
  · cases hoperator : scanOperator c cs.head? with
    | none => rw [hoperator] at h; cases h
    | some found =>
        rw [hoperator] at h
        cases h
        rcases scanOperator_eq_some_iff.mp hoperator with ⟨hmem, rfl, hnext⟩ | ⟨hmem, rfl, hhead⟩
        · have hint := ne_int_of_symbol hmem
          exact ⟨[], cs, rfl, rfl, .symbol hmem, hnext, fun k _ _ ht => absurd ht (hint k)⟩
        · obtain ⟨rest, rfl⟩ : ∃ rest, cs = '=' :: rest := by
            cases cs with
            | nil => cases hhead
            | cons d ds => exact ⟨ds, by simpa using hhead⟩
          exact ⟨['='], rest, rfl, rfl, .equality hmem, .of_goesOn (goesOn_equality hmem) rest⟩

/-- A lexeme has a first character, which is no blank. -/
lemma Spells.exists_cons {cs : List Char} (h : Spells cs t) :
    ∃ c tail, cs = c :: tail ∧ isBlank c = false := by
  cases h with
  | int hdigits =>
      obtain ⟨c, tail, rfl⟩ := List.exists_cons_of_ne_nil hdigits.1
      exact ⟨c, tail, rfl, Text.isBlank_eq_false_of_isDigit (hdigits.2 c List.mem_cons_self)⟩
  | @float whole fraction _ hwhole =>
      obtain ⟨c, tail, rfl⟩ := List.exists_cons_of_ne_nil hwhole.1
      exact ⟨c, tail ++ '.' :: fraction, rfl,
        Text.isBlank_eq_false_of_isDigit (hwhole.2 c List.mem_cons_self)⟩
  | ident hstart =>
      exact ⟨_, _, rfl, Text.isBlank_eq_false_of_isNameContinue
        (Text.isNameContinue_of_isNameStart hstart)⟩
  | str => exact ⟨_, _, rfl, by decide⟩
  | symbol hmem => exact ⟨_, _, rfl, (symbol_chars _ (List.mem_append_left _ hmem)).2.2.2⟩
  | equality hmem => exact ⟨_, _, rfl, (symbol_chars _ (List.mem_append_right _ hmem)).2.2.2⟩

/-! ### The longest lexeme -/

/-- A character that goes on with a lexeme makes a longer one. -/
lemma Spells.lexeme_append {d : Char} (h : Spells cs t) (hd : t.goesOn d = true) :
    Lexeme (cs ++ [d]) := by
  cases h with
  | int hdigits => exact .inl (hdigits.append (List.forall_mem_singleton.mpr hd))
  | float hwhole hfraction =>
      have hlonger := hfraction.append (List.forall_mem_singleton.mpr hd)
      rw [List.append_assoc, List.cons_append]
      exact .inr ⟨_, spells_float hwhole hlonger⟩
  | ident hstart hcs =>
      exact .inr ⟨_, .ident hstart
        (List.forall_mem_append.mpr ⟨hcs, List.forall_mem_singleton.mpr hd⟩)⟩
  | str => cases hd
  | symbol hmem =>
      have hequality : ∀ s ∈ symbols, s.2.goesOn d = true →
          d = '=' ∧ ∃ u, (s.1, u) ∈ equalitySymbols := by
        simp [symbols, equalitySymbols, Token.goesOn]
      obtain ⟨rfl, u, hu⟩ := hequality _ hmem hd
      exact .inr ⟨u, .equality hu⟩
  | equality hmem => exact absurd hd (by simp [goesOn_equality hmem d])

/-- The longest spelling of a token ends where the token does. -/
lemma Longest.stops (hlongest : Longest cs rest) (h : Spells cs t) : Stops t rest := by
  constructor
  · intro d hd
    by_contra hgoes
    obtain ⟨more, rfl⟩ : ∃ more, rest = d :: more := List.head?_eq_some_iff.mp hd
    have hnil := hlongest [d] ⟨more, rfl⟩ (h.lexeme_append (Bool.not_eq_false _ ▸ hgoes))
    cases hnil
  · rintro n d more rfl rfl
    by_contra hd
    cases h with
    | int hdigits =>
        have hfraction := digits_singleton (Bool.not_eq_false _ ▸ hd)
        have hnil := hlongest ['.', d] ⟨more, rfl⟩ (.inr ⟨_, spells_float hdigits hfraction⟩)
        cases hnil
    | symbol hmem => exact ne_int_of_symbol hmem n rfl
    | equality hmem => exact nomatch goesOn_equality hmem '0'

/-- A number takes all digits that are there. -/
lemma Digits.length_le_of_scan (h : Digits (c :: cs)) (hscan : scan c (cs ++ rest) = .ok (t, n)) :
    cs.length ≤ n := by
  rw [scan, if_pos (h.2 c List.mem_cons_self)] at hscan
  obtain ⟨more, -, -, rfl, -⟩ := exists_of_scanNumber h hscan
  simp

/-- What is read at the front of a text is no shorter than any lexeme there. -/
lemma Spells.length_le_of_scan {u : Token} (h : Spells (c :: cs) u)
    (hscan : Calc.scan c (cs ++ rest) = .ok (t, n)) : cs.length ≤ n := by
  generalize hlexeme : c :: cs = lexeme at h
  cases h with
  | int hdigits => exact (hlexeme ▸ hdigits).length_le_of_scan hscan
  | @float whole fraction _ hwhole hfraction =>
      obtain ⟨more, rest, rfl, hmore, hnext⟩ := exists_eq_append Char.isDigit rest
      have hlonger := spells_float hwhole (hfraction.append hmore)
      rw [← List.cons_append, ← List.append_assoc, ← hlexeme, List.cons_append] at hlonger
      rw [← List.append_assoc, hlonger.scan ⟨hnext, by simp⟩] at hscan
      cases hscan
      simp
  | ident hstart hcs =>
      cases hlexeme
      obtain ⟨more, rest, rfl, hmore, hnext⟩ := exists_eq_append isNameContinue rest
      have hlonger := Spells.ident hstart (List.forall_mem_append.mpr ⟨hcs, hmore⟩)
      rw [← List.append_assoc, hlonger.scan ⟨hnext, by simp⟩] at hscan
      cases hscan
      simp
  | @str front text hquotes =>
      have hwhole := Spells.str hquotes
      rw [← hlexeme] at hwhole
      rw [hwhole.scan (.of_goesOn (fun _ => rfl) rest)] at hscan
      cases hscan
      exact le_rfl
  | symbol =>
      cases hlexeme
      exact Nat.zero_le n
  | equality hmem =>
      cases hlexeme
      rw [(Spells.equality hmem).scan (.of_goesOn (goesOn_equality hmem) rest)] at hscan
      cases hscan
      exact le_rfl

/-- **Where a lexeme stops.** What comes behind it does not go on with it if and only if no longer
lexeme is there. -/
theorem stops_iff_longest (h : Spells (c :: cs) t) : Stops t rest ↔ Longest (c :: cs) rest := by
  constructor
  · rintro hstops more ⟨left, rfl⟩ hlexeme
    have hscan := h.scan hstops
    rw [← List.append_assoc] at hscan
    have hle : (cs ++ more).length ≤ cs.length := by
      rcases hlexeme with hdigits | ⟨u, hu⟩
      · exact hdigits.length_le_of_scan hscan
      · exact hu.length_le_of_scan hscan
    rw [List.length_append] at hle
    exact List.eq_nil_of_length_eq_zero (by omega)
  · exact fun hlongest => hlongest.stops h

end

end LineRepl.Calc
