/-
Printed values as lines.

What is printed of a value can be entered again: the lexer stops at the ends of the parts of the
text, so that the text of a list is read item by item.

* `Lexes`, `Lexes.append`: texts that are read as the same tokens whatever is read after them.
* `TooLarge`: texts in which the lexer fails on a literal that is too large.
* `Literal.lexes`, `tooLarge_text`: one or the other is so of the text of a value.
* `evalLine_text`: the answer to a line that is the text of a value.
-/
import LineRepl.Proofs.Binary64.Reading
import LineRepl.Proofs.Calc.Identifier
import LineRepl.Proofs.Calc.Literal

namespace LineRepl.Calc

open Text (isBlank isNameContinue isNameStart)

/-! ### One token after another -/

/-- The tokens of the characters, apart from where they stand. -/
def tokensFrom (column : ℕ) (cs : List Char) : Except SyntaxError (List Token) :=
  (tokenizeFrom column cs).map Grammar.words

section

variable {column n : ℕ} {c : Char} {cs : List Char} {t : Token}

/-- The first token, and then those behind it. -/
lemma tokensFrom_of_scan (hblank : isBlank c = false) (hscan : scan c cs = .ok (t, n)) :
    tokensFrom column (c :: cs) = (tokensFrom (column + 1 + n) (cs.drop n)).map (t :: ·) := by
  rw [tokensFrom, tokensFrom, tokenizeFrom, if_neg (by simp [hblank]), hscan]
  simp only
  cases tokenizeFrom (column + 1 + n) (cs.drop n) <;> rfl

lemma tokensFrom_of_fault {fault : SyntaxFault} (hblank : isBlank c = false)
    (hscan : scan c cs = .error fault) : tokensFrom column (c :: cs) = .error ⟨fault, column⟩ := by
  rw [tokensFrom, tokenizeFrom, if_neg (by simp [hblank]), hscan]
  rfl

lemma tokensFrom_space : tokensFrom column (' ' :: cs) = tokensFrom (column + 1) cs := by
  rw [tokensFrom, tokensFrom, tokenizeFrom, if_pos (by decide)]

/-- The characters that are tokens by themselves in printed values. -/
def marks : List (Char × Token) :=
  [('-', .minus), ('[', .openBracket), (']', .closeBracket), (',', .comma)]

/-- A bracket or a comma is a token of one character. -/
lemma tokensFrom_mark (h : (c, t) ∈ marks) :
    tokensFrom column (c :: cs) = (tokensFrom (column + 1) cs).map (t :: ·) := by
  have hother : ∀ mark ∈ marks, mark.1.isDigit = false ∧ isNameStart mark.1 = false ∧
      mark.1 ≠ '"' ∧ isBlank mark.1 = false := by decide +kernel
  obtain ⟨hdigit, hstart, hquote, hblank⟩ := hother _ h
  have hoperator : scanOperator c cs.head? = some (t, 0) := by
    simp only [marks, List.mem_cons, Prod.mk.injEq, List.not_mem_nil, or_false] at h
    rcases h with ⟨rfl, rfl⟩ | ⟨rfl, rfl⟩ | ⟨rfl, rfl⟩ | ⟨rfl, rfl⟩ <;> simp [scanOperator]
  refine tokensFrom_of_scan (n := 0) hblank ?_
  rw [scan, if_neg (by simp [hdigit]), if_neg (by simp [hstart]), if_neg hquote, hoperator]

end

/-! ### Texts that are read as the same tokens -/

/-- What may come after a value in a printed value: nothing, or a comma or a bracket. -/
def Ended (rest : List Char) : Prop := ∀ c ∈ rest.head?, c = ',' ∨ c = ']'

lemma ended_nil : Ended [] := nofun

lemma ended_cons {d : Char} (hd : d = ',' ∨ d = ']') (rest : List Char) : Ended (d :: rest) :=
  fun c hc => by rwa [← Option.mem_some.mp hc]

/-- No character that belongs to a part of the text comes next. -/
lemma Ended.head?_eq_false {rest : List Char} (h : Ended rest) {P : Char → Bool}
    (hcomma : P ',' = false) (hbracket : P ']' = false) : ∀ c ∈ rest.head?, P c = false := by
  intro c hc
  rcases h c hc with rfl | rfl
  · exact hcomma
  · exact hbracket

/-- The characters are read as the tokens, whatever is read after them. -/
def Lexes (cs : List Char) (ts : List Token) : Prop :=
  ∀ column rest, Ended rest →
    tokensFrom column (cs ++ rest) = (tokensFrom (column + cs.length) rest).map (ts ++ ·)

namespace Lexes

variable {c d : Char} {cs ds : List Char} {t : Token} {ts us : List Token}

lemma nil : Lexes [] [] := by
  intro column rest _
  rw [List.nil_append, List.length_nil, Nat.add_zero]
  cases tokensFrom column rest <;> rfl

/-- What is scanned in front of every end is a token by itself. -/
lemma of_scan (hblank : isBlank c = false)
    (h : ∀ rest, Ended rest → scan c (cs ++ rest) = .ok (t, cs.length)) : Lexes (c :: cs) [t] := by
  intro column rest hrest
  rw [List.cons_append, tokensFrom_of_scan hblank (h rest hrest), List.drop_left, List.length_cons,
    Nat.add_right_comm, Nat.add_assoc]
  rfl

lemma mark (h : (c, t) ∈ marks) (hcs : Lexes cs ts) : Lexes (c :: cs) (t :: ts) := by
  intro column rest hrest
  rw [List.cons_append, tokensFrom_mark h, hcs _ _ hrest, List.length_cons, Nat.add_right_comm,
    Nat.add_assoc]
  cases tokensFrom (column + (cs.length + 1)) rest <;> rfl

lemma space (hcs : Lexes cs ts) : Lexes (' ' :: cs) ts := by
  intro column rest hrest
  rw [List.cons_append, tokensFrom_space, hcs _ _ hrest, List.length_cons, Nat.add_right_comm,
    Nat.add_assoc]

/-- A comma or a bracket ends the text before it. -/
lemma append (hcs : Lexes cs ts) (hd : d = ',' ∨ d = ']') (hds : Lexes (d :: ds) us) :
    Lexes (cs ++ d :: ds) (ts ++ us) := by
  intro column rest hrest
  rw [List.append_assoc, hcs _ (d :: ds ++ rest) (ended_cons hd _), hds _ _ hrest,
    List.length_append, Nat.add_assoc]
  cases tokensFrom (column + (cs.length + (d :: ds).length)) rest with
  | error e => rfl
  | ok vs => exact congrArg Except.ok (List.append_assoc ts us vs).symm

/-- Brackets may be put around what lexes. -/
lemma brackets (hcs : Lexes cs ts) :
    Lexes ('[' :: (cs ++ [']'])) (.openBracket :: (ts ++ [.closeBracket])) :=
  .mark (by decide) (hcs.append (.inr rfl) (.mark (by decide) .nil))

/-- Items that lex do so with a comma and a space between them. -/
lemma comma (hcs : Lexes cs ts) (hds : Lexes ds us) :
    Lexes (cs ++ ',' :: ' ' :: ds) (ts ++ .comma :: us) :=
  hcs.append (.inl rfl) (.mark (by decide) hds.space)

end Lexes

/-! ### Texts in which the lexer fails -/

/-- The lexer fails in the characters on a literal that is too large, whatever comes after them. -/
def TooLarge (digits : String) (cs : List Char) : Prop :=
  ∀ column rest, Ended rest →
    ∃ place, tokensFrom column (cs ++ rest) = .error ⟨.integerTooLarge digits, place⟩

namespace TooLarge

variable {digits : String} {c d : Char} {cs ds : List Char} {t : Token} {ts : List Token}

lemma mark (h : (c, t) ∈ marks) (hcs : TooLarge digits cs) : TooLarge digits (c :: cs) := by
  intro column rest hrest
  obtain ⟨place, hplace⟩ := hcs (column + 1) rest hrest
  exact ⟨place, by rw [List.cons_append, tokensFrom_mark h, hplace]; rfl⟩

lemma space (hcs : TooLarge digits cs) : TooLarge digits (' ' :: cs) := by
  intro column rest hrest
  obtain ⟨place, hplace⟩ := hcs (column + 1) rest hrest
  exact ⟨place, by rw [List.cons_append, tokensFrom_space, hplace]⟩

/-- The lexer does not come to what is behind a comma or a bracket. -/
lemma append (hcs : TooLarge digits cs) (hd : d = ',' ∨ d = ']') (ds : List Char) :
    TooLarge digits (cs ++ d :: ds) := by
  intro column rest _
  rw [List.append_assoc]
  exact hcs column _ (ended_cons hd _)

/-- A list fails with its items. -/
lemma brackets (hcs : TooLarge digits cs) : TooLarge digits ('[' :: (cs ++ [']'])) :=
  .mark (t := .openBracket) (by decide) (hcs.append (.inr rfl) [])

/-- Items fail with the first of them. -/
lemma comma (hcs : TooLarge digits cs) (ds : List Char) :
    TooLarge digits (cs ++ ',' :: ' ' :: ds) :=
  hcs.append (.inl rfl) _

end TooLarge

/-- They fail with another one too, if those before it lex. -/
lemma Lexes.tooLarge_comma {digits : String} {cs ds : List Char} {ts : List Token}
    (hcs : Lexes cs ts) (hds : TooLarge digits ds) : TooLarge digits (cs ++ ',' :: ' ' :: ds) := by
  intro column rest hrest
  have hbehind : TooLarge digits (',' :: ' ' :: ds) := .mark (t := .comma) (by decide) hds.space
  obtain ⟨place, hplace⟩ := hbehind (column + cs.length) rest hrest
  refine ⟨place, ?_⟩
  rw [List.append_assoc, hcs _ (',' :: ' ' :: ds ++ rest) (ended_cons (.inl rfl) _), hplace]
  rfl

/-! ### Names and numbers -/

/-- A name is read as one token. -/
lemma Identifier.lexes {name : String} (h : Identifier name) : Lexes name.toList [.ident name] := by
  obtain ⟨c, cs, htext, hstart, hcs⟩ := identifier_iff.mp h
  rw [htext]
  refine .of_scan (Text.isBlank_eq_false_of_isNameContinue
    (Text.isNameContinue_of_isNameStart hstart)) fun rest hrest => ?_
  have hnext := hrest.head?_eq_false (P := isNameContinue) (by decide +kernel) (by decide +kernel)
  rw [scan_eq_ident_iff, Text.takeWhile_append hcs hnext, ← htext, String.ofList_toList]
  exact ⟨hstart, rfl, rfl⟩

/-- Digits in front of an end are read as one integer. -/
lemma scan_of_digits {c : Char} {cs rest : List Char} (hc : c.isDigit = true)
    (hcs : ∀ d ∈ cs, d.isDigit = true) (hrest : Ended rest) :
    scan c (cs ++ rest) = scanNumber.integer (c :: cs) := by
  have hnext := hrest.head?_eq_false (P := Char.isDigit) rfl rfl
  rw [scan, if_pos hc, scanNumber]
  simp only [Text.takeWhile_append hcs hnext, Text.dropWhile_append hcs hnext]
  cases rest with
  | nil => rfl
  | cons d _ => rcases hrest d rfl with rfl | rfl <;> rfl

/-- What is read of a natural number that is written in decimal: one token, if it has 63 bits at
most. -/
lemma exists_scan_naturalText (m : ℕ) :
    ∃ c cs, (naturalText m).toList = c :: cs ∧ isBlank c = false ∧ ∀ rest, Ended rest →
      scan c (cs ++ rest) = if m < 1 <<< 63 then .ok (.int (Int64.ofNat m), cs.length)
        else .error (.integerTooLarge (naturalText m)) := by
  obtain ⟨c, cs, htext⟩ := List.exists_cons_of_ne_nil (Binary64.toList_naturalText_ne_nil m)
  have hdigits : ∀ d ∈ c :: cs, d.isDigit = true := fun d hd =>
    Binary64.isDigit_of_mem_naturalText (htext ▸ hd)
  obtain ⟨hc, hcs⟩ := List.forall_mem_cons.mp hdigits
  refine ⟨c, cs, htext, Text.isBlank_eq_false_of_isDigit hc, fun rest hrest => ?_⟩
  rw [scan_of_digits hc hcs hrest, scanNumber.integer, ← htext, Binary64.digitsValue_naturalText,
    htext, List.length_cons, Nat.add_sub_cancel, ← htext, String.ofList_toList]

/-- A natural number of 63 bits is written as one token. -/
lemma lexes_naturalText {m : ℕ} (hm : m < 1 <<< 63) :
    Lexes (naturalText m).toList [.int (Int64.ofNat m)] := by
  obtain ⟨c, cs, htext, hblank, hscan⟩ := exists_scan_naturalText m
  rw [htext]
  exact .of_scan hblank fun rest hrest => (hscan rest hrest).trans (if_pos hm)

/-- A greater one is refused by its digits. -/
lemma tooLarge_naturalText {m : ℕ} (hm : ¬ m < 1 <<< 63) :
    TooLarge (naturalText m) (naturalText m).toList := by
  obtain ⟨c, cs, htext, hblank, hscan⟩ := exists_scan_naturalText m
  intro column rest hrest
  rw [htext]
  exact ⟨column, tokensFrom_of_fault hblank ((hscan rest hrest).trans (if_neg hm))⟩

/-! ### Values -/

/-- The names of the truth values are names. -/
lemma identifier_text_bool (b : Bool) : Identifier (Value.bool b).text := by
  cases b <;> decide +kernel

section

variable {k : Int64}

lemma toList_text_of_nonneg (h : 0 ≤ k.toInt) :
    (Value.int k).text.toList = (naturalText k.toInt.natAbs).toList := by
  rw [Value.text, Binary64.integerText_of_nonneg h]

/-- A negative integer is written with a minus sign. -/
lemma toList_text_of_neg (h : k.toInt < 0) :
    (Value.int k).text.toList = '-' :: (naturalText k.toInt.natAbs).toList := by
  rw [Value.text, Binary64.integerText_of_neg h, String.toList_append]
  rfl

lemma ofNat_natAbs_of_nonneg (h : 0 ≤ k.toInt) : Int64.ofNat k.toInt.natAbs = k := by
  rw [← Int64.ofInt_eq_ofNat, Int.natAbs_of_nonneg h, Int64.ofInt_toInt]

lemma ofNat_natAbs_of_neg (h : k.toInt < 0) : Int64.ofNat k.toInt.natAbs = -k := by
  rw [← Int64.ofInt_eq_ofNat, Int.ofNat_natAbs_of_nonpos (Int.le_of_lt h), Int64.ofInt_neg,
    Int64.ofInt_toInt]

/-- Only the least integer has a magnitude of more than 63 bits. -/
lemma natAbs_toInt_lt_iff : k.toInt.natAbs < 1 <<< 63 ↔ k ≠ Int64.minValue := by
  have hlow : Int64.minValue.toInt ≤ k.toInt := Int64.minValue_le_toInt k
  have hhigh : k.toInt ≤ Int64.maxValue.toInt := Int64.toInt_le k
  rw [Ne, ← Int64.toInt_inj, Int64.toInt_minValue]
  rw [Int64.toInt_minValue] at hlow
  rw [Int64.toInt_maxValue] at hhigh
  omega

end

/-- A list is written in brackets. -/
lemma toList_text_list (items : List Value) :
    (Value.list items).text.toList = '[' :: ((Value.itemsText items).toList ++ [']']) := by
  simp [Value.text]

/-- Items are written with commas between them. -/
lemma toList_itemsText_cons {v : Value} {vs : List Value} (hvs : vs ≠ []) :
    (Value.itemsText (v :: vs)).toList =
      v.text.toList ++ ',' :: ' ' :: (Value.itemsText vs).toList := by
  obtain ⟨w, rest, rfl⟩ := List.exists_cons_of_ne_nil hvs
  simp [Value.itemsText]

lemma LiteralItems.ne_nil {n : ℕ} {vs : List Value} {ts : List Token} {es : List Expr}
    (h : LiteralItems n vs ts es) : vs ≠ [] := by
  cases h <;> exact List.cons_ne_nil _ _

mutual

/-- The text of a value that can be written is read as the tokens that it is written as. -/
lemma Literal.lexes {n : ℕ} {v : Value} {ts : List Token} {e : Expr} :
    Literal n v ts e → Lexes v.text.toList ts
  | .bool b => (identifier_text_bool b).lexes
  | @Literal.int _ k h => by
      have hk : k ≠ Int64.minValue := fun hmin => absurd (hmin ▸ h) (by decide)
      have hlexes := lexes_naturalText (natAbs_toInt_lt_iff.mpr hk)
      rwa [ofNat_natAbs_of_nonneg h, ← toList_text_of_nonneg h] at hlexes
  | .negative h hk => by
      have hlexes := lexes_naturalText (natAbs_toInt_lt_iff.mpr hk)
      rw [ofNat_natAbs_of_neg h] at hlexes
      rw [toList_text_of_neg h]
      exact hlexes.mark (by decide)
  | .empty => by
      rw [toList_text_list]
      exact Lexes.nil.brackets
  | .list h => by
      rw [toList_text_list]
      exact h.lexes.brackets

/-- The texts of items lex to their tokens. -/
lemma LiteralItems.lexes {n : ℕ} {vs : List Value} {ts : List Token} {es : List Expr} :
    LiteralItems n vs ts es → Lexes (Value.itemsText vs).toList ts
  | .last h => by
      rw [Value.itemsText]
      exact h.lexes
  | .cons h h' => by
      rw [toList_itemsText_cons h'.ne_nil]
      exact h.lexes.comma h'.lexes

end

/-- The magnitude of the least integer, which a literal cannot have. -/
lemma tooLarge_text_minValue :
    TooLarge "9223372036854775808" (Value.int Int64.minValue).text.toList := by
  have htext : (Value.int Int64.minValue).text.toList = '-' :: "9223372036854775808".toList := by
    decide +kernel
  have hdigits : naturalText (1 <<< 63) = "9223372036854775808" := by decide +kernel
  have hlarge := tooLarge_naturalText (Nat.lt_irrefl (1 <<< 63))
  rw [hdigits] at hlarge
  rw [htext]
  exact hlarge.mark (t := .minus) (by decide)

/-- Items are refused for the first of them that holds the least integer. -/
lemma tooLarge_itemsText {n : ℕ} {digits : String} {vs : List Value} (hplain : ∀ v ∈ vs, v.Plain n)
    (hlarge : ∀ v ∈ vs, v.Holds Int64.minValue → TooLarge digits v.text.toList)
    (hmin : ∃ v ∈ vs, v.Holds Int64.minValue) :
    TooLarge digits (Value.itemsText vs).toList := by
  induction vs with
  | nil => simp at hmin
  | cons v vs ih =>
      obtain ⟨hv, hvs⟩ := List.forall_mem_cons.mp hplain
      obtain ⟨hlargev, hlargevs⟩ := List.forall_mem_cons.mp hlarge
      by_cases hminv : v.Holds Int64.minValue
      · cases vs with
        | nil =>
            rw [Value.itemsText]
            exact hlargev hminv
        | cons w rest =>
            rw [toList_itemsText_cons (List.cons_ne_nil w rest)]
            exact (hlargev hminv).comma _
      · -- The item can be written, so the lexer gets past it to one that holds the least integer.
        obtain ⟨ts, e, hliteral⟩ := exists_literal hv hminv
        have hminvs : ∃ w ∈ vs, w.Holds Int64.minValue := by
          obtain ⟨w, hw, hholds⟩ := hmin
          exact ⟨w, (List.mem_cons.mp hw).resolve_left fun h => hminv (h ▸ hholds), hholds⟩
        have hne : vs ≠ [] := by
          rintro rfl
          simp at hminvs
        rw [toList_itemsText_cons hne]
        exact hliteral.lexes.tooLarge_comma (ih hvs hlargevs hminvs)

/-- The text of a value with the least integer in it is not read. -/
lemma tooLarge_text {n : ℕ} {v : Value} (h : v.Plain n) (hmin : v.Holds Int64.minValue) :
    TooLarge "9223372036854775808" v.text.toList := by
  induction h with
  | bool b => cases hmin
  | int k =>
      cases hmin
      exact tooLarge_text_minValue
  | @list n items hitems ih =>
      cases hmin with
      | @item v _ hv hholds =>
          rw [toList_text_list]
          exact (tooLarge_itemsText hitems ih ⟨v, hv, hholds⟩).brackets

/-! ### Lines -/

section

variable {line : String}

/-- A line that lexes has its tokens at some columns. -/
lemma Lexes.exists_tokenize {ts : List Token} (h : Lexes line.toList ts) :
    ∃ tokens, tokenize line = .ok tokens ∧ Grammar.words tokens = ts := by
  have hline := h 1 [] ended_nil
  rw [List.append_nil, tokensFrom, tokensFrom, tokenizeFrom] at hline
  rw [tokenize]
  cases htokens : tokenizeFrom 1 line.toList with
  | error e =>
      rw [htokens] at hline
      cases hline
  | ok tokens =>
      rw [htokens] at hline
      exact ⟨tokens, rfl, (Except.ok.inj hline).trans (List.append_nil ts)⟩

/-- A line with a number that is too large is refused somewhere. -/
lemma TooLarge.exists_tokenize {digits : String} (h : TooLarge digits line.toList) :
    ∃ place, tokenize line = .error ⟨.integerTooLarge digits, place⟩ := by
  obtain ⟨place, hline⟩ := h 1 [] ended_nil
  rw [List.append_nil, tokensFrom] at hline
  rw [tokenize]
  cases htokens : tokenizeFrom 1 line.toList with
  | error e =>
      rw [htokens] at hline
      exact ⟨place, congrArg Except.error (Except.error.inj hline)⟩
  | ok tokens =>
      rw [htokens] at hline
      cases hline

/-- A text that is read as the tokens of an expression is a line with its value. -/
lemma evalLine_of_lexes {ts : List Token} {e : Expr} (h : Lexes line.toList ts)
    (he : Grammar.Expression maxDepth 0 ts e) (w : Workspace) :
    evalLine line w = (Statement.expr e).run w := by
  obtain ⟨tokens, htokens, rfl⟩ := h.exists_tokenize
  have hparse : parse tokens = .ok (.expr e) := Grammar.parse_eq_ok_iff.mpr (.expr he)
  rw [evalLine, htokens]
  cases tokens with
  | nil =>
      obtain ⟨_, _, hnil, -⟩ := he.begins
      cases hnil
  | cons t rest => simp only [hparse]

/-- So is its evaluation, and nothing changes. -/
lemma evalLine_of_tooLarge {digits : String} (h : TooLarge digits line.toList) (w : Workspace) :
    ∃ place, evalLine line w = (malformed ⟨.integerTooLarge digits, place⟩, w) := by
  obtain ⟨place, hplace⟩ := h.exists_tokenize
  exact ⟨place, by rw [evalLine, hplace]⟩

end

/-- **Printed values read back.** Where the names of the truth values are not bound, the text of a
value with lists nested at most 254 deep is a line that has exactly this value, unless the least
integer is in it: then the line is malformed, because no literal has 64 bits. -/
theorem evalLine_text {v : Value} {w : Workspace} (h : v.Plain 254)
    (htrue : w.bindings.get? "true" = none) (hfalse : w.bindings.get? "false" = none) :
    (¬ v.Holds Int64.minValue → evalLine v.text w = (.value v, w)) ∧
    (v.Holds Int64.minValue → ∃ column, evalLine v.text w =
      (.error (.malformed "integer literal too large '9223372036854775808'" column), w)) := by
  constructor
  · intro hmin
    obtain ⟨ts, e, hliteral⟩ := exists_literal h hmin
    rw [evalLine_of_lexes hliteral.lexes (hliteral.expression (by decide)), Statement.run,
      hliteral.eval htrue hfalse]
  · intro hmin
    obtain ⟨place, hline⟩ := evalLine_of_tooLarge (tooLarge_text h hmin) w
    exact ⟨place, hline.trans (by rfl)⟩

/-- A list with a negative integer in it, and one with the least integer. -/
theorem evalLine_text_list :
    evalLine "[-3, [true]]" .empty = (.value (.list [.int (-3), .list [.bool true]]), .empty) ∧
      ∃ column, evalLine "[-9223372036854775808]" .empty =
        (.error (.malformed "integer literal too large '9223372036854775808'" column), .empty) := by
  have hread : (Value.list [.int (-3), .list [.bool true]]).text = "[-3, [true]]" := by
    decide +kernel
  have hleast : (Value.list [.int Int64.minValue]).text = "[-9223372036854775808]" := by
    decide +kernel
  have hplain : (Value.list [.int (-3), .list [.bool true]]).Plain 254 :=
    .list (List.forall_mem_cons.mpr ⟨.int (-3),
      List.forall_mem_singleton.mpr (.list (List.forall_mem_singleton.mpr (.bool true)))⟩)
  have hplainLeast : (Value.list [.int Int64.minValue]).Plain 254 :=
    .list (List.forall_mem_singleton.mpr (.int Int64.minValue))
  rw [← hread, ← hleast]
  exact ⟨(evalLine_text hplain rfl rfl).1 (by simp),
    (evalLine_text hplainLeast rfl rfl).2 (by simp)⟩

end LineRepl.Calc
