/-
What a template spells.

A template is written with symbols: characters that stand for themselves, and directives, which are
a dollar sign and a letter.

* `Prompt.Directive`, `Prompt.Symbol`: what templates are written with, and what it stands for.
* `Prompt.Misspelled`: characters that go wrong at a dollar sign which starts no directive.
* `Prompt.exists_spelled_or_misspelled`: all characters are symbols, or go wrong behind some.
* `Prompt.compile_eq_ok_iff`, `Prompt.compile_eq_error_iff`: which texts are templates, and why the
  others are none.
* `Prompt.compile_means`: a template is shown as its text with all directives replaced.
-/
import LineRepl.Prompt
import LineRepl.Proofs.Binary64.Reading
import Mathlib.Data.List.Basic

namespace LineRepl

/-! ### Symbols -/

/-- What is written behind a dollar sign to leave the slot open. -/
def Slot.letter : Slot → Char
  | inputCount => 'i'
  | engineName => 'e'
  | languageName => 'l'

namespace Prompt

/-- What may be asked for behind a dollar sign: another one, a space, or what fills a slot. -/
inductive Directive where
  | dollar
  | space
  | slot (s : Slot)

/-- The letter of a directive. -/
def Directive.letter : Directive → Char
  | dollar => '$'
  | space => 'S'
  | slot s => s.letter

/-- What the directive is replaced by. The input count is in decimal, with zeros in front of less
than three digits. -/
def Directive.meaning (context : PromptContext) : Directive → String
  | dollar => "$"
  | space => " "
  | slot .inputCount => String.ofList ((Nat.toDigits 10 context.inputCount).leftpad 3 '0')
  | slot .engineName => context.engineName
  | slot .languageName => context.languageName

/-- A symbol of a template: a character that stands for itself, or a directive. -/
inductive Symbol where
  | plain (c : Char) (h : c ≠ '$')
  | directive (d : Directive)

namespace Symbol

/-- The characters of a symbol. -/
def chars : Symbol → List Char
  | plain c _ => [c]
  | directive d => ['$', d.letter]

/-- What a symbol is replaced by. -/
def meaning (context : PromptContext) : Symbol → String
  | plain c _ => c.toString
  | directive d => d.meaning context

/-- The piece that a symbol is read as. -/
def piece : Symbol → Piece
  | plain c _ => .char c
  | directive .dollar => .char '$'
  | directive .space => .char ' '
  | directive (.slot s) => .slot s

end Symbol

/-- The characters of symbols, one after another. -/
def spelled (symbols : List Symbol) : List Char := symbols.flatMap Symbol.chars

lemma spelled_cons (symbol : Symbol) (symbols : List Symbol) :
    spelled (symbol :: symbols) = symbol.chars ++ spelled symbols := List.flatMap_cons

lemma spelled_append (symbols more : List Symbol) :
    spelled (symbols ++ more) = spelled symbols ++ spelled more := List.flatMap_append

/-- The characters are symbols up to a dollar sign that starts no directive: there is none of the
next character, or no next character. The error tells the position of this dollar sign and what is
wrong there. -/
inductive Misspelled : List Char → TemplateError → Prop where
  | unknown (symbols : List Symbol) {c : Char} (rest : List Char) :
      (∀ d : Directive, d.letter ≠ c) →
      Misspelled (spelled symbols ++ '$' :: c :: rest)
        ⟨.unknownDirective c, (spelled symbols).length⟩
  | dangling (symbols : List Symbol) :
      Misspelled (spelled symbols ++ ['$']) ⟨.danglingEscape, (spelled symbols).length⟩

/-- The error, so many characters further on. -/
def shifted (e : TemplateError) (characters : ℕ) : TemplateError :=
  { e with position := e.position + characters }

section

variable {cs : List Char} {e : TemplateError}

/-- Behind further symbols the same goes wrong. -/
lemma Misspelled.append (h : Misspelled cs e) (symbols : List Symbol) :
    Misspelled (spelled symbols ++ cs) (shifted e (spelled symbols).length) := by
  cases h with
  | unknown behind rest hc =>
      have happend := Misspelled.unknown (symbols ++ behind) rest hc
      rw [spelled_append, List.append_assoc, List.length_append, Nat.add_comm] at happend
      exact happend
  | dangling behind =>
      have happend := Misspelled.dangling (symbols ++ behind)
      rw [spelled_append, List.append_assoc, List.length_append, Nat.add_comm] at happend
      exact happend

/-- Read from the left, characters are symbols to the end, or they go wrong. -/
lemma exists_spelled_or_misspelled (cs : List Char) :
    (∃ symbols, cs = spelled symbols) ∨ ∃ e, Misspelled cs e := by
  have hcons (symbol : Symbol) {rest : List Char}
      (h : (∃ symbols, rest = spelled symbols) ∨ ∃ e, Misspelled rest e) :
      (∃ symbols, symbol.chars ++ rest = spelled symbols) ∨
        ∃ e, Misspelled (symbol.chars ++ rest) e := by
    rcases h with ⟨symbols, rfl⟩ | ⟨e, he⟩
    · exact .inl ⟨symbol :: symbols, (spelled_cons symbol symbols).symm⟩
    · have happend := he.append [symbol]
      rw [spelled_cons, List.append_assoc] at happend
      exact .inr ⟨_, happend⟩
  induction hlength : cs.length using Nat.strongRecOn generalizing cs with
  | ind n ih =>
      obtain _ | ⟨c, rest⟩ := cs
      · exact .inl ⟨[], rfl⟩
      · rw [List.length_cons] at hlength
        by_cases hc : c = '$'
        · subst hc
          obtain _ | ⟨d, rest⟩ := rest
          · exact .inr ⟨_, .dangling []⟩
          · rw [List.length_cons] at hlength
            by_cases hd : ∃ directive : Directive, directive.letter = d
            · obtain ⟨directive, rfl⟩ := hd
              exact hcons (.directive directive) (ih _ (by omega) rest rfl)
            · exact .inr ⟨_, .unknown [] rest (not_exists.mp hd)⟩
        · exact hcons (.plain c hc) (ih _ (by omega) rest rfl)

/-! ### Reading -/

lemma ofDirective?_letter (d : Directive) :
    Piece.ofDirective? d.letter = some (Symbol.directive d).piece := by
  cases d with
  | dollar | space => rfl
  | slot s => cases s <;> rfl

lemma ofDirective?_eq_none {c : Char} (h : ∀ d : Directive, d.letter ≠ c) :
    Piece.ofDirective? c = none := by
  fun_cases Piece.ofDirective? c with
  | case1 => exact absurd rfl (h .dollar)
  | case2 => exact absurd rfl (h .space)
  | case3 => exact absurd rfl (h (.slot .inputCount))
  | case4 => exact absurd rfl (h (.slot .engineName))
  | case5 => exact absurd rfl (h (.slot .languageName))
  | case6 => rfl

lemma ofChars_symbol (position : ℕ) (symbol : Symbol) (rest : List Char) :
    Piece.ofChars position (symbol.chars ++ rest) =
      (Piece.ofChars (position + symbol.chars.length) rest).map (symbol.piece :: ·) := by
  cases symbol with
  | plain c hc => cases rest <;> exact if_neg hc
  | directive d =>
      rw [Symbol.chars, List.cons_append, List.singleton_append, Piece.ofChars, if_pos rfl]
      simp only [ofDirective?_letter]
      rfl

/-- Symbols are read one after another. -/
lemma ofChars_spelled (position : ℕ) (symbols : List Symbol) (rest : List Char) :
    Piece.ofChars position (spelled symbols ++ rest) =
      (Piece.ofChars (position + (spelled symbols).length) rest).map
        (symbols.map Symbol.piece ++ ·) := by
  induction symbols generalizing position with
  | nil =>
      rw [spelled, List.flatMap_nil, List.length_nil, List.nil_append, Nat.add_zero]
      cases Piece.ofChars position rest <;> rfl
  | cons symbol symbols ih =>
      rw [spelled_cons, List.append_assoc, ofChars_symbol, ih, List.length_append, Nat.add_assoc]
      cases Piece.ofChars (position + (symbol.chars.length + (spelled symbols).length)) rest <;> rfl

lemma ofChars_of_misspelled (h : Misspelled cs e) : Piece.ofChars 0 cs = .error e := by
  cases h with
  | unknown _ _ hc =>
      rw [ofChars_spelled, Nat.zero_add, Piece.ofChars, if_pos rfl]
      simp only [ofDirective?_eq_none hc]
      rfl
  | dangling =>
      rw [ofChars_spelled, Nat.zero_add, Piece.ofChars, if_pos rfl]
      rfl

end

/-! ### Templates -/

section

variable {text : String} {symbols : List Symbol} {p : Prompt} {e : TemplateError}

lemma compile_of_spelled (h : text.toList = spelled symbols) :
    compile text = .ok ⟨text, Fragment.ofPieces (symbols.map Symbol.piece)⟩ := by
  rw [compile, h, ← List.append_nil (spelled symbols), ofChars_spelled, Piece.ofChars]
  simp only [Except.map, List.append_nil]

lemma compile_of_misspelled (h : Misspelled text.toList e) : compile text = .error e := by
  rw [compile, ofChars_of_misspelled h]
  rfl

/-- The templates are the texts that are written with symbols. -/
lemma compile_eq_ok_iff :
    compile text = .ok p ↔
      ∃ symbols, text.toList = spelled symbols ∧
        p = ⟨text, Fragment.ofPieces (symbols.map Symbol.piece)⟩ := by
  constructor
  · intro h
    rcases exists_spelled_or_misspelled text.toList with ⟨symbols, hsymbols⟩ | ⟨e, he⟩
    · rw [compile_of_spelled hsymbols] at h
      cases h
      exact ⟨symbols, hsymbols, rfl⟩
    · rw [compile_of_misspelled he] at h
      cases h
  · rintro ⟨symbols, hsymbols, rfl⟩
    exact compile_of_spelled hsymbols

/-- All other texts go wrong, and the error tells where. -/
lemma compile_eq_error_iff : compile text = .error e ↔ Misspelled text.toList e := by
  refine ⟨fun h => ?_, compile_of_misspelled⟩
  rcases exists_spelled_or_misspelled text.toList with ⟨symbols, hsymbols⟩ | ⟨e', he'⟩
  · rw [compile_of_spelled hsymbols] at h
    cases h
  · rw [compile_of_misspelled he'] at h
    cases h
    exact he'

end

/-! ### Rendering -/

section

variable (context : PromptContext)

/-- The text of fragments, one after another. -/
def fragmentsText (fragments : List Fragment) : String :=
  String.join (fragments.map (fragmentText context))

lemma fragmentsText_cons (f : Fragment) (fragments : List Fragment) :
    fragmentsText context (f :: fragments) =
      fragmentText context f ++ fragmentsText context fragments := String.join_cons

lemma slotText_eq_meaning (s : Slot) : slotText context s = (Directive.slot s).meaning context := by
  cases s with
  | inputCount => exact Binary64.paddedText_eq_leftpad _
  | engineName | languageName => rfl

/-- A character is shown as itself also where it joins a literal. -/
lemma fragmentsText_char (c : Char) (fragments : List Fragment) :
    fragmentsText context (Fragment.cons (.char c) fragments) =
      c.toString ++ fragmentsText context fragments := by
  obtain _ | ⟨⟨text⟩ | s, rest⟩ := fragments
  · exact fragmentsText_cons context _ _
  · rw [Fragment.cons, fragmentsText_cons, fragmentsText_cons, fragmentText, fragmentText,
      String.append_assoc]
  · exact fragmentsText_cons context _ _

lemma fragmentsText_symbol (symbol : Symbol) (fragments : List Fragment) :
    fragmentsText context (Fragment.cons symbol.piece fragments) =
      symbol.meaning context ++ fragmentsText context fragments := by
  cases symbol with
  | plain c => exact fragmentsText_char context c fragments
  | directive d =>
      cases d with
      | dollar | space => exact fragmentsText_char context _ fragments
      | slot s =>
          rw [Symbol.meaning, ← slotText_eq_meaning]
          exact fragmentsText_cons context (.slot s) fragments

lemma fragmentsText_ofPieces (symbols : List Symbol) :
    fragmentsText context (Fragment.ofPieces (symbols.map Symbol.piece)) =
      String.join (symbols.map (·.meaning context)) := by
  induction symbols with
  | nil => rfl
  | cons symbol symbols ih =>
      rw [List.map_cons, List.map_cons, String.join_cons, ← ih]
      exact fragmentsText_symbol context symbol _

end

lemma render_of_spelled {text : String} {symbols : List Symbol} {p : Prompt}
    (h : text.toList = spelled symbols) (hp : compile text = .ok p) (context : PromptContext) :
    p.render context = String.join (symbols.map (·.meaning context)) := by
  rw [compile_of_spelled h] at hp
  cases hp
  exact fragmentsText_ofPieces context symbols

/-- **Templates mean what they spell.** A text is a template if and only if it is written with
symbols, and it is shown with each of these replaced by its meaning. Any other text goes wrong at
the first dollar sign that starts no directive. A text behind a template is read as if it stood
alone. -/
theorem compile_means (text : String) :
    ((∃ p, compile text = .ok p) ↔ ∃ symbols, text.toList = spelled symbols) ∧
    (∀ p symbols, compile text = .ok p → text.toList = spelled symbols → ∀ context,
      p.render context = String.join (symbols.map (·.meaning context))) ∧
    (∀ e, compile text = .error e ↔ Misspelled text.toList e) ∧
    ∀ p rest, compile text = .ok p →
      (∀ q, compile rest = .ok q → ∃ r, compile (text ++ rest) = .ok r ∧
        ∀ context, r.render context = p.render context ++ q.render context) ∧
      ∀ e, compile rest = .error e →
        compile (text ++ rest) = .error (shifted e text.length) := by
  refine ⟨⟨?_, ?_⟩, fun p symbols hp hsymbols => render_of_spelled hsymbols hp,
    fun e => compile_eq_error_iff, fun p rest hp => ?_⟩
  · rintro ⟨p, hp⟩
    obtain ⟨symbols, hsymbols, -⟩ := compile_eq_ok_iff.mp hp
    exact ⟨symbols, hsymbols⟩
  · rintro ⟨symbols, hsymbols⟩
    exact ⟨_, compile_of_spelled hsymbols⟩
  · obtain ⟨symbols, hsymbols, -⟩ := compile_eq_ok_iff.mp hp
    refine ⟨fun q hq => ?_, fun e he => ?_⟩
    · obtain ⟨more, hmore, -⟩ := compile_eq_ok_iff.mp hq
      have hboth : (text ++ rest).toList = spelled (symbols ++ more) := by
        rw [String.toList_append, hsymbols, hmore, spelled_append]
      have hr := compile_of_spelled hboth
      refine ⟨_, hr, fun context => ?_⟩
      rw [render_of_spelled hboth hr, render_of_spelled hsymbols hp, render_of_spelled hmore hq,
        List.map_append, String.join_append]
    · have hmisspelled := (compile_eq_error_iff.mp he).append symbols
      rw [← hsymbols, ← String.toList_append, String.length_toList] at hmisspelled
      exact compile_of_misspelled hmisspelled

/-- A doubled dollar sign before a slot is no slot, and a fault behind both is placed by
characters. -/
theorem compile_dollars_and_slot :
    (∃ p, compile "é$$$i" = .ok p ∧ p.render ⟨7, "dc", "rpn"⟩ = "é$007") ∧
      compile ("é$$$i" ++ "S$x") = .error ⟨.unknownDirective 'x', 6⟩ := by
  obtain ⟨hspelled, hrender, -, happend⟩ := compile_means "é$$$i"
  have hsymbols : "é$$$i".toList = spelled
      [.plain 'é' (by decide), .directive .dollar, .directive (.slot .inputCount)] := rfl
  obtain ⟨p, hp⟩ := hspelled.mpr ⟨_, hsymbols⟩
  have hfault : compile "S$x" = .error ⟨.unknownDirective 'x', 1⟩ := by decide
  exact ⟨⟨p, hp, (hrender p _ hp hsymbols _).trans (by decide)⟩,
    (happend p "S$x" hp).2 _ hfault⟩

end Prompt

end LineRepl
