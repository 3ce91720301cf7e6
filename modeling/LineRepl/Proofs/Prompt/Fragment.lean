/-
Templates and their fragments.

* `Fragment.Normal`: no literal is empty, and no two of them are neighbours.
* `Fragment.normal_ofPieces`: the fragments of a template are normal.
* `Fragment.written`: the text of fragments, as a template.
* `Fragment.ofPieces_symbols`: normal fragments are those of the symbols that they are written with.
* `Prompt.compile_written`: fragments and templates are written and read back.
-/
import LineRepl.Proofs.Prompt.Directive
import Mathlib.Data.List.Chain

namespace LineRepl

namespace Fragment

/-! ### Normal forms -/

/-- The fragment is a literal. -/
def IsLiteral (f : Fragment) : Prop := ∃ text, f = .literal text

/-- No literal is empty, and no literal follows another one. -/
structure Normal (fragments : List Fragment) : Prop where
  nonempty : .literal "" ∉ fragments
  apart : fragments.IsChain fun f g => ¬(f.IsLiteral ∧ g.IsLiteral)

section

variable {text : String} {s : Slot} {f : Fragment} {fragments : List Fragment}

lemma not_isLiteral_slot : ¬(slot s).IsLiteral := nofun

lemma Normal.nil : Normal [] := ⟨List.not_mem_nil, .nil⟩

lemma Normal.tail (h : Normal (f :: fragments)) : Normal fragments :=
  ⟨fun hmem => h.nonempty (List.mem_cons_of_mem f hmem), h.apart.tail⟩

/-- No literal comes right behind a literal. -/
lemma Normal.head?_of_literal (h : Normal (.literal text :: fragments)) :
    ∀ f ∈ fragments.head?, ¬f.IsLiteral :=
  fun f hf hliteral => (List.isChain_cons.mp h.apart).1 f hf ⟨⟨text, rfl⟩, hliteral⟩

lemma Normal.literal (htext : text ≠ "") (hhead : ∀ f ∈ fragments.head?, ¬f.IsLiteral)
    (h : Normal fragments) : Normal (.literal text :: fragments) where
  nonempty hmem := by
    rcases List.mem_cons.mp hmem with heq | hmem
    · cases heq
      exact htext rfl
    · exact h.nonempty hmem
  apart := List.isChain_cons.mpr ⟨fun f hf hboth => hhead f hf hboth.2, h.apart⟩

lemma Normal.slot (h : Normal fragments) : Normal (.slot s :: fragments) where
  nonempty hmem := by
    rcases List.mem_cons.mp hmem with heq | hmem
    · cases heq
    · exact h.nonempty hmem
  apart := List.isChain_cons.mpr ⟨fun f _ hboth => not_isLiteral_slot hboth.1, h.apart⟩

/-- A piece in front keeps fragments normal: a character joins a literal that is there. -/
lemma Normal.cons (h : Normal fragments) (piece : Piece) :
    Normal (Fragment.cons piece fragments) := by
  cases piece with
  | slot s => exact h.slot
  | char c =>
      have hne (text : String) : c.toString ++ text ≠ "" := by
        simp [← String.toList_inj]
      have hne' : c.toString ≠ "" := by simp
      obtain _ | ⟨⟨text⟩ | s, rest⟩ := fragments
      · exact .literal hne' nofun h
      · exact .literal (hne text) h.head?_of_literal h.tail
      · exact .literal hne' (by simp [not_isLiteral_slot]) h

/-- The fragments of pieces are normal. -/
lemma normal_ofPieces (pieces : List Piece) : Normal (ofPieces pieces) := by
  induction pieces with
  | nil => exact .nil
  | cons piece pieces ih => exact ih.cons piece

/-! ### Writing -/

/-- The character as it is written in a template: a dollar sign is doubled. -/
def doubled (c : Char) : List Char := if c = '$' then ['$', '$'] else [c]

/-- A fragment as it is written in a template. -/
def chars : Fragment → List Char
  | literal text => text.toList.flatMap doubled
  | slot s => ['$', s.letter]

/-- The template that is written for fragments. -/
def written (fragments : List Fragment) : String := String.ofList (fragments.flatMap chars)

/-- The symbol that a character is written with. -/
def symbolOf (c : Char) : Prompt.Symbol := if h : c = '$' then .directive .dollar else .plain c h

/-- The symbols that a fragment is written with. -/
def symbols : Fragment → List Prompt.Symbol
  | literal text => text.toList.map symbolOf
  | slot s => [.directive (.slot s)]

lemma chars_symbolOf (c : Char) : (symbolOf c).chars = doubled c := by
  rw [symbolOf, doubled]
  split
  · rfl
  · rfl

lemma piece_symbolOf (c : Char) : (symbolOf c).piece = .char c := by
  rw [symbolOf]
  split
  next h =>
    subst h
    rfl
  · rfl

lemma meaning_symbolOf (context : PromptContext) (c : Char) :
    (symbolOf c).meaning context = c.toString := by
  rw [symbolOf]
  split
  next h =>
    subst h
    rfl
  · rfl

lemma spelled_map_symbolOf (cs : List Char) :
    Prompt.spelled (cs.map symbolOf) = cs.flatMap doubled := by
  rw [Prompt.spelled, List.flatMap_map]
  exact List.flatMap_congr fun c _ => chars_symbolOf c

lemma spelled_flatMap_symbols (fragments : List Fragment) :
    Prompt.spelled (fragments.flatMap symbols) = fragments.flatMap chars := by
  rw [Prompt.spelled, List.flatMap_assoc]
  refine List.flatMap_congr fun f _ => ?_
  cases f with
  | literal text => exact spelled_map_symbolOf text.toList
  | slot s => rfl

/-- The characters of a literal join again, behind anything but another literal. -/
lemma foldr_cons_chars {cs : List Char} (hcs : cs ≠ [])
    (h : ∀ f ∈ fragments.head?, ¬f.IsLiteral) :
    (cs.map Piece.char).foldr Fragment.cons fragments =
      .literal (String.ofList cs) :: fragments := by
  induction cs with
  | nil => exact absurd rfl hcs
  | cons c cs ih =>
      rw [List.map_cons, List.foldr_cons]
      obtain _ | ⟨d, cs⟩ := cs
      · obtain _ | ⟨⟨text⟩ | s, rest⟩ := fragments
        · rfl
        · exact absurd ⟨text, rfl⟩ (h _ rfl)
        · rfl
      · rw [ih (List.cons_ne_nil d cs), Fragment.cons, Char.toString_eq_singleton,
          ← String.ofList_cons]

/-- Normal fragments are those of the symbols that they are written with. -/
lemma ofPieces_symbols (h : Normal fragments) :
    ofPieces ((fragments.flatMap symbols).map Prompt.Symbol.piece) = fragments := by
  induction fragments with
  | nil => rfl
  | cons f fragments ih =>
      have hfragments := ih h.tail
      rw [ofPieces] at hfragments
      rw [ofPieces, List.flatMap_cons, List.map_append, List.foldr_append, hfragments]
      cases f with
      | slot s => rfl
      | literal text =>
          have hpieces : (symbols (.literal text)).map Prompt.Symbol.piece =
              text.toList.map Piece.char := by
            rw [symbols, List.map_map]
            exact List.map_congr_left fun c _ => piece_symbolOf c
          have hne : text.toList ≠ [] := by
            rw [Ne, String.toList_eq_nil_iff]
            rintro rfl
            exact h.nonempty List.mem_cons_self
          rw [hpieces, foldr_cons_chars hne h.head?_of_literal, String.ofList_toList]

end

end Fragment

namespace Prompt

open Fragment (Normal written)

/-- Normal fragments are read back as they are. -/
lemma compile_of_normal {fragments : List Fragment} (h : Normal fragments) :
    compile (written fragments) = .ok ⟨written fragments, fragments⟩ := by
  have hspelled : (written fragments).toList = spelled (fragments.flatMap Fragment.symbols) := by
    rw [written, String.toList_ofList, Fragment.spelled_flatMap_symbols]
  rw [compile_of_spelled hspelled, Fragment.ofPieces_symbols h]

lemma normal_of_compile {text : String} {p : Prompt} (h : compile text = .ok p) :
    Normal p.fragments := by
  obtain ⟨symbols, -, rfl⟩ := compile_eq_ok_iff.mp h
  exact Fragment.normal_ofPieces _

/-- **Templates have a normal form and are spelled back from it.** The fragments of a template are
normal, and the template that is written for them has the same. Normal fragments are those of the
template that is written for them. A text with its dollar signs doubled is a template that is shown
as this text. -/
theorem compile_written :
    (∀ text p, compile text = .ok p → Normal p.fragments ∧
      compile (written p.fragments) = .ok ⟨written p.fragments, p.fragments⟩) ∧
    (∀ fragments, Normal fragments →
      compile (written fragments) = .ok ⟨written fragments, fragments⟩) ∧
    ∀ text : String, ∃ p,
      compile (String.ofList (text.toList.flatMap Fragment.doubled)) = .ok p ∧
        ∀ context, p.render context = text := by
  refine ⟨fun text p h => ?_, fun fragments => compile_of_normal, fun text => ?_⟩
  · have hnormal := normal_of_compile h
    exact ⟨hnormal, compile_of_normal hnormal⟩
  · have hspelled : (String.ofList (text.toList.flatMap Fragment.doubled)).toList =
        spelled (text.toList.map Fragment.symbolOf) := by
      rw [String.toList_ofList, Fragment.spelled_map_symbolOf]
    have hp := compile_of_spelled hspelled
    refine ⟨_, hp, fun context => ?_⟩
    rw [render_of_spelled hspelled hp, ← String.toList_inj, String.toList_join, List.map_map,
      List.flatMap_map]
    simp only [Function.comp_apply, Fragment.meaning_symbolOf, Char.toString_eq_singleton,
      String.toList_singleton, List.flatMap_singleton']

/-- A dollar sign and a space in one literal behind a slot; only the dollar sign is written as a
directive. -/
theorem compile_written_dollar_and_space :
    Normal [.slot .engineName, .literal "$ a"] ∧
      compile "$e$$ a" = .ok ⟨"$e$$ a", [.slot .engineName, .literal "$ a"]⟩ := by
  have hp : compile "$e$$$Sa" = .ok ⟨"$e$$$Sa", [.slot .engineName, .literal "$ a"]⟩ := by
    decide +kernel
  have hwritten : written [.slot .engineName, .literal "$ a"] = "$e$$ a" := by decide +kernel
  have hnormal := (compile_written.1 _ _ hp).1
  have hback := compile_written.2.1 _ hnormal
  rw [hwritten] at hback
  exact ⟨hnormal, hback⟩

end Prompt

end LineRepl
