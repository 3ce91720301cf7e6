/-
Prompt templates. A template is read once into fragments; rendering it puts the current
counter and names into the slots.

A dollar sign starts a directive: `$$` and `$S` stand for a dollar sign and a space,
`$i`, `$e` and `$l` for the input count, the engine name and the language name.

* `Piece.ofChars`: what a text spells, piece by piece, or where it goes wrong.
* `Fragment.ofPieces`: neighbouring characters joined to literals.
* `Prompt.compile`, `Prompt.render`: from text to template, from template to prompt.
-/
import LineRepl.Binary64.Text

namespace LineRepl

/-- A place in a template that is filled when it is rendered. -/
inductive Slot where
  | inputCount
  | engineName
  | languageName
  deriving DecidableEq, Repr

/-- A part of a template. -/
inductive Fragment where
  | literal (text : String)
  | slot (s : Slot)
  deriving DecidableEq, Repr

/-- What is wrong with a template. -/
inductive TemplateFault where
  /-- A dollar sign and a character that is no directive. -/
  | unknownDirective (c : Char)
  /-- A dollar sign at the end. -/
  | danglingEscape
  deriving DecidableEq, Repr

/-- A fault and the position, from 0, of its dollar sign. -/
structure TemplateError where
  fault : TemplateFault
  position : Nat
  deriving DecidableEq, Repr

/-- The wording of a fault. -/
def TemplateFault.message : TemplateFault → String
  | .unknownDirective c => "unknown directive '$" ++ c.toString ++ "'"
  | .danglingEscape => "'$' without directive"

/-! ### Reading -/

/-- What one character or one directive of a template stands for. -/
inductive Piece where
  | char (c : Char)
  | slot (s : Slot)
  deriving DecidableEq, Repr

/-- What the directive of a letter stands for. -/
def Piece.ofDirective? : Char → Option Piece
  | '$' => some (.char '$')
  | 'S' => some (.char ' ')
  | 'i' => some (.slot .inputCount)
  | 'e' => some (.slot .engineName)
  | 'l' => some (.slot .languageName)
  | _ => none

/-- The pieces that the characters spell, the first of which stands at
`position`. -/
def Piece.ofChars (position : Nat) : List Char → Except TemplateError (List Piece)
  | [] => .ok []
  | c :: rest =>
    if c = '$' then
      match rest with
      | [] => .error ⟨.danglingEscape, position⟩
      | d :: rest =>
        match Piece.ofDirective? d with
        | some piece => (Piece.ofChars (position + 2) rest).map (piece :: ·)
        | none => .error ⟨.unknownDirective d, position⟩
    else (Piece.ofChars (position + 1) rest).map (.char c :: ·)

/-- Puts a piece before fragments; a character joins the literal that follows
it. -/
def Fragment.cons : Piece → List Fragment → List Fragment
  | .slot s, rest => .slot s :: rest
  | .char c, .literal text :: rest => .literal (c.toString ++ text) :: rest
  | .char c, rest => .literal c.toString :: rest

/-- The fragments of a list of pieces: no literal is empty and no two are
neighbours. -/
def Fragment.ofPieces (pieces : List Piece) : List Fragment := pieces.foldr Fragment.cons []

/-- A template: the text it was read from, and its fragments. -/
structure Prompt where
  source : String
  fragments : List Fragment
  deriving DecidableEq, Repr

/-- What slots are filled with. -/
structure PromptContext where
  inputCount : Nat
  engineName : String
  languageName : String

namespace Prompt

/-- The template that a text spells. -/
def compile (text : String) : Except TemplateError Prompt :=
  (Piece.ofChars 0 text.toList).map fun pieces => ⟨text, Fragment.ofPieces pieces⟩

/-- The template of a new session: language, colon, input count, angle and space. -/
def default : Prompt :=
  ⟨"$l:$i> ", [.slot .languageName, .literal ":", .slot .inputCount, .literal "> "]⟩

instance : Inhabited Prompt := ⟨default⟩

/-- The text of a slot. The count has three digits at least. -/
def slotText (context : PromptContext) : Slot → String
  | .inputCount => paddedText context.inputCount
  | .engineName => context.engineName
  | .languageName => context.languageName

/-- The text of a fragment. -/
def fragmentText (context : PromptContext) : Fragment → String
  | .literal text => text
  | .slot s => slotText context s

/-- The prompt that is shown. -/
def render (p : Prompt) (context : PromptContext) : String :=
  String.join (p.fragments.map (fragmentText context))

end Prompt

end LineRepl
