/-
The words of an expression line: tokens, the columns they stand at, and what can be
wrong with a line before its value is looked for.
-/
import LineRepl.Value

namespace LineRepl.Calc

/-- A token of an expression line. -/
inductive Token where
  | int (n : Int64)
  | float (x : Binary64)
  | str (s : String)
  | ident (name : String)
  | plus
  | minus
  | star
  | slash
  | percent
  | openParen
  | closeParen
  | openBracket
  | closeBracket
  | comma
  | assign
  | eq
  | ne
  | lt
  | le
  | gt
  | ge
  deriving DecidableEq, Repr

/-- The kind of a token together with its content, as messages show it. -/
def Token.debugText : Token → String
  | .int n => "Int(" ++ integerText n.toInt ++ ")"
  | .float x => "Float(" ++ x.toDebugText ++ ")"
  | .str s => "Str(" ++ Text.quoted s ++ ")"
  | .ident name => "Ident(" ++ Text.quoted name ++ ")"
  | .plus => "Plus"
  | .minus => "Minus"
  | .star => "Star"
  | .slash => "Slash"
  | .percent => "Percent"
  | .openParen => "LParen"
  | .closeParen => "RParen"
  | .openBracket => "LBracket"
  | .closeBracket => "RBracket"
  | .comma => "Comma"
  | .assign => "Assign"
  | .eq => "Eq"
  | .ne => "Ne"
  | .lt => "Lt"
  | .le => "Le"
  | .gt => "Gt"
  | .ge => "Ge"

/-- A token and the column, from 1, of its first character. -/
structure PlacedToken where
  token : Token
  column : Nat
  deriving DecidableEq, Repr

/-- The brackets that enclose arguments and items. -/
inductive Bracket where
  | paren
  | square
  deriving DecidableEq, Repr

/-- The token that closes a bracket. -/
def Bracket.close : Bracket → Token
  | .paren => .closeParen
  | .square => .closeBracket

/-- What is wrong with a line that is no statement. -/
inductive SyntaxFault where
  | unexpectedCharacter (c : Char)
  | integerTooLarge (digits : String)
  | unterminatedString
  | unexpectedToken (t : Token)
  | unexpectedEnd
  | expectedClose (b : Bracket)
  | nestedTooDeeply
  deriving DecidableEq, Repr

/-- The wording of a fault. -/
def SyntaxFault.message : SyntaxFault → String
  | .unexpectedCharacter c => "unexpected character '" ++ c.toString ++ "'"
  | .integerTooLarge digits => "integer literal too large '" ++ digits ++ "'"
  | .unterminatedString => "unterminated string"
  | .unexpectedToken t => "unexpected token " ++ t.debugText
  | .unexpectedEnd => "unexpected end of input"
  | .expectedClose .paren => "expected ')'"
  | .expectedClose .square => "expected ']'"
  | .nestedTooDeeply => "expression nested too deeply"

/-- A fault and the column it is reported at. -/
structure SyntaxError where
  fault : SyntaxFault
  column : Nat
  deriving DecidableEq, Repr

end LineRepl.Calc
