/-
Splitting an expression line into tokens.

* `scan`: the token that starts with a given character, as long as it can be.
* `tokenize`: all tokens of a line with their columns, counted in characters.
-/
import LineRepl.Calc.Token
import LineRepl.Text.Blank
import LineRepl.Text.Name

namespace LineRepl.Calc

/-! ### One token -/

/-- The number at the front of the line and how many characters it has after the
first one, which is the digit `c`. A point belongs to the number only between
digits. -/
def scanNumber (c : Char) (cs : List Char) : Except SyntaxFault (Token × Nat) :=
  let whole := c :: cs.takeWhile Char.isDigit
  match cs.dropWhile Char.isDigit with
  | '.' :: d :: more =>
    if d.isDigit then
      let fraction := d :: more.takeWhile Char.isDigit
      let decimal : Decimal := ⟨Binary64.digitsValue (whole ++ fraction), -fraction.length⟩
      .ok (.float (decimal.toBinary64 false), whole.length + fraction.length)
    else integer whole
  | _ => integer whole
where
  /-- The integer with the given digits, if it has 64 bits. -/
  integer (digits : List Char) : Except SyntaxFault (Token × Nat) :=
    let n := Binary64.digitsValue digits
    if n < 1 <<< 63 then .ok (.int (Int64.ofNat n), digits.length - 1)
    else .error (.integerTooLarge (String.ofList digits))

/-- The character that a backslash and a letter stand for inside quotes. -/
def unescape : Char → Char
  | 'n' => '\n'
  | 't' => '\t'
  | c => c

/-- The characters up to the closing quote, decoded, and how many characters were
read, the quote included; none if there is no closing quote. -/
def scanString : List Char → Option (List Char × Nat)
  | [] => none
  | '"' :: _ => some ([], 1)
  | '\\' :: c :: rest => (scanString rest).map fun (text, n) => (unescape c :: text, n + 2)
  | c :: rest => (scanString rest).map fun (text, n) => (c :: text, n + 1)

/-- The operator that starts with `c`, where `next` is the character after it, and
how many characters it has after the first. -/
def scanOperator (c : Char) (next : Option Char) : Option (Token × Nat) :=
  match c, next with
  | '=', some '=' => some (.eq, 1)
  | '!', some '=' => some (.ne, 1)
  | '<', some '=' => some (.le, 1)
  | '>', some '=' => some (.ge, 1)
  | '=', _ => some (.assign, 0)
  | '<', _ => some (.lt, 0)
  | '>', _ => some (.gt, 0)
  | '+', _ => some (.plus, 0)
  | '-', _ => some (.minus, 0)
  | '*', _ => some (.star, 0)
  | '/', _ => some (.slash, 0)
  | '%', _ => some (.percent, 0)
  | '(', _ => some (.openParen, 0)
  | ')', _ => some (.closeParen, 0)
  | '[', _ => some (.openBracket, 0)
  | ']', _ => some (.closeBracket, 0)
  | ',', _ => some (.comma, 0)
  | _, _ => none

/-- The token that starts with `c`, which is not blank, and how many of the
characters `cs` after it belong to it. -/
def scan (c : Char) (cs : List Char) : Except SyntaxFault (Token × Nat) :=
  if c.isDigit then scanNumber c cs
  else if Text.isNameStart c then
    let tail := cs.takeWhile Text.isNameContinue
    .ok (.ident (String.ofList (c :: tail)), tail.length)
  else if c = '"' then
    match scanString cs with
    | some (text, n) => .ok (.str (String.ofList text), n)
    | none => .error .unterminatedString
  else
    match scanOperator c cs.head? with
    | some found => .ok found
    | none => .error (.unexpectedCharacter c)

/-! ### All tokens -/

/-- The tokens of the characters, the first of which stands at `column`. -/
def tokenizeFrom (column : Nat) (cs : List Char) : Except SyntaxError (List PlacedToken) :=
  match cs with
  | [] => .ok []
  | c :: rest =>
    if Text.isBlank c then tokenizeFrom (column + 1) rest
    else
      match scan c rest with
      | .error fault => .error ⟨fault, column⟩
      | .ok (token, n) =>
        (tokenizeFrom (column + 1 + n) (rest.drop n)).map (⟨token, column⟩ :: ·)
  termination_by cs.length
  decreasing_by
  · simp
  · simp only [List.length_drop, List.length_cons]; omega

/-- The tokens of a line. -/
def tokenize (source : String) : Except SyntaxError (List PlacedToken) :=
  tokenizeFrom 1 source.toList

end LineRepl.Calc
