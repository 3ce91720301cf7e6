/-
Text in quotes, with an escape for every character that could not be seen or
would end the quotes.

* `quoted`: a text between double quotes.
* `quotedChar`: a character between single quotes.
-/
import LineRepl.Text.Visible

namespace LineRepl.Text

/-- One hexadecimal digit, in lower case. -/
def hexDigit (n : Nat) : Char := if n < 10 then Char.ofNat (48 + n) else Char.ofNat (87 + n)

/-- The hexadecimal digits of a positive number; none for zero. -/
def hexDigits (n : Nat) : List Char :=
  if _ : n = 0 then [] else hexDigits (n / 16) ++ [hexDigit (n % 16)]
  termination_by n
  decreasing_by omega

/-- The code point of a character as an escape. -/
def codePointEscape (c : Char) : List Char :=
  ['\\', 'u', '\x7b'] ++ (if c.toNat = 0 then ['0'] else hexDigits c.toNat) ++ ['\x7d']

/-- A character inside the given quotes: the quote and the backslash after a
backslash, the common controls by a letter, what is hidden by its code point and all
else as itself. -/
def escape (quote c : Char) : List Char :=
  if c = quote ∨ c = '\\' then ['\\', c]
  else if c = '\n' then ['\\', 'n']
  else if c = '\r' then ['\\', 'r']
  else if c = '\t' then ['\\', 't']
  else if c = '\x00' then ['\\', '0']
  else if isVisible c then [c]
  else codePointEscape c

/-- The text between double quotes. -/
def quoted (s : String) : String :=
  String.ofList ('"' :: s.toList.flatMap (escape '"') ++ ['"'])

/-- The character between single quotes. -/
def quotedChar (c : Char) : String :=
  String.ofList ('\'' :: escape '\'' c ++ ['\''])

end LineRepl.Text
