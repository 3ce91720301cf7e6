/-
The values of a TOML document that hold no other values: strings, numbers and dates.

Every reader takes the characters from its value on and gives the value and the characters after
it, or nothing if no such value starts there.
-/
import LineRepl.Binary64.Text
import LineRepl.Toml.Node

namespace LineRepl.Toml

/-! ### Characters -/

/-- Blanks within a line. -/
def isSpace (c : Char) : Bool := c == ' ' || c == '\t'

/-- Characters that may stand in strings and comments; controls may not, apart from the
tabulator. -/
def isPlain (c : Char) : Bool := c == '\t' || (' ' ≤ c && c != '\x7f')

/-- The value of a hexadecimal digit. -/
def hexValue? (c : Char) : Option Nat :=
  if c.isDigit then some (c.toNat - 48)
  else if 'a' ≤ c ∧ c ≤ 'f' then some (c.toNat - 87)
  else if 'A' ≤ c ∧ c ≤ 'F' then some (c.toNat - 55)
  else none

/-- The number that hexadecimal digits spell. -/
def hexNumber? (cs : List Char) : Option Nat :=
  cs.foldlM (fun n c => (hexValue? c).map (16 * n + ·)) 0

/-- The character of a code point that hexadecimal digits spell. -/
def codePoint? (cs : List Char) : Option Char :=
  (hexNumber? cs).bind fun n => if n.isValidChar then some (Char.ofNat n) else none

/-! ### Strings -/

/-- Puts a character before a text that was read. -/
def consText (c : Char) (r : Option (List Char × List Char)) : Option (List Char × List Char) :=
  r.map fun (text, rest) => (c :: text, rest)

/-- The character that a letter stands for after a backslash. -/
def escape? : Char → Option Char
  | 'b' => some '\x08'
  | 't' => some '\t'
  | 'n' => some '\n'
  | 'f' => some '\x0c'
  | 'r' => some '\r'
  | '"' => some '"'
  | '\\' => some '\\'
  | _ => none

/-- The rest of a string between double quotes. -/
def basicString : List Char → Option (List Char × List Char)
  | [] => none
  | '"' :: rest => some ([], rest)
  | '\\' :: 'u' :: a :: b :: c :: d :: rest =>
    (codePoint? [a, b, c, d]).bind fun x => consText x (basicString rest)
  | '\\' :: 'U' :: a :: b :: c :: d :: e :: f :: g :: h :: rest =>
    (codePoint? [a, b, c, d, e, f, g, h]).bind fun x => consText x (basicString rest)
  | '\\' :: c :: rest => (escape? c).bind fun x => consText x (basicString rest)
  | c :: rest => if c ≠ '\\' ∧ isPlain c then consText c (basicString rest) else none

/-- The rest of a string between single quotes. -/
def literalString : List Char → Option (List Char × List Char)
  | [] => none
  | '\'' :: rest => some ([], rest)
  | c :: rest => if isPlain c then consText c (literalString rest) else none

/-- What follows the three quotes that close a string of several lines: one or two quotes more
belong to the string. -/
def closingQuotes (quote : Char) (rest : List Char) : List Char × List Char :=
  match rest with
  | a :: b :: after =>
    if a = quote ∧ b = quote then ([a, b], after)
    else if a = quote then ([a], b :: after)
    else ([], rest)
  | [a] => if a = quote then ([a], []) else ([], rest)
  | [] => ([], [])

/-- Only blanks stand before the end of the line. -/
def endsLine (cs : List Char) : Bool :=
  match cs.dropWhile isSpace with
  | '\n' :: _ | '\r' :: '\n' :: _ => true
  | _ => false

/-- The rest of a string of several lines between double quotes. After a backslash at the end of a
line, `skipping`, blanks and line ends are left out up to the next other character. -/
def basicLines (skipping : Bool) : List Char → Option (List Char × List Char)
  | [] => none
  | '"' :: '"' :: '"' :: rest => some (closingQuotes '"' rest)
  | '\r' :: '\n' :: rest =>
    if skipping then basicLines true rest else consText '\n' (basicLines false rest)
  | '\n' :: rest =>
    if skipping then basicLines true rest else consText '\n' (basicLines false rest)
  | '\\' :: 'u' :: a :: b :: c :: d :: rest =>
    (codePoint? [a, b, c, d]).bind fun x => consText x (basicLines false rest)
  | '\\' :: 'U' :: a :: b :: c :: d :: e :: f :: g :: h :: rest =>
    (codePoint? [a, b, c, d, e, f, g, h]).bind fun x => consText x (basicLines false rest)
  | '\\' :: c :: rest =>
    match escape? c with
    | some x => consText x (basicLines false rest)
    | none => if endsLine (c :: rest) then basicLines true (c :: rest) else none
  | c :: rest =>
    if skipping ∧ isSpace c then basicLines true rest
    else if c ≠ '\\' ∧ isPlain c then consText c (basicLines false rest)
    else none

/-- The rest of a string of several lines between single quotes. -/
def literalLines : List Char → Option (List Char × List Char)
  | [] => none
  | '\'' :: '\'' :: '\'' :: rest => some (closingQuotes '\'' rest)
  | '\r' :: '\n' :: rest => consText '\n' (literalLines rest)
  | c :: rest => if c = '\n' ∨ isPlain c then consText c (literalLines rest) else none

/-- A line end at the front is not part of a string of several lines. -/
def dropLineEnd : List Char → List Char
  | '\n' :: rest => rest
  | '\r' :: '\n' :: rest => rest
  | cs => cs

/-- A string of any of the four forms. -/
def string? (cs : List Char) : Option (String × List Char) :=
  let text := match cs with
    | '"' :: '"' :: '"' :: rest => basicLines false (dropLineEnd rest)
    | '"' :: rest => basicString rest
    | '\'' :: '\'' :: '\'' :: rest => literalLines (dropLineEnd rest)
    | '\'' :: rest => literalString rest
    | _ => none
  text.map fun (text, rest) => (String.ofList text, rest)

/-! ### Numbers -/

/-- Digits, between any two of which an underscore may stand. -/
def digitTail (isDigit : Char → Bool) : List Char → List Char × List Char
  | [] => ([], [])
  | '_' :: c :: rest =>
    if isDigit c then
      let (digits, rest) := digitTail isDigit rest
      (c :: digits, rest)
    else ([], '_' :: c :: rest)
  | c :: rest =>
    if isDigit c then
      let (digits, rest) := digitTail isDigit rest
      (c :: digits, rest)
    else ([], c :: rest)

/-- At least one digit, and underscores between digits. -/
def digits? (isDigit : Char → Bool) : List Char → Option (List Char × List Char)
  | [] => none
  | c :: rest =>
    if isDigit c then
      let (digits, rest) := digitTail isDigit rest
      some (c :: digits, rest)
    else none

/-- An optional sign; true stands for minus. -/
def sign : List Char → Bool × List Char
  | '-' :: rest => (true, rest)
  | '+' :: rest => (false, rest)
  | cs => (false, cs)

/-- Decimal digits without needless zeros in front. -/
def wholeDigits? : List Char → Option (List Char × List Char)
  | '0' :: rest => some (['0'], rest)
  | cs => digits? Char.isDigit cs

/-- An exponent: its letter, a sign and digits. -/
def exponent? : List Char → Option (Int × List Char)
  | c :: rest =>
    if c = 'e' ∨ c = 'E' then
      let (negative, rest) := sign rest
      (digits? Char.isDigit rest).map fun (digits, rest) =>
        (Binary64.signed negative (Binary64.digitsValue digits), rest)
    else none
  | [] => none

/-- A number with a fraction or an exponent. The positive numbers beyond the greatest float are
refused. -/
def float? (cs : List Char) : Option (Node × List Char) := do
  let (negative, cs) := sign cs
  let (whole, cs) ← wholeDigits? cs
  let (decimal, cs) ←
    match cs with
    | '.' :: rest => do
      let (fraction, rest) ← digits? Char.isDigit rest
      let (exponent, rest) := (exponent? rest).getD (0, rest)
      let digits := Binary64.digitsValue (whole ++ fraction)
      some ((⟨digits, exponent - fraction.length⟩ : Decimal), rest)
    | rest => do
      let (exponent, rest) ← exponent? rest
      some (⟨Binary64.digitsValue whole, exponent⟩, rest)
  let x := decimal.toBinary64 negative
  if x = .infinite false then none else some (.float x, cs)

/-- A named number: infinity or "not a number", with an optional sign. -/
def namedFloat? (cs : List Char) : Option (Node × List Char) :=
  let (negative, cs) := sign cs
  match cs with
  | 'i' :: 'n' :: 'f' :: rest => some (.float (.infinite negative), rest)
  | 'n' :: 'a' :: 'n' :: rest => some (.float .nan, rest)
  | _ => none

/-- The integer with the given sign and magnitude, if it has 64 bits. -/
def integerNode? (negative : Bool) (magnitude : Nat) : Option Node :=
  let n := Binary64.signed negative magnitude
  if Int64.minValue.toInt ≤ n ∧ n ≤ Int64.maxValue.toInt then some (.integer n) else none

/-- The number that digits spell in a base. -/
def baseNumber (base : Nat) (digits : List Char) : Nat :=
  digits.foldl (fun n c => base * n + (hexValue? c).getD 0) 0

/-- The digits of an integer in a base that is written after a letter. -/
def basedInteger? (base : Nat) (isDigit : Char → Bool) (cs : List Char) :
    Option (Node × List Char) := do
  let (digits, rest) ← digits? isDigit cs
  let node ← integerNode? false (baseNumber base digits)
  some (node, rest)

/-- An integer, in decimal or after the mark of another base. -/
def integer? (cs : List Char) : Option (Node × List Char) :=
  match cs with
  | '0' :: 'x' :: rest => basedInteger? 16 (fun c => (hexValue? c).isSome) rest
  | '0' :: 'o' :: rest => basedInteger? 8 (fun c => '0' ≤ c && c ≤ '7') rest
  | '0' :: 'b' :: rest => basedInteger? 2 (fun c => c == '0' || c == '1') rest
  | cs => do
    let (negative, cs) := sign cs
    let (digits, rest) ← wholeDigits? cs
    let node ← integerNode? negative (Binary64.digitsValue digits)
    some (node, rest)

/-! ### Dates and times -/

/-- A number of exactly so many digits. -/
def fixedDigits? (count : Nat) (cs : List Char) : Option (Nat × List Char) :=
  let digits := cs.take count
  if digits.length = count ∧ digits.all Char.isDigit then
    some (Binary64.digitsValue digits, cs.drop count)
  else none

/-- A number of two digits that is at most `most`. -/
def twoDigits? (most : Nat) (cs : List Char) : Option (Nat × List Char) :=
  (fixedDigits? 2 cs).bind fun (n, rest) => if n ≤ most then some (n, rest) else none

/-- The rest after a character that has to be there. -/
def expect? (c : Char) : List Char → Option (List Char)
  | d :: rest => if d = c then some rest else none
  | [] => none

/-- The number of days of a month. -/
def monthLength (year month : Nat) : Nat :=
  if month = 2 then
    if (year % 4 = 0 ∧ year % 100 ≠ 0) ∨ year % 400 = 0 then 29 else 28
  else if month = 4 ∨ month = 6 ∨ month = 9 ∨ month = 11 then 30
  else 31

/-- A day of the calendar. -/
def date? (cs : List Char) : Option (List Char) := do
  let (year, cs) ← fixedDigits? 4 cs
  let cs ← expect? '-' cs
  let (month, cs) ← twoDigits? 12 cs
  let cs ← expect? '-' cs
  let (day, cs) ← twoDigits? (monthLength year month) cs
  if month = 0 ∨ day = 0 then none else some cs

/-- A time of the day, with a leap second and with fractions of seconds. -/
def time? (cs : List Char) : Option (List Char) := do
  let (_, cs) ← twoDigits? 23 cs
  let cs ← expect? ':' cs
  let (_, cs) ← twoDigits? 59 cs
  let cs ← expect? ':' cs
  let (_, cs) ← twoDigits? 60 cs
  match cs with
  | '.' :: c :: rest => if c.isDigit then some (rest.dropWhile Char.isDigit) else some cs
  | _ => some cs

/-- The distance of a local time from universal time. -/
def offset? (cs : List Char) : Option (List Char) :=
  match cs with
  | c :: rest =>
    if c = 'Z' ∨ c = 'z' then some rest
    else if c = '+' ∨ c = '-' then do
      let (_, cs) ← twoDigits? 23 rest
      let cs ← expect? ':' cs
      let (_, cs) ← twoDigits? 59 cs
      some cs
    else none
  | [] => none

/-- A day, a time, or both. -/
def datetime? (cs : List Char) : Option (Node × List Char) :=
  let rest :=
    match date? cs with
    | some rest =>
      match rest with
      | c :: more =>
        if c = 'T' ∨ c = 't' ∨ c = ' ' then
          match time? more with
          | some rest => some ((offset? rest).getD rest)
          | none => some rest
        else some rest
      | [] => some []
    | none => time? cs
  rest.map fun rest => (.datetime, rest)

/-- A value that holds no other values. -/
def scalar? (cs : List Char) : Option (Node × List Char) :=
  match cs with
  | 't' :: 'r' :: 'u' :: 'e' :: rest => some (.boolean true, rest)
  | 'f' :: 'a' :: 'l' :: 's' :: 'e' :: rest => some (.boolean false, rest)
  | c :: _ =>
    if c = '"' ∨ c = '\'' then (string? cs).map fun (s, rest) => (.string s, rest)
    else (((datetime? cs).or (float? cs)).or (namedFloat? cs)).or (integer? cs)
  | [] => none

end LineRepl.Toml
