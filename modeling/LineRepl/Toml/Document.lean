/-
TOML documents: lines with keys and values, and headers that name the table they belong to.

* `value`: a value with the values in it.
* `Document.read?`: the table that a text stands for, if it is a document.

Nesting of values and length of keys are limited.
-/
import LineRepl.Toml.Scalar

namespace LineRepl.Toml

/-- The nesting of values and the length of keys stay below this. -/
def nestingLimit : Nat := 80

/-! ### Blanks and comments -/

/-- The characters after the blanks. -/
def skipSpaces (cs : List Char) : List Char := cs.dropWhile isSpace

/-- The characters after a comment, if one starts here. -/
def skipComment (cs : List Char) : List Char :=
  match cs with
  | '#' :: rest => rest.dropWhile isPlain
  | cs => cs

/-- The characters after blanks, line ends and comments. -/
def skipLines (cs : List Char) : List Char :=
  match cs with
  | '\n' :: rest => skipLines rest
  | '\r' :: '\n' :: rest => skipLines rest
  | '#' :: rest => skipLines (rest.dropWhile isPlain)
  | c :: rest => if isSpace c then skipLines rest else c :: rest
  | [] => []
  termination_by cs.length
  decreasing_by
  · exact Nat.lt_succ_self _
  · exact Nat.lt_succ_of_lt (Nat.lt_succ_self _)
  · exact Nat.lt_succ_of_le (List.dropWhile_suffix _).length_le
  · exact Nat.lt_succ_self _

/-- The characters after a line end, if it is here; the end of the text is one. -/
def lineEnd? (cs : List Char) : Option (List Char) :=
  match cs with
  | [] => some []
  | '\n' :: rest => some rest
  | '\r' :: '\n' :: rest => some rest
  | _ => none

/-- The characters after the rest of a line on which nothing but a comment is left. -/
def finishLine? (cs : List Char) : Option (List Char) := lineEnd? (skipComment (skipSpaces cs))

/-! ### Keys -/

/-- Characters of keys without quotes. -/
def isKeyChar (c : Char) : Bool := c.isAlphanum || c == '_' || c == '-'

/-- One key, with or without quotes. -/
def simpleKey? (cs : List Char) : Option (String × List Char) :=
  match cs with
  | '"' :: rest => (basicString rest).map fun (s, rest) => (String.ofList s, rest)
  | '\'' :: rest => (literalString rest).map fun (s, rest) => (String.ofList s, rest)
  | cs =>
    let name := cs.takeWhile isKeyChar
    if name.isEmpty then none else some (String.ofList name, cs.dropWhile isKeyChar)

/-- Keys with dots between them, and blanks around each. -/
def keys? (cs : List Char) : Option (List String × List Char) :=
  match simpleKey? (skipSpaces cs) with
  | none => none
  | some (key, rest) =>
    match skipSpaces rest with
    | '.' :: after =>
      if _ : after.length < cs.length then (keys? after).map fun (keys, rest) => (key :: keys, rest)
      else none
    | rest => some ([key], rest)
  termination_by cs.length

/-- A dotted key: the keys before the last dot and the key after it. -/
structure Path where
  parents : List String
  key : String
  deriving DecidableEq, Repr

/-- A dotted key that is not too long. -/
def path? (cs : List Char) : Option (Path × List Char) :=
  match keys? cs with
  | none => none
  | some (keys, rest) =>
    match keys.getLast? with
    | none => none
    | some key => if keys.length < nestingLimit then some (⟨keys.dropLast, key⟩, rest) else none

/-! ### Values -/

/-- Skipping blanks, line ends and comments takes characters away only. -/
theorem length_skipLines_le (cs : List Char) : (skipLines cs).length ≤ cs.length := by
  fun_induction skipLines cs with
  | case1 rest ih => exact Nat.le_succ_of_le ih
  | case2 rest ih => exact Nat.le_succ_of_le (Nat.le_succ_of_le ih)
  | case3 rest ih =>
    exact Nat.le_succ_of_le (Nat.le_trans ih (List.dropWhile_suffix isPlain).length_le)
  | case4 c rest _ _ _ _ ih => exact Nat.le_succ_of_le ih
  | case5 | case6 => exact Nat.le_refl _

mutual

/-- A value. `depth` is the number of arrays and tables around it. -/
def value (depth : Nat) (cs : List Char) : Option (Node × List Char) :=
  match cs with
  | '[' :: rest =>
    if depth + 1 < nestingLimit then
      (elements (depth + 1) rest).map fun (items, rest) => (.array items, rest)
    else none
  | '\x7b' :: rest =>
    if depth + 1 < nestingLimit then
      match skipSpaces rest with
      | '\x7d' :: rest => some (.table .inline [], rest)
      | _ => (fields (depth + 1) [] rest).map fun (entries, rest) => (.table .inline entries, rest)
    else none
  | cs => scalar? cs
  termination_by (cs.length, 0)

/-- The elements of an array up to its closing bracket. A comma may stand after the last. -/
def elements (depth : Nat) (cs : List Char) : Option (List Node × List Char) :=
  match _start : skipLines cs with
  | ']' :: rest => some ([], rest)
  | c :: more =>
    match value depth (c :: more) with
    | none => none
    | some (first, rest) =>
      match skipLines rest with
      | ']' :: rest => some ([first], rest)
      | ',' :: rest =>
        if _ : rest.length < cs.length then
          (elements depth rest).map fun (others, rest) => (first :: others, rest)
        else none
      | _ => none
  | [] => none
  termination_by (cs.length, 1)
  decreasing_by
  · have := length_skipLines_le cs
    rw [_start] at this
    rcases Nat.lt_or_eq_of_le this with h | h
    · exact Prod.Lex.left _ _ h
    · rw [h]; exact Prod.Lex.right _ (by decide)
  · exact Prod.Lex.left _ _ (by assumption)

/-- The fields of a table up to its closing brace, put into the table that the fields before them
made. -/
def fields (depth : Nat) (t : Table) (cs : List Char) : Option (Table × List Char) :=
  match path? cs with
  | some (path, '=' :: rest) =>
    if _ : (skipSpaces rest).length < cs.length then
      match value depth (skipSpaces rest) with
      | none => none
      | some (node, rest) =>
        match Table.insert path.parents path.key node .inline t with
        | none => none
        | some t =>
          match skipSpaces rest with
          | '\x7d' :: rest => some (t, rest)
          | ',' :: rest => if _ : rest.length < cs.length then fields depth t rest else none
          | _ => none
    else none
  | _ => none
  termination_by (cs.length, 1)

end

/-! ### Lines -/

/-- A document as far as it has been read: all of it as a table, and the path of the last
header. -/
structure Document where
  root : Table
  header : List String

namespace Document

/-- Reads a header in double brackets, of which the first two are gone. -/
def elementHeader? (d : Document) (cs : List Char) : Option (Document × List Char) := do
  let (path, rest) ← path? cs
  let rest ← expect? ']' rest
  let rest ← expect? ']' rest
  let root ← d.root.openElement path.parents path.key
  some (⟨root, path.parents ++ [path.key]⟩, rest)

/-- Reads a header in single brackets, of which the first is gone. -/
def tableHeader? (d : Document) (cs : List Char) : Option (Document × List Char) := do
  let (path, rest) ← path? cs
  let rest ← expect? ']' rest
  let root ← d.root.openTable path.parents path.key
  some (⟨root, path.parents ++ [path.key]⟩, rest)

/-- Reads a key and its value. -/
def keyValue? (d : Document) (cs : List Char) : Option (Document × List Char) := do
  let (path, rest) ← path? cs
  let rest ← expect? '=' rest
  let (node, rest) ← value 0 (skipSpaces rest)
  let root ← d.root.within d.header path.parents path.key node
  some ({ d with root }, rest)

/-- Reads a header or a key with its value. -/
def entry? (d : Document) (cs : List Char) : Option (Document × List Char) :=
  match cs with
  | '[' :: '[' :: rest => d.elementHeader? rest
  | '[' :: rest => d.tableHeader? rest
  | cs => d.keyValue? cs

/-- Reads the lines of a document. -/
def lines? (d : Document) (cs : List Char) : Option Document :=
  match skipLines cs with
  | [] => some d
  | c :: more =>
    match d.entry? (c :: more) with
    | none => none
    | some (d, rest) =>
      match finishLine? rest with
      | none => none
      | some rest => if _ : rest.length < cs.length then lines? d rest else none
  termination_by cs.length

/-- The table that a text stands for, if the text is a document. A mark of the byte order at the
front is passed over. -/
def read? (text : String) : Option Table :=
  let cs := match text.toList with
    | '\ufeff' :: rest => rest
    | cs => cs
  (lines? ⟨[], []⟩ cs).map (·.root)

end Document

end LineRepl.Toml
