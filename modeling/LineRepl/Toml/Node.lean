/-
The tree that a TOML document builds, and the rules about which tables may be opened and extended.

* `Table.insert`: a key and a value in a table, where a dotted key makes the tables on its way.
* `Table.openTable`, `Table.openElement`: the table that a header names.
* `Table.within`: a change in the table that the last header named.
-/
import LineRepl.Binary64.Basic

namespace LineRepl.Toml

/-- How a table came to be, which decides about what may be added to it. -/
inductive Origin where
  /-- Written as one value, between braces. -/
  | inline
  /-- Named by a header of its own. -/
  | header
  /-- On the way to the table of a header. -/
  | implied
  /-- On the way of a dotted key. -/
  | dotted
  deriving DecidableEq, Repr

/-- A value of a document, a table, or an array of tables that headers add to. -/
inductive Node where
  | string (s : String)
  | integer (n : Int)
  | float (x : Binary64)
  | boolean (b : Bool)
  | datetime
  | array (items : List Node)
  | table (origin : Origin) (entries : List (String × Node))
  | tables (elements : List (List (String × Node)))
  deriving Repr

/-- The entries of a table. -/
abbrev Table := List (String × Node)

namespace Table

/-- Gives a key that the table has another value. -/
def replace (key : String) (node : Node) : Table → Table
  | [] => []
  | (k, n) :: rest => if k = key then (k, node) :: rest else (k, n) :: replace key node rest

/-- Changes the table at the end of a path. Tables that are missing on the way are made with the
origin `made`; a dotted key does not pass through a table that has a header or was written as a
value; an array of tables is passed through at its last element. -/
def changeAt (made : Origin) (change : Origin → Table → Option Table) :
    (path : List String) → (origin : Origin) → Table → Option Table
  | [], origin, t => change origin t
  | key :: path, _, t =>
    match t.lookup key with
    | none =>
      (changeAt made change path made []).map fun below => t ++ [(key, .table made below)]
    | some (.table origin below) =>
      if origin = .inline ∨ (made = .dotted ∧ origin = .header) then none
      else
        (changeAt made change path origin below).map fun below =>
          replace key (.table origin below) t
    | some (.tables elements) =>
      match elements.getLast? with
      | none => none
      | some last =>
        (changeAt made change path .header last).map fun last =>
          replace key (.tables (elements.dropLast ++ [last])) t
    | some _ => none

/-- Puts a new key into a table. A table on the way of dotted keys takes keys only on that way, and
any other table takes none that way. -/
def add (dotted : Bool) (key : String) (node : Node) (origin : Origin) (t : Table) :
    Option Table :=
  if (origin = .dotted) = (dotted = true) ∧ t.lookup key = none then some (t ++ [(key, node)])
  else none

/-- Puts a value under a dotted key, given by the keys before the last dot and the key after
it. -/
def insert (path : List String) (key : String) (node : Node) (origin : Origin) (t : Table) :
    Option Table :=
  changeAt .dotted (add (!path.isEmpty) key node) path origin t

/-- The table that a header names by a path and a key: it is made, or it was implied so far. -/
def openTable (path : List String) (key : String) (t : Table) : Option Table :=
  changeAt .implied (fun _ t =>
    match t.lookup key with
    | none => some (t ++ [(key, .table .header [])])
    | some (.table .implied below) => some (replace key (.table .header below) t)
    | some _ => none) path .header t

/-- Another element of the array of tables that a header names by a path and a key. -/
def openElement (path : List String) (key : String) (t : Table) : Option Table :=
  changeAt .implied (fun _ t =>
    match t.lookup key with
    | none => some (t ++ [(key, .tables [[]])])
    | some (.tables elements) => some (replace key (.tables (elements ++ [[]])) t)
    | some _ => none) path .header t

/-- Puts a value under a dotted key of the table that the last header named. -/
def within (header path : List String) (key : String) (node : Node) (t : Table) : Option Table :=
  changeAt .implied (insert path key node) header .header t

end Table

end LineRepl.Toml
