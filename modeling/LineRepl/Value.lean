/-
Values: what engines compute, names are bound to and printers show.

A stream is a handle; the stream itself is kept in a store, so that all copies of
the handle see the same position (`LineRepl.Store`). An object carries an identity, so
that two objects that look alike are still told apart.

* `Value.kind`: the kind of a value, the key for renderers.
* `Value.text`, `Value.debugText`: how a value is displayed and how it is shown with its
  kind.
* `Value.same`: equality of values, by handle and identity where there is one.
-/
import LineRepl.Binary64.Text
import LineRepl.NativeFunction
import LineRepl.Text.Quoted

namespace LineRepl

/-- A public member of a value: its name and how many arguments it takes. -/
structure Member where
  name : String
  arity : Nat
  deriving DecidableEq, Repr

/-- A value that only its engine understands: others can display it, name its type
and list its members. -/
structure Object where
  identity : Nat
  typeName : String
  display : String
  members : List Member
  deriving DecidableEq, Repr

/-- The kinds of values. -/
inductive Kind where
  | bool
  | int
  | float
  | str
  | list
  | stream
  | function
  | object (typeName : String)
  deriving DecidableEq, Repr

/-- The name of a kind; an object is of its type's name. -/
def Kind.name : Kind → String
  | .bool => "Bool"
  | .int => "Int"
  | .float => "Float"
  | .str => "Str"
  | .list => "List"
  | .stream => "Stream"
  | .function => "Function"
  | .object typeName => typeName

/-- A value. -/
inductive Value where
  | bool (b : Bool)
  | int (n : Int64)
  | float (x : Binary64)
  | str (s : String)
  | list (items : List Value)
  | stream (handle : Nat)
  | function (f : NativeFunction)
  | object (o : Object)
  deriving Repr

namespace Value

instance : Inhabited Value := ⟨.bool false⟩

/-- The kind of a value. -/
def kind : Value → Kind
  | .bool _ => .bool
  | .int _ => .int
  | .float _ => .float
  | .str _ => .str
  | .list _ => .list
  | .stream _ => .stream
  | .function _ => .function
  | .object o => .object o.typeName

/-- The members of a value; a function has one, by which it is called. -/
def members : Value → List Member
  | .function f => [⟨"call", f.arity⟩]
  | .object o => o.members
  | _ => []

/-- The number that a numeric value stands for; integers beyond 53 bits are
rounded. -/
def toBinary64? : Value → Option Binary64
  | .int n => some (.ofInt n.toInt)
  | .float x => some x
  | _ => none

/-- The value counts as true. -/
def isTruthy : Value → Bool
  | .bool b => b
  | .int n => n != 0
  | .float x => !x.isZero
  | .str s => s != ""
  | .list items => !items.isEmpty
  | _ => true

/-! ### Text of a value -/

mutual

/-- The displayed text of a value. -/
def text : Value → String
  | .bool b => if b then "true" else "false"
  | .int n => integerText n.toInt
  | .float x => x.toText
  | .str s => s
  | .list items => "[" ++ itemsText items ++ "]"
  | .stream _ => "<stream>"
  | .function f => "<fn " ++ f.name ++ ">"
  | .object o => o.display

/-- The displayed texts of the items of a list, with commas between them. -/
def itemsText : List Value → String
  | [] => ""
  | [v] => v.text
  | v :: w :: rest => v.text ++ ", " ++ itemsText (w :: rest)

end

/-- The text of a value together with its kind; the text of a string is quoted. -/
def debugText : Value → String
  | .str s => "Str(" ++ Text.quoted s ++ ")"
  | .stream _ => "LazySeq(..)"
  | v => v.kind.name ++ "(" ++ v.text ++ ")"

/-! ### Equality -/

mutual

/-- Equality of values: of one kind and equal in content, where floats compare as
numbers, streams by handle and objects by identity. -/
def same : Value → Value → Bool
  | .bool a, .bool b => a == b
  | .int a, .int b => a == b
  | .float a, .float b => a.eq b
  | .str a, .str b => a == b
  | .list a, .list b => sameItems a b
  | .stream a, .stream b => a == b
  | .function a, .function b => a == b
  | .object a, .object b => a.identity == b.identity
  | _, _ => false

/-- Equality item by item of lists of one length. -/
def sameItems : List Value → List Value → Bool
  | [], [] => true
  | v :: vs, w :: ws => same v w && sameItems vs ws
  | _, _ => false

end

end Value

end LineRepl
