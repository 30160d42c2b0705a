import SqlBridge.Engine
import SqlBridge.Number.Binary64

namespace SqlBridge

/-- How a run of bytes is held: fixed, growable, or as a view of other memory. -/
inductive ByteForm where
  | fixed
  | growable
  | view
deriving DecidableEq, Repr

/-- A value that a caller hands over or a driver answers with. -/
inductive Value where
  | null
  | bool (b : Bool)
  | int (n : Int)
  | float (x : Binary64)
  | text (s : String)
  | bytes (form : ByteForm) (data : List UInt8)
  | list (items : List Value)
  | tuple (items : List Value)
  | map (entries : List (Value × Value))
  | engine (e : Engine)
  | condition (value type combinator : Value)
deriving Inhabited, Repr, BEq

namespace Value

/-- The name of the kind of a value. -/
def kind : Value → String
  | null => "NoneType"
  | bool _ => "bool"
  | int _ => "int"
  | float _ => "float"
  | text _ => "str"
  | bytes .fixed _ => "bytes"
  | bytes .growable _ => "bytearray"
  | bytes .view _ => "memoryview"
  | list _ => "list"
  | tuple _ => "tuple"
  | map _ => "dict"
  | engine _ => "Engine"
  | condition _ _ _ => "Condition"

/-- Whether a value counts as present: null, false, zero and everything empty do not. -/
def truthy : Value → Bool
  | null => false
  | bool b => b
  | int n => n != 0
  | float x => !x.isZero
  | text s => s != ""
  | bytes _ data => !data.isEmpty
  | list items => !items.isEmpty
  | tuple items => !items.isEmpty
  | map entries => !entries.isEmpty
  | engine _ => true
  | condition _ _ _ => true

/-- Whether a value is the null value. -/
def isNull : Value → Bool
  | null => true
  | _ => false

/-- The text that a value is; an engine counts as the text of its name. -/
def text? : Value → Option String
  | text s => some s
  | engine e => some e.name
  | _ => none

/-- The first value, unless it does not count as present. -/
def orElse (v default : Value) : Value :=
  if v.truthy then v else default

/-- Text when there is some, and null otherwise. -/
def ofText? : Option String → Value
  | some s => text s
  | none => null

end Value

end SqlBridge
