import SqlBridge.Value.Integer

namespace SqlBridge

/-- The type that a value is given before it is quoted. -/
inductive ParamType where
  | str
  | int
  | bool
  | null
deriving DecidableEq, Repr

namespace ParamType

/-- The types in the order in which they are listed. -/
def all : List ParamType := [.str, .int, .bool, .null]

/-- The word by which a type is chosen. -/
def name : ParamType → String
  | str => "str"
  | int => "int"
  | bool => "bool"
  | null => "null"

/-- The type with this name. -/
def ofName? (s : String) : Option ParamType :=
  all.find? (·.name == s)

/-- The type that a value names; null names none, and only a text can name one. -/
def ofValue (v : Value) : Except Problem (Option ParamType) :=
  match v with
  | .null => .ok none
  | _ =>
    match v.text?.bind ofName? with
    | some type => .ok (some type)
    | none => .error (.invalidParamType v)

@[simp] theorem ofName?_name (type : ParamType) : ofName? type.name = some type := by
  cases type <;> decide

end ParamType

namespace Value

/-- A value converted to a type; without a type it stays as it is. -/
def coerce (v : Value) : Option ParamType → Except Problem Value
  | none => .ok v
  | some .null => .ok .null
  | some .int => v.toInteger.map .int
  | some .bool => .ok (.bool v.truthy)
  | some .str =>
    match v with
    | .null => .ok (.text "")
    | _ => .ok (.text v.shown)

/-- A text as a string literal: single quotes around it, and every single quote inside written
    twice. -/
def stringLiteral (s : List Char) : List Char :=
  '\'' :: s.flatMap (fun c => if c = '\'' then ['\'', '\''] else [c]) ++ ['\'']

/-- A value as a standard SQL literal. -/
def literal : Value → String
  | null => "NULL"
  | bool b => if b then "1" else "0"
  | int n => toString n
  | float x => String.ofList x.text
  | bytes _ data => String.ofList ('X' :: '\'' :: Text.hexBytes data ++ ['\''])
  | v => String.ofList (stringLiteral v.shown.toList)

/-- A value as a standard SQL literal after its conversion to a type. -/
def quoteLiteral (v : Value) (type : Option ParamType) : Except Problem String :=
  (v.coerce type).map literal

end Value

end SqlBridge
