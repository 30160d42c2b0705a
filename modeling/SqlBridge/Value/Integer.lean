import SqlBridge.Number.Integer
import SqlBridge.Problem

namespace SqlBridge

namespace Value

/-- The most characters of a text that are shown when it is no integer. -/
def shownLimit : Nat := 200

/-- The integer that a text says, or what is wrong with it; `shown` is the text in quotes. -/
def integerOf (s : List Char) (shown : List Char) : Except Problem Int :=
  match IntegerText.read s with
  | .value n => .ok n
  | .tooLong digits => .error (.integerTooLong digits)
  | .malformed => .error (.invalidInteger (String.ofList (shown.take shownLimit)))

/-- A byte as a character of the ASCII alphabet; every other byte becomes one that is neither blank
    nor a digit. -/
def asciiChar (byte : UInt8) : Char :=
  if byte < 128 then Char.ofNat byte.toNat else '\uFFFD'

/-- The integer that a value stands for. A number loses its fraction, and a text or bytes are read
    as decimal. -/
def toInteger : Value → Except Problem Int
  | bool b => .ok (if b then 1 else 0)
  | int n => .ok n
  | float x =>
    if x.isNaN then .error .integerFromNaN
    else if x.isInfinite then .error .integerFromInfinity
    else .ok x.truncate
  | text s => integerOf s.toList (Text.quoted s.toList)
  | engine e => integerOf e.name.toList (engine e).quoted.toList
  | bytes _ data => integerOf (data.map asciiChar) (Text.quotedBytes (data.take shownLimit))
  | null | list _ | tuple _ | map _ | condition _ _ _ => .error .wrongKind

end Value

end SqlBridge
