import SqlBridge.Text.Blank
import SqlBridge.Value

namespace SqlBridge

open Text

/-- What follows the name of a placeholder: nothing, an equals sign alone, or an equals sign and a
    default. -/
inductive Assignment where
  | absent
  | bare
  | preset (raw : String)
deriving DecidableEq, Repr

/-- A named gap of a template. -/
structure Placeholder where
  name : String
  assignment : Assignment
deriving DecidableEq, Repr

/-- A character outside the placeholders, or a placeholder with the white space before its equals
    sign. -/
inductive Piece where
  | char (c : Char)
  | hole (p : Placeholder) (gap : List Char)
deriving DecidableEq, Repr

/-- A character of a placeholder's name. -/
def isNameChar (c : Char) : Bool :=
  c.isAlphanum || c == '_' || c == '.' || c == '-'

/-- A character that may be inserted into SQL text. -/
def isValueChar (c : Char) : Bool :=
  c.isAlphanum || c == ' ' || c == '\t' || c == '?' || c == '_' || c == ':' || c == '.' ||
    c == '<' || c == '=' || c == '>' || c == '-'

/-- Whether two hyphens, the start of a comment, stand next to each other. -/
def hasDoubleHyphen : List Char → Bool
  | '-' :: '-' :: _ => true
  | _ :: cs => hasDoubleHyphen cs
  | [] => false

/-- A text that may be inserted: some value characters and no start of a comment. -/
def isInsertable (s : List Char) : Bool :=
  !s.isEmpty && s.all isValueChar && !hasDoubleHyphen s

/-- Whether a value may replace a placeholder; only a text can. -/
def Value.isInsertable (v : Value) : Bool :=
  match v.text? with
  | some s => SqlBridge.isInsertable s.toList
  | none => false

namespace Placeholder

/-- Whether an equals sign follows the name. -/
def hasEquals (p : Placeholder) : Bool :=
  p.assignment != .absent

/-- The default as it is written. -/
def rawDefault? (p : Placeholder) : Option String :=
  match p.assignment with
  | .preset raw => some raw
  | _ => none

/-- The default that is inserted: the written one without the white space around it. -/
def default? (p : Placeholder) : Option String :=
  p.rawDefault?.map fun raw => String.ofList (trim raw.toList)

/-- A placeholder as it is written. -/
def source (p : Placeholder) (gap : List Char) : List Char :=
  let tail :=
    match p.assignment with
    | .absent => []
    | .bare => gap ++ ['=']
    | .preset raw => gap ++ '=' :: raw.toList
  '{' :: '$' :: p.name.toList ++ tail ++ ['}']

end Placeholder

namespace Piece

/-- A piece as it is written. -/
def source : Piece → List Char
  | char c => [c]
  | hole p gap => p.source gap

/-- The placeholder of a piece that is one. -/
def placeholder? : Piece → Option Placeholder
  | char _ => none
  | hole p _ => some p

end Piece

/-- The text that pieces stand for. -/
def sourceOf (pieces : List Piece) : List Char :=
  pieces.flatMap Piece.source

@[simp] theorem sourceOf_nil : sourceOf [] = [] := rfl

@[simp] theorem sourceOf_cons (piece : Piece) (pieces : List Piece) :
    sourceOf (piece :: pieces) = piece.source ++ sourceOf pieces := rfl

end SqlBridge
