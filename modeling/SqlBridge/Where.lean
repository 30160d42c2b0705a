import SqlBridge.Fault
import SqlBridge.Literal

namespace SqlBridge

open Text

/-- How the group of a column is joined to the groups before it. -/
inductive Combinator where
  | and
  | or
deriving DecidableEq, Repr

namespace Combinator

/-- The keyword of a combinator. -/
def word : Combinator → String
  | and => "AND"
  | or => "OR"

/-- The combinator with this keyword. -/
def ofWord? (s : String) : Option Combinator :=
  if s = "AND" then some and else if s = "OR" then some or else none

/-- The combinator that a value names; null stands for `OR`. -/
def ofValue (v : Value) : Except Problem Combinator :=
  match v with
  | .null => .ok or
  | .text s =>
    match ofWord? (String.ofList (asciiUpper (trim s.toList))) with
    | some c => .ok c
    | none => .error (.unsupportedCombinator v)
  | .engine _ | .bytes .fixed _ => .error (.unsupportedCombinator v)
  | .bytes .growable _ => .error .wrongKind
  | _ => .error .lacksOperation

end Combinator

/-- What the value of a column is compared with, the type it is quoted as, and how its group is
    joined. -/
structure Condition where
  value : Value
  type : Value
  combinator : Value
deriving Repr, BEq

namespace Condition

/-- A row of one to three items is a condition whose missing items are null. -/
def ofItems : List Value → Except Problem Condition
  | [value] => .ok ⟨value, .null, .null⟩
  | [value, type] => .ok ⟨value, type, .null⟩
  | [value, type, combinator] => .ok ⟨value, type, combinator⟩
  | items => .error (.conditionLength items.length)

/-- The condition that the entry of a column stands for. -/
def ofEntry : Value → Except Problem Condition
  | .condition value type combinator => .ok ⟨value, type, combinator⟩
  | .list items => ofItems items
  | .tuple items => ofItems items
  | v => .ok ⟨v, .null, .null⟩

end Condition

/-- Writes a value as SQL text. -/
abbrev Quoter := Value → Option ParamType → Except Fault String

/-- The quoter that needs no driver. -/
def standardQuoter : Quoter := fun v type =>
  (v.quoteLiteral type).mapError .problem

/-- A clause that restricts a statement to some rows. -/
inductive WhereSpec where
  /-- Text that is used as it is. -/
  | raw (text : Value)
  /-- Conditions of which one has to hold. -/
  | anyOf (conditions : Value)
  /-- Columns with the conditions on their values, in the order in which they are written. -/
  | columns (entries : List (String × Value))
  /-- Something else, which is refused. -/
  | other (v : Value)
deriving Repr

/-- The items of a value that consists of items: a row, the characters of a text, the keys of a map,
    the numbers that bytes are. -/
def Value.items : Value → Except Problem (List Value)
  | .list items => .ok items
  | .tuple items => .ok items
  | .text s => .ok (s.toList.map fun c => .text (String.singleton c))
  | .engine e => .ok (e.name.toList.map fun c => .text (String.singleton c))
  | .map entries => .ok (entries.map Prod.fst)
  | .bytes _ data => .ok (data.map fun byte => .int byte.toNat)
  | .null | .bool _ | .int _ | .float _ | .condition _ _ _ => .error .wrongKind

/-- Whether a value is a text that equals one of the bind markers. -/
def isMarker (markers : List Value) (v : Value) : Bool :=
  match v.text? with
  | some s => markers.any fun marker => marker.text? == some s
  | none => false

/-- The right side of a comparison. Numbers and bind markers are written as they are, all else is
    quoted. -/
def Condition.render (condition : Condition) (quote : Quoter) (markers : List Value) :
    Except Fault String :=
  match condition.value with
  | .bool b => .ok (if b then "1" else "0")
  | .int n => .ok (toString n)
  | .float x => .ok (String.ofList x.text)
  | v =>
    if isMarker markers v then .ok v.shown
    else do
      let type ← (ParamType.ofValue condition.type).mapError Fault.problem
      quote v type

/-- The group of one column, with the word that joins it to a group before it. -/
def columnGroup (quote : Quoter) (markers : List Value) (column : String) (entry : Value) :
    Except Fault (Combinator × String) := do
  let condition ← (Condition.ofEntry entry).mapError Fault.problem
  let combinator ← (Combinator.ofValue condition.combinator).mapError Fault.problem
  let text ← condition.render quote markers
  pure (combinator, "(" ++ column ++ "=" ++ text ++ ")")

/-- Groups that follow another one, each after the word that joins it. -/
def joinFollowing : List (Combinator × String) → String
  | [] => ""
  | (combinator, group) :: groups => " " ++ combinator.word ++ " " ++ group ++ joinFollowing groups

/-- Groups in order; the word of the first one is not written. -/
def joinGroups : List (Combinator × String) → String
  | [] => ""
  | (_, group) :: groups => group ++ joinFollowing groups

/-- The groups of all columns, or the fault of the first column that has one. -/
def columnGroups (quote : Quoter) (markers : List Value) :
    List (String × Value) → Except Fault (List (Combinator × String))
  | [] => .ok []
  | (column, entry) :: entries => do
    let group ← columnGroup quote markers column entry
    let groups ← columnGroups quote markers entries
    pure (group :: groups)

/-- Whether a text begins with the keyword and a space after it, in any case. -/
def hasKeyword (s : List Char) : Bool :=
  asciiLower (s.take 6) == "where ".toList

/-- A clause from the text that is left between the white space at its ends. The keyword is added
    unless it is there. -/
def rawClause (s : List Char) : String :=
  match trim s with
  | [] => ""
  | text => if hasKeyword text then " " ++ String.ofList text else " WHERE " ++ String.ofList text

/-- A clause from raw bytes, which stand in it as they are shown. -/
def rawBytesClause (form : ByteForm) (data : List UInt8) : String :=
  let isSpace (byte : UInt8) : Bool := byte == 32 || (9 ≤ byte && byte ≤ 13)
  match trimBy isSpace data with
  | [] => ""
  | text => " WHERE " ++ Value.shownBytes form text

/-- The text of a clause, with a space in front unless it is empty. -/
def formatWhere (spec : Option WhereSpec) (quote : Quoter) (markers : Value) :
    Except Fault String :=
  match spec with
  | none => .ok ""
  | some (.raw v) =>
    match v with
    | .text s => .ok (rawClause s.toList)
    | .engine e => .ok (rawClause e.name.toList)
    | .bytes .view _ => .error (.problem .lacksOperation)
    | .bytes form data => .ok (rawBytesClause form data)
    | _ => .error (.problem .lacksOperation)
  | some (.anyOf v) => do
    let items ← v.items.mapError Fault.problem
    if items.isEmpty then pure ""
    else
      match items.mapM Value.text? with
      | some texts => pure (" WHERE " ++ " OR ".intercalate texts)
      | none => .error (.problem .wrongKind)
  | some (.columns []) => .ok ""
  | some (.columns entries) => do
    let items ← markers.items.mapError Fault.problem
    let groups ← columnGroups quote items entries
    pure (" WHERE " ++ joinGroups groups)
  | some (.other v) => .error (.problem (.unsupportedWhere v.kind))

/-- The bind marker of a clause that is formatted on its own. -/
def standardMarkers : Value := .tuple [.text "?"]

end SqlBridge
