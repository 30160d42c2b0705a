import SqlBridge.Value.Integer

namespace SqlBridge

/-- The shape in which rows are handed out. -/
inductive FetchStyle where
  /-- By the names of the columns. -/
  | assoc
  /-- By position. -/
  | num
deriving DecidableEq, Repr

namespace FetchStyle

/-- The styles in the order in which they are listed. -/
def all : List FetchStyle := [.assoc, .num]

/-- The word by which a style is chosen. -/
def name : FetchStyle → String
  | assoc => "assoc"
  | num => "num"

/-- The style with this name. -/
def ofName? (s : String) : Option FetchStyle :=
  all.find? (·.name == s)

/-- The style that a caller asks for. -/
def parse (s : String) : Except Problem FetchStyle :=
  match ofName? s with
  | some style => .ok style
  | none => .error (.invalidFetchStyle s)

@[simp] theorem ofName?_name (style : FetchStyle) : ofName? style.name = some style := by
  cases style <;> decide

end FetchStyle

/-- The columns and the rows that a statement was answered with. -/
structure ResultSet where
  columns : List String
  rows : List (List Value)
deriving Repr

/-- A row as it is handed out. -/
inductive Row where
  | assoc (fields : List (String × Value))
  | num (items : List Value)
deriving Repr

namespace Row

/-- Gives a field a value; a field that is there keeps its place. -/
def assign (fields : List (String × Value)) (column : String) (v : Value) :
    List (String × Value) :=
  match fields with
  | [] => [(column, v)]
  | (name, old) :: rest =>
    if name = column then (name, v) :: rest else (name, old) :: assign rest column v

/-- The fields of a row that has an item for every column; of columns with one name the last one
    counts. -/
def fieldsFrom (fields : List (String × Value)) :
    List String → List Value → Except Problem (List (String × Value))
  | [], _ => .ok fields
  | _ :: _, [] => .error .shortRow
  | column :: columns, v :: items => fieldsFrom (assign fields column v) columns items

/-- A row by the names of its columns. -/
def ofItems (columns : List String) (items : List Value) : Except Problem Row :=
  (fieldsFrom [] columns items).map assoc

/-- A row as a value: a map from names, or a row of items. -/
def toValue : Row → Value
  | assoc fields => .map (fields.map fun (name, v) => (.text name, v))
  | num items => .tuple items

end Row

namespace ResultSet

/-- All rows in a style, or the problem of the first one that cannot be shaped. -/
def shape (r : ResultSet) : FetchStyle → Except Problem (List Row)
  | .num => .ok (r.rows.map .num)
  | .assoc => r.rows.mapM (Row.ofItems r.columns)

/-- The first item of the first row, and a default when there is none. -/
def scalar (r : ResultSet) (default : Value) : Value :=
  match r.rows with
  | (v :: _) :: _ => v
  | _ => default

/-- The number in the first item of the first row; without a row it is zero, and what does not count
    as present stands for zero. -/
def count (r : ResultSet) : Except Problem Int :=
  match r.rows with
  | [] => .ok 0
  | [] :: _ => .error .shortRow
  | (v :: _) :: _ => (v.orElse (.int 0)).toInteger

end ResultSet

end SqlBridge
