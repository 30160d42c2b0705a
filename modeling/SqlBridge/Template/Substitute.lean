import SqlBridge.Template.Scan

namespace SqlBridge

/-- Query variables: names with the values that replace the placeholders of these names. -/
abbrev QueryVars := List (String × Value)

/-- Why a placeholder cannot be replaced. -/
inductive Unresolved where
  /-- The variable has a value that may not be inserted. -/
  | invalid (name : String)
  /-- Neither a value nor a default is there. -/
  | missing (name : String)
deriving DecidableEq, Repr

/-- The text that replaces a placeholder. A supplied value wins over the default, also when it may
    not be inserted. -/
def Placeholder.resolve (p : Placeholder) (vars : QueryVars) : Except Unresolved String :=
  match vars.lookup p.name with
  | some v =>
    match v.text? with
    | some s => if isInsertable s.toList then .ok s else .error (.invalid p.name)
    | none => .error (.invalid p.name)
  | none =>
    match p.default? with
    | some s => .ok s
    | none => .error (.missing p.name)

/-- The text of pieces with every placeholder replaced; the first that cannot be replaced is
    reported. -/
def fill (vars : QueryVars) : List Piece → Except Unresolved (List Char)
  | [] => .ok []
  | .char c :: pieces => (fill vars pieces).map (c :: ·)
  | .hole p _ :: pieces => do
    let s ← p.resolve vars
    let rest ← fill vars pieces
    pure (s.toList ++ rest)

/-- A template with every placeholder replaced. Inserted text is not scanned again. -/
def substitute (template : String) (vars : QueryVars) : Except Unresolved String :=
  (fill vars (scan template.toList)).map String.ofList

end SqlBridge
