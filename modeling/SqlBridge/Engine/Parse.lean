import SqlBridge.Problem
import SqlBridge.Text.Blank
import SqlBridge.Text.Case

namespace SqlBridge

namespace Engine

/-- The engine that a value names. Case and the white space around a name do not matter, and what
    does not count as present names no engine. -/
def parse (v : Value) : Except Problem Engine :=
  match v with
  | .engine e => .ok e
  | .text s =>
    match ofAlias? (String.ofList (Text.asciiLower (Text.trim s.toList))) with
    | some e => .ok e
    | none => .error (.unsupportedEngine v)
  | .bytes .fixed _ => .error (.unsupportedEngine v)
  | .bytes .growable _ =>
    if v.truthy then .error .wrongKind else .error (.unsupportedEngine v)
  | _ => if v.truthy then .error .lacksOperation else .error (.unsupportedEngine v)

end Engine

end SqlBridge
