import SqlBridge.Text.Case
import SqlBridge.Value.Display

namespace SqlBridge

/-- What an error tells of a connection. User name and password are reduced to whether they are
    there, so that it can be logged. -/
structure Info where
  engine : String
  host : String := ""
  dbname : String := ""
  port : Value := .null
  charset : Option String := some ""
  hasUsername : Bool := false
  hasPassword : Bool := false
deriving Repr, BEq

namespace Info

/-- Whether something secret is there, without the secret. -/
def presence (defined : Bool) : String :=
  if defined then "[defined]" else "[undefined]"

/-- The beginning of every error message about a connection. Port and charset are left out when
    there are none. -/
def describe (info : Info) : String :=
  let port := if info.port.truthy then "; port=" ++ info.port.shown else ""
  let charset :=
    match info.charset with
    | none | some "" => ""
    | some name => "; charset=" ++ name
  String.ofList (Text.capitalize info.engine.toList) ++ " connection error (host=" ++ info.host ++
    port ++ "; dbname=" ++ info.dbname ++ "; user=" ++ presence info.hasUsername ++
    "; password=" ++ presence info.hasPassword ++ charset ++ ")"

end Info

end SqlBridge
