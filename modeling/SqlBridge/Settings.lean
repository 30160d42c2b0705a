import SqlBridge.Info
import SqlBridge.Problem

namespace SqlBridge

/-- How a database is reached. `ε` says how far the engine has been looked at. -/
structure SettingsOf (ε : Type) where
  engine : ε
  host : String := ""
  dbname : String := ""
  username : String := ""
  password : String := ""
  charset : Option String := some "UTF8"
  port : Value := .null
  alwaysParse : Bool := true
deriving Repr

/-- Settings of a supported engine. -/
abbrev Settings := SettingsOf Engine

/-- Settings whose engine is whatever the caller wrote. -/
abbrev Draft := SettingsOf Value

namespace SettingsOf

/-- The same settings for another engine. -/
def withEngine {ε δ : Type} (s : SettingsOf ε) (engine : δ) : SettingsOf δ :=
  ⟨engine, s.host, s.dbname, s.username, s.password, s.charset, s.port, s.alwaysParse⟩

/-- What an error may tell of these settings, under the name of their engine. -/
def infoAs {ε : Type} (s : SettingsOf ε) (engine : String) : Info where
  engine := engine
  host := s.host
  dbname := s.dbname
  port := s.port
  charset := s.charset
  hasUsername := s.username != ""
  hasPassword := s.password != ""

/-- The port as it stands in a data source name: only a number other than zero does. -/
def dsnPort {ε : Type} (s : SettingsOf ε) : String :=
  match s.port with
  | .int n => if n = 0 then "" else ";port=" ++ toString n
  | .bool true => ";port=True"
  | _ => ""

/-- The data source name of a server. -/
def serverDsn {ε : Type} (s : SettingsOf ε) (scheme : String) : String :=
  scheme ++ ":host=" ++ s.host ++ (if s.dbname = "" then "" else ";dbname=" ++ s.dbname) ++ s.dsnPort

/-- The data source name for an engine, which tells neither user name nor password. -/
def dsnFor {ε : Type} (s : SettingsOf ε) : Engine → String
  | .sqlite => "sqlite:" ++ (if s.dbname = "" then "memory:" else s.dbname)
  | e => s.serverDsn e.name

end SettingsOf

namespace Settings

/-- The same settings with the engine as a value. -/
def draft (s : Settings) : Draft :=
  s.withEngine (.engine s.engine)

/-- What an error may tell of the settings. -/
def info (s : Settings) : Info :=
  s.infoAs s.engine.name

/-- The data source name of the settings. -/
def dsn (s : Settings) : String :=
  s.dsnFor s.engine

/-- The configured port, unless it does not count as present; then that of the engine. -/
def effectivePort (s : Settings) : Value :=
  s.port.orElse (.int s.engine.defaultPort)

end Settings

mutual
/-- Whether a value can be looked up in a table; what can change cannot. -/
def Value.isKey : Value → Bool
  | .list _ | .map _ | .bytes .growable _ => false
  | .tuple items => areKeys items
  | .condition value type combinator => value.isKey && type.isKey && combinator.isKey
  | _ => true

/-- Whether every item can be looked up in a table. -/
def areKeys : List Value → Bool
  | [] => true
  | item :: items => item.isKey && areKeys items
end

namespace Draft

/-- A server on the usual port of its engine. -/
def server (e : Engine) (host dbname username password : String) : Draft where
  engine := .engine e
  host := host
  dbname := dbname
  username := username
  password := password
  port := .int e.defaultPort

/-- A database file, or one in memory when the path is empty. -/
def file (path : String) : Draft where
  engine := .engine .sqlite
  dbname := path

/-- The engine that a value stands for without being read: an engine or exactly its name. -/
def engine? (d : Draft) : Option Engine :=
  d.engine.text?.bind Engine.ofName?

/-- The configured port, or the one found for the engine. -/
def effectivePort (d : Draft) : Except Problem Value :=
  if d.port.truthy then .ok d.port
  else if !d.engine.isKey then .error .wrongKind
  else
    match d.engine? with
    | some e => .ok (.int e.defaultPort)
    | none => .error .unknownEngine

/-- What an error may tell of the settings; only an engine, and not its name, has a name to tell. -/
def info (d : Draft) : Except Problem Info :=
  match d.engine with
  | .engine e => .ok (d.infoAs e.name)
  | _ => .error .lacksOperation

/-- The settings as an adapter takes them. -/
def adapted (d : Draft) : Except Problem Settings :=
  if !d.engine.isKey then .error .wrongKind
  else
    match d.engine? with
    | some e => .ok (d.withEngine e)
    | none => .error (.unsupportedAdapter d.engine)

/-- The settings in one line, without the password. -/
def summary (d : Draft) : String :=
  let text (s : String) := (Value.text s).quoted
  "ConnectionSettings(engine=" ++ d.engine.quoted ++ ", host=" ++ text d.host ++
    ", dbname=" ++ text d.dbname ++ ", username=" ++ text d.username ++
    ", charset=" ++ (Value.ofText? d.charset).quoted ++ ", port=" ++ d.port.quoted ++
    ", always_parse_query_vars=" ++ (Value.bool d.alwaysParse).quoted ++ ")"

end Draft

end SqlBridge
