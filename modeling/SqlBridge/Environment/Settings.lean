import SqlBridge.Engine.Parse
import SqlBridge.Environment
import SqlBridge.Settings

namespace SqlBridge

namespace Environment

/-- A variable, or a text in its place when it is not set. -/
def getD (env : Environment) (name default : String) : String :=
  (env.lookup name).getD default

/-- A variable, if it is set to some text. -/
def nonempty? (env : Environment) (name : String) : Option String :=
  (env.lookup name).filter (· != "")

/-- The settings of a database file. -/
def fileSettings (env : Environment) (alwaysParse : Bool) : Settings where
  engine := .sqlite
  dbname := (env.nonempty? "SQLITE_DB_PATH").getD (env.getD "DB_NAME" "")
  charset := some (env.getD "DB_CHARSET" "UTF8")
  alwaysParse := alwaysParse

/-- The settings of a server, which needs a host and the name of a database. -/
def serverSettings (env : Environment) (engine : Engine) (alwaysParse : Bool) :
    Except Problem Settings :=
  match env.nonempty? "DB_HOST", env.nonempty? "DB_NAME" with
  | none, _ => .error (.missingVariable "DB_HOST")
  | some _, none => .error (.missingVariable "DB_NAME")
  | some host, some dbname => do
    let port ← env.integer? "DB_PORT"
    pure
      { engine := engine
        host := host
        dbname := dbname
        username := env.getD "DB_USER" ""
        password := env.getD "DB_PASSWORD" ""
        charset := some (env.getD "DB_CHARSET" "UTF8")
        port := (port.map Value.int).getD .null
        alwaysParse := alwaysParse }

/-- The settings that the variables describe. -/
def settings (env : Environment) : Except Problem Settings := do
  let engine ← Engine.parse (.text (env.getD "DB_ENGINE" "pgsql"))
  let alwaysParse ← env.flag "DB_ALWAYS_PARSE_QUERY_VARS" true
  if engine = .sqlite then pure (env.fileSettings alwaysParse)
  else env.serverSettings engine alwaysParse

/-- The settings that the variables describe after those of a file were added to them. -/
def loadSettings (env : Environment) (files : Files) (path : String) :
    Except Problem Settings × Environment :=
  match env.load files path with
  | (.error p, env') => (.error p, env')
  | (.ok (), env') => (env'.settings, env')

end Environment

end SqlBridge
