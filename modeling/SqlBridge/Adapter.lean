import SqlBridge.Dialect
import SqlBridge.Driver
import SqlBridge.Literal
import SqlBridge.Settings

namespace SqlBridge

namespace Adapter

variable {σ : Type} (b : Backend σ)

/-- A keyword for a text that is not empty. -/
def keywordUnlessEmpty (key text : String) : List (String × Value) :=
  if text = "" then [] else [(key, .text text)]

/-- The file of a database; without a name it is held in memory. -/
def filePath (s : Settings) : String :=
  if s.dbname = "" then ":memory:" else s.dbname

/-- What a PostgreSQL package is told about the server. -/
def postgresKeywords (s : Settings) : List (String × Value) :=
  [("host", .text s.host), ("port", s.effectivePort)] ++ keywordUnlessEmpty "dbname" s.dbname ++
    keywordUnlessEmpty "user" s.username ++ keywordUnlessEmpty "password" s.password

/-- The statement that a MySQL session starts with, if a charset is set. -/
def initCommand (s : Settings) : Except Problem (Option String) :=
  match s.charset with
  | none | some "" => .ok none
  | some charset => Engine.mysql.setCharset (.text charset)

/-- What the MySQL package is told about the server. -/
def mysqlKeywords (s : Settings) (command : Option String) : List (String × Value) :=
  [("host", .text s.host), ("port", s.effectivePort), ("user", .text s.username),
    ("password", .text s.password), ("autocommit", .bool true)] ++
    keywordUnlessEmpty "database" s.dbname ++
    command.toList.map fun statement => ("init_command", .text statement)

/-- Whether a problem says that a package could not be loaded. -/
def isLoadProblem : Problem → Bool
  | .packageMissing _ | .noPostgresDriver | .noMysqlDriver => true
  | .raised failure => failure.kind == .loading
  | _ => false

/-- Connects through psycopg, in autocommit from the start. -/
def connectPsycopg (s : Settings) : Action σ Problem Handle := do
  if ← b.available .psycopg then
    Action.log .debug .postgres ("Opening PostgreSQL connection via psycopg to " ++ s.host)
    b.connecting .psycopg ⟨[], ("autocommit", .bool true) :: postgresKeywords s⟩
  else
    Action.fail (.packageMissing .psycopg)

/-- Connects through psycopg2 and switches to autocommit. -/
def connectPsycopg2 (s : Settings) : Action σ Problem Handle := do
  if ← b.available .psycopg2 then
    Action.log .debug .postgres ("Opening PostgreSQL connection via psycopg2 to " ++ s.host)
    let h ← b.connecting .psycopg2 ⟨[], postgresKeywords s⟩
    b.autocommitting h
    pure h
  else
    Action.fail .noPostgresDriver

/-- Connects through psycopg, or through psycopg2 when psycopg cannot be loaded. -/
def connectPostgres (s : Settings) : Action σ Problem Handle :=
  Action.orElseWhen isLoadProblem (connectPsycopg b s) (connectPsycopg2 b s)

/-- Connects through pymysql. The charset is checked before anything is loaded. -/
def connectMysql (s : Settings) : Action σ Problem Handle := do
  let command ← Action.ofExcept (initCommand s)
  if ← b.available .pymysql then
    Action.log .debug .mysql ("Opening MySQL connection via pymysql to " ++ s.host)
    b.connecting .pymysql ⟨[], mysqlKeywords s command⟩
  else
    Action.fail .noMysqlDriver

/-- Opens a database file without transactions of its own. -/
def connectSqlite (s : Settings) : Action σ Problem Handle := do
  Action.log .debug .sqlite ("Opening SQLite database " ++ filePath s)
  b.connecting .sqlite3 ⟨[.text (filePath s)], [("isolation_level", .null)]⟩

/-- Opens a driver connection in autocommit. -/
def connect (s : Settings) : Action σ Problem Handle :=
  match s.engine with
  | .pgsql => connectPostgres b s
  | .mysql => connectMysql b s
  | .sqlite => connectSqlite b s

/-- Sets the charset of a new session. MySQL has it set on connecting, and a charset that does not
    count as present is not set. -/
def applyCharset (e : Engine) (h : Handle) (charset : Value) : Action σ Problem Unit :=
  if e = .mysql ∨ charset.truthy = false then pure ()
  else do
    match ← Action.ofExcept (e.setCharset charset) with
    | none => pure ()
    | some statement =>
      b.cursor h
      b.withOpenCursor h id do
        let _ ← b.executing h statement .null
        pure ()

/-- The text of what psycopg2 quotes; bytes are taken as UTF-8. -/
def QuotedForm.decode : QuotedForm → Except Problem String
  | .text s => .ok s
  | .bytes data =>
    match String.fromUTF8? data with
    | some s => .ok s
    | none => .error .undecodable
  | .unencodable => .error .unencodable

/-- Quotes a value for PostgreSQL by the package that a connection belongs to. -/
def quotePostgres (h : Handle) (v : Value) (w : σ) : Except Problem String :=
  if b.isPsycopg2 h w then
    if b.installed .psycopg2 w then
      let adapted := b.adapt h v w
      QuotedForm.decode (adapted.quoted adapted.preparable)
    else
      .error (.packageMissing .psycopg2)
  else if b.installed .psycopg w then
    .ok (b.literal h v w)
  else
    .error (.packageMissing .psycopg)

/-- Writes a value as SQL text after its conversion to a type. -/
def quote (e : Engine) (h : Handle) (v : Value) (type : Option ParamType) (w : σ) :
    Except Problem String :=
  match e with
  | .sqlite => v.quoteLiteral type
  | .mysql => do
    let v ← v.coerce type
    pure (b.escape h v w)
  | .pgsql => do
    let v ← v.coerce type
    quotePostgres b h v w

end Adapter

end SqlBridge
