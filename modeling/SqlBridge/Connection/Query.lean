import SqlBridge.Connection
import SqlBridge.Connection.Limit
import SqlBridge.Connection.Rows

namespace SqlBridge

namespace Connection

variable {σ : Type} (b : Backend σ)

/-- The statement that is sent for a template. Templates are left alone when there are no variables
    and the connection is not set to look at all of them. -/
def statementFor (c : Connection) (sql : String) (vars : QueryVars) : Except Fault String :=
  if vars.isEmpty && !c.settings.alwaysParse then .ok sql else render sql vars (some c.info)

/-- Replaces the placeholders of a statement and logs the result when it differs. -/
def prepare (c : Connection) (sql : String) (vars : QueryVars) : Action σ Fault String := do
  let result ← Action.ofExcept (c.statementFor sql vars)
  if result ≠ sql then
    Action.log .debug .connection ("Query-Vars rewrote SQL to: " ++ result)
  pure result

/-- Sends a statement through the open cursor. -/
def send (h : Handle) (sql : String) (params : Value) : Action σ Problem Answered := do
  Action.log .debug .connection ("Executing SQL: " ++ sql)
  b.executing h sql params

/-- Turns an ordinary problem of a statement into an error about it. -/
def orQueryError {α : Type} (c : Connection) (sql : String) (x : Action σ Problem α) :
    Action σ Fault α :=
  x.rescue fun p => Action.fail (.database ⟨.query sql p.message?, some c.info, some p⟩)

/-- Sends a statement and fetches what it is answered with. -/
def fetchResult (c : Connection) (sql : String) (params : Value) : Action σ Fault ResultSet := do
  let h ← Action.ofExcept c.live
  b.cursor h
  b.withOpenCursor h .problem <| c.orQueryError sql do
    let answered ← send b h sql params
    let rows ← b.fetching h
    pure ⟨answered.columns.getD [], rows⟩

/-- The rows of a statement in a style, which is looked at once the rows are there. -/
def fetchRows (c : Connection) (sql : String) (params : Value) (style : String) :
    Action σ Fault (List Row) := do
  let result ← fetchResult b c sql params
  Action.ofExcept <| Except.mapError Fault.problem do
    let style ← FetchStyle.parse style
    result.shape style

/-- All rows, or none when there are no rows. -/
def fetchAll (c : Connection) (sql : String) (params : Value) (style : String) (vars : QueryVars) :
    Action σ Fault (Option (List Row)) := do
  let sql ← c.prepare sql vars
  let rows ← fetchRows b c sql params style
  pure (if rows.isEmpty then none else some rows)

/-- The first row, if there is one. The statement is limited to one row. -/
def fetchRecord (c : Connection) (sql : String) (params : Value) (style : String)
    (vars : QueryVars) : Action σ Fault (Option Row) := do
  let sql ← c.prepare sql vars
  let rows ← fetchRows b c (limitToOne sql) params style
  pure rows.head?

/-- The first item of the first row, or a default. -/
def fetchScalar (c : Connection) (sql : String) (params default : Value) (vars : QueryVars) :
    Action σ Fault Value := do
  let sql ← c.prepare sql vars
  let result ← fetchResult b c (limitToOne sql) params
  pure (result.scalar default)

/-- Runs a statement; the answer is the driver's count of rows. -/
def execute (c : Connection) (sql : String) (params : Value) (vars : QueryVars) :
    Action σ Fault Value := do
  let sql ← c.prepare sql vars
  let h ← Action.ofExcept c.live
  b.cursor h
  b.withOpenCursor h .problem <| c.orQueryError sql do
    let answered ← send b h sql params
    pure answered.rowCount

/-- The statement that counts the rows of a table under a clause, before its limit. -/
def countStatement (table clause : String) : String :=
  "SELECT COUNT(*) AS cnt FROM " ++ table ++ clause

/-- The number of rows of a table under a clause. The clause holds quoted data, so placeholders are
    not looked for in the statement. -/
def count (c : Connection) (table : String) (spec : Option WhereSpec) (params : Value) :
    Action σ Fault Int := do
  let clause ← c.formatWhere b spec
  let result ← fetchResult b c (limitToOne (countStatement table clause)) params
  Action.ofExcept (result.count.mapError .problem)

/-- The first character of a name that may be looked up. -/
def isNameStart (ch : Char) : Bool :=
  ch.isAlpha || ch == '_'

/-- The name of a database that may be looked up. -/
def isDatabaseName (s : String) : Bool :=
  match s.toList with
  | [] => false
  | ch :: rest => isNameStart ch && rest.all fun ch => ch.isAlphanum || ch == '_'

/-- The name of a table that may be looked up; it may hold dots and hyphens. -/
def isTableName (s : String) : Bool :=
  match s.toList with
  | [] => false
  | ch :: rest =>
    isNameStart ch && rest.all fun ch => ch.isAlphanum || ch == '_' || ch == '.' || ch == '-'

/-- Whether a database exists. A file has no databases beside it, and a name that cannot be one is
    not asked for. -/
def databaseExists (c : Connection) (name : String) : Action σ Fault Bool :=
  match c.settings.engine.databaseExists name with
  | none => pure false
  | some q =>
    if !isDatabaseName name then pure false
    else if c.settings.engine = .pgsql then do
      let v ← c.fetchScalar b q.sql q.arguments (.bool false) []
      pure v.truthy
    else do
      let v ← c.fetchScalar b q.sql q.arguments .null []
      pure (!v.isNull)

/-- Whether a table exists, in the database of the connection unless another one is named. -/
def tableExists (c : Connection) (table : String) (database : Option String) :
    Action σ Fault Bool :=
  if !isTableName table then pure false
  else
    let database := (database.filter (· != "")).getD c.settings.dbname
    let q := c.settings.engine.tableExists table database
    if c.settings.engine = .pgsql then do
      let v ← c.fetchScalar b q.sql q.arguments (.bool false) []
      pure v.truthy
    else do
      let v ← c.fetchScalar b q.sql q.arguments (.int 0) []
      let n ← Action.ofExcept ((v.orElse (.int 0)).toInteger.mapError Fault.problem)
      pure (decide (0 < n))

end Connection

end SqlBridge
