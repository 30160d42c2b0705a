import SqlBridge.Adapter
import SqlBridge.Engine.Parse
import SqlBridge.Where

namespace SqlBridge

/-- A connection: the settings of its session, and the driver connection until it is closed. -/
structure Connection where
  settings : Settings
  driver : Option Handle
deriving Repr

namespace Connection

variable {σ : Type} (b : Backend σ)

/-- What an error may tell of the connection. -/
def info (c : Connection) : Info :=
  Settings.info c.settings

/-- The data source name of the connection. -/
def dsn (c : Connection) : String :=
  Settings.dsn c.settings

/-- A connection in one line. -/
def summary (c : Connection) : String :=
  "Connection(" ++ c.dsn ++ ")"

/-- An error about opening or using a connection. -/
def failed (info : Info) (message : String) (cause : Option Problem) : Fault :=
  .database ⟨.connection (some message), some info, cause⟩

/-- Connects and sets the charset. A connection whose charset cannot be set is closed again. -/
def openDriver (s : Settings) : Action σ Fault Handle := do
  let info := Settings.info s
  let h ← (Adapter.connect b s).rescue fun p =>
    Action.fail (failed info "Connection init fails!" (some p))
  (Adapter.applyCharset b s.engine h (Value.ofText? s.charset)).rescue fun p => do
    b.closing h
    Action.fail (failed info "Setting the connection charset fails!" (some p))
  Action.log .info .connection ("Opened " ++ s.engine.name ++ " connection " ++ Settings.dsn s)
  pure h

/-- The settings of a draft whose engine is read. A draft for an unsupported engine is refused under
    the name that it was given. -/
def resolve (d : Draft) : Except Fault Settings :=
  match Engine.parse d.engine with
  | .ok e => .ok (d.withEngine e)
  | .error (.unsupportedEngine v) =>
    .error (failed (d.infoAs d.engine.shown) "Connection init fails!" (some (.unsupportedEngine v)))
  | .error p => .error (.problem p)

/-- A connection over a driver connection that is handed in, or over a new one. -/
def create (d : Draft) (driver : Option Handle) : Action σ Fault Connection := do
  let s ← Action.ofExcept (resolve d)
  match driver with
  | some h => pure ⟨s, some h⟩
  | none =>
    let h ← openDriver b s
    pure ⟨s, some h⟩

/-- The driver connection, unless it was closed. -/
def live (c : Connection) : Except Fault Handle :=
  match c.driver with
  | some h => .ok h
  | none => .error (failed c.info "Connection is closed" none)

/-- Closes the driver connection, if it is open. A failure leaves the connection as it was. -/
def close (c : Connection) : Action σ Fault Connection :=
  match c.driver with
  | none => pure c
  | some h => do
    b.closing h
    Action.log .info .connection
      ("Closed " ++ c.settings.engine.name ++ " connection " ++ c.dsn)
    pure { c with driver := none }

/-- Whether two names of a charset differ in case alone. -/
def sameCharset (current charset : String) : Bool :=
  Text.lower current.toList == Text.lower charset.toList

/-- Sends the statement that sets a charset through the open cursor, once its name is checked. -/
def sendCharset (e : Engine) (h : Handle) (charset : String) : Action σ Problem Bool := do
  match ← Action.ofExcept (e.setCharset (.text charset)) with
  | none => pure true
  | some statement =>
    let _ ← b.executing h statement .null
    pure true

/-- Changes the charset of the session and tells whether it has the wanted one now. A failure of the
    statement is logged, and the charset stays; it stays also when the cursor does not close. -/
def setCharset (c : Connection) (charset : Option String) : Action σ Fault (Bool × Connection) :=
  if c.settings.engine = .sqlite then pure (true, c)
  else
    match c.settings.charset, charset with
    | none, _ | _, none => Action.fail (.problem .lacksOperation)
    | some current, some wanted =>
      if sameCharset current wanted then pure (true, c)
      else do
        let h ← Action.ofExcept c.live
        b.cursor h
        let changed ← b.withOpenCursor h .problem <|
          (sendCharset b c.settings.engine h wanted).rescue fun _ => do
            Action.log .warning .connection ("Changing " ++ c.settings.engine.name ++
              " connection charset to " ++ wanted ++ " failed")
            pure false
        if changed then
          pure (true, { c with settings := { c.settings with charset := some wanted } })
        else
          pure (false, c)

/-- Writes a value as SQL text by the driver. -/
def quoter (c : Connection) (w : σ) : Quoter := fun v type => do
  let h ← c.live
  (Adapter.quote b c.settings.engine h v type w).mapError Fault.problem

/-- Writes a value as SQL text, given the type as the caller wrote it. -/
def quote (c : Connection) (v type : Value) : Action σ Fault String := Action.observe fun w => do
  let _ ← c.live
  let type ← (ParamType.ofValue type).mapError Fault.problem
  c.quoter b w v type

/-- The bind markers that stand in a clause unquoted: the common one and that of the driver. -/
def markers (c : Connection) : Value :=
  .tuple (if c.settings.engine.marker = "?" then [.text "?"]
    else [.text "?", .text c.settings.engine.marker])

/-- The text of a clause, its values quoted by the driver. -/
def formatWhere (c : Connection) (spec : Option WhereSpec) : Action σ Fault String :=
  Action.observe fun w => SqlBridge.formatWhere spec (c.quoter b w) c.markers

end Connection

end SqlBridge
