import SqlBridge.Connection.Query
import SqlBridge.Environment.Settings

namespace SqlBridge

/-- Something that is asked of a connection. -/
inductive Request where
  | fetchAll (sql : String) (params : Value) (style : String) (vars : QueryVars)
  | fetchRecord (sql : String) (params : Value) (style : String) (vars : QueryVars)
  | fetchScalar (sql : String) (params default : Value) (vars : QueryVars)
  | execute (sql : String) (params : Value) (vars : QueryVars)
  | count (table : String) (spec : Option WhereSpec) (params : Value)
  | formatWhere (spec : Option WhereSpec)
  | quote (v type : Value)
  | setCharset (charset : Option String)
  | databaseExists (name : String)
  | tableExists (table : String) (database : Option String)
  | state
  | enter
  | exit
  | close
deriving Repr

/-- What a step answers with. -/
inductive Answer where
  | opened
  | done
  | rows (rows : Option (List Row))
  | row (row : Option Row)
  | value (v : Value)
  | number (n : Int)
  | text (s : String)
  | flag (b : Bool)
  | state (c : Connection)
  /-- A connection under the name that it has in the session. -/
  | connection (name : Option String)
deriving Repr

/-- The answer of a connection to a request, and the connection after it. -/
def Request.answer {σ : Type} (b : Backend σ) (c : Connection) :
    Request → Action σ Fault (Answer × Connection)
  | fetchAll sql params style vars => do
    pure (.rows (← c.fetchAll b sql params style vars), c)
  | fetchRecord sql params style vars => do
    pure (.row (← c.fetchRecord b sql params style vars), c)
  | fetchScalar sql params default vars => do
    pure (.value (← c.fetchScalar b sql params default vars), c)
  | execute sql params vars => do pure (.value (← c.execute b sql params vars), c)
  | count table spec params => do pure (.number (← c.count b table spec params), c)
  | formatWhere spec => do pure (.text (← c.formatWhere b spec), c)
  | quote v type => do pure (.text (← c.quote b v type), c)
  | setCharset charset => do
    let (changed, c) ← c.setCharset b charset
    pure (.flag changed, c)
  | databaseExists name => do pure (.flag (← c.databaseExists b name), c)
  | tableExists table database => do pure (.flag (← c.tableExists b table database), c)
  | state => pure (.state c, c)
  | enter => pure (.flag true, c)
  | exit => do pure (.done, ← c.close b)
  | close => do pure (.done, ← c.close b)

/-- A step of a session. -/
inductive Step (σ : Type) where
  /-- The outside world changes before a step. -/
  | after (change : σ → σ) (step : Step σ)
  | connect (name : String) (draft : Draft) (driver : Option Handle)
  /-- The engine of the draft is read before the connection is asked for. -/
  | connectFromSettings (name : String) (draft : Draft) (driver : Option Handle)
  | connectFromEnvironment (name : String) (env : Environment) (files : Files) (path : String)
  | request (name : String) (request : Request)
  /-- Makes a connection the default one, or none with a missing name. -/
  | initDefault (name : Option String) (replace : Bool)
  | hasDefault
  | getDefault
  | clearDefault (close : Bool)
  | defaultDatabaseExists (name : String)
  | defaultTableExists (table : String) (database : Option String)
  /-- Steps with a default connection, with a failure after them if one is given. -/
  | withDefault (name : String) (body : List (Step σ)) (failure : Option Failure)

/-- What came of a step. -/
inductive Entry where
  | step (outcome : Except Fault Answer) (events : List Event)
  /-- What came of the steps inside, the name of the connection unless the block was not entered,
      and the fault that left the block. -/
  | block (entries : List Entry) (entered : Option String) (raised : Option Fault)

/-- The connections that were made so far, the names they are known by, the default connection, and
    the outside world. -/
structure Session (σ : Type) where
  connections : List Connection
  names : List (String × Nat)
  slot : Option Nat
  world : σ

namespace Session

variable {σ : Type} (b : Backend σ)

/-- A session in which nothing was done. -/
def start (world : σ) : Session σ := ⟨[], [], none, world⟩

/-- The place of the connection that a name stands for now. -/
def place? (s : Session σ) (name : String) : Option Nat :=
  s.names.lookup name

/-- The name of the connection at a place. -/
def nameOf? (s : Session σ) (place : Nat) : Option String :=
  (s.names.find? (·.2 == place)).map Prod.fst

/-- Adds a connection under a name; an older connection of that name loses it. -/
def add (s : Session σ) (name : String) (c : Connection) : Session σ :=
  { s with
    connections := s.connections ++ [c]
    names := (name, s.connections.length) :: s.names.filter (·.1 != name) }

/-- Makes a new connection. -/
def opening (s : Session σ) (name : String) (x : Action σ Fault Connection) : Entry × Session σ :=
  let run := x s.world
  let s := { s with world := run.world }
  match run.outcome with
  | .ok c => (.step (.ok .opened) run.events, s.add name c)
  | .error e => (.step (.error e) run.events, s)

/-- Does something with the connection at a place. -/
def act (s : Session σ) (place : Nat) (x : Connection → Action σ Fault (Answer × Connection)) :
    Entry × Session σ :=
  match s.connections[place]? with
  | none => (.step (.error (.problem (.unknownConnection))) [], s)
  | some c =>
    let run := x c s.world
    let s := { s with world := run.world }
    match run.outcome with
    | .ok (answer, c) =>
      (.step (.ok answer) run.events, { s with connections := s.connections.set place c })
    | .error e => (.step (.error e) run.events, s)

/-- Puts a connection, or none, into the slot of the default connection. -/
def register (s : Session σ) (place : Option Nat) (replace : Bool) : Except Problem (Session σ) :=
  if s.slot.isSome && !replace then .error .defaultTaken else .ok { s with slot := place }

/-- A step without a visible event. -/
def silent (outcome : Except Fault Answer) : Entry :=
  .step outcome []

/-- Makes a connection the default one. -/
def initDefault (s : Session σ) (name : Option String) (replace : Bool) : Entry × Session σ :=
  match name with
  | none =>
    match s.register none replace with
    | .ok s => (silent (.ok (.connection none)), s)
    | .error p => (silent (.error (.problem p)), s)
  | some name =>
    match s.place? name with
    | none => (silent (.error (.problem (.unknownConnection))), s)
    | some place =>
      match s.register (some place) replace with
      | .ok s => (silent (.ok (.connection (s.nameOf? place))), s)
      | .error p => (silent (.error (.problem p)), s)

/-- The default connection. -/
def getDefault (s : Session σ) : Except Problem Nat :=
  match s.slot with
  | some place => .ok place
  | none => .error .noDefault

/-- Empties the slot and closes the connection that was in it, if that is wanted. The slot stays
    empty when closing fails. -/
def clearDefault (s : Session σ) (close : Bool) : Entry × Session σ :=
  let cleared := { s with slot := none }
  match s.slot with
  | none => (silent (.ok (.connection none)), cleared)
  | some place =>
    let answer := Answer.connection (s.nameOf? place)
    if close then
      cleared.act place fun c => do
        let c ← c.close b
        pure (answer, c)
    else
      (silent (.ok answer), cleared)

/-- A question to the default connection; without one the answer is no. -/
def askDefault (s : Session σ) (request : Request) : Entry × Session σ :=
  match s.slot with
  | none => (silent (.ok (.flag false)), s)
  | some place => s.act place fun c => request.answer b c

mutual
/-- Does one step. -/
def perform (s : Session σ) : Step σ → Entry × Session σ
  | .after change step => perform { s with world := change s.world } step
  | .connect name draft driver => s.opening name (Connection.create b draft driver)
  | .connectFromSettings name draft driver =>
    match Engine.parse draft.engine with
    | .error p => (silent (.error (.problem p)), s)
    | .ok e => s.opening name (Connection.create b (draft.withEngine (.engine e)) driver)
  | .connectFromEnvironment name env files path =>
    match (env.loadSettings files path).1 with
    | .error p => (silent (.error (.problem p)), s)
    | .ok settings => s.opening name (Connection.create b (Settings.draft settings) none)
  | .request name request =>
    match s.place? name with
    | none => (silent (.error (.problem (.unknownConnection))), s)
    | some place => s.act place fun c => request.answer b c
  | .initDefault name replace => s.initDefault name replace
  | .hasDefault => (silent (.ok (.flag s.slot.isSome)), s)
  | .getDefault =>
    match s.getDefault with
    | .ok place => (silent (.ok (.connection (s.nameOf? place))), s)
    | .error p => (silent (.error (.problem p)), s)
  | .clearDefault close => s.clearDefault b close
  | .defaultDatabaseExists name => s.askDefault b (.databaseExists name)
  | .defaultTableExists table database => s.askDefault b (.tableExists table database)
  | .withDefault name body failure =>
    match s.place? name with
    | none => (silent (.error (.problem (.unknownConnection))), s)
    | some place =>
      match s.register (some place) false with
      | .error p => (.block [] none (some (.problem p)), s)
      | .ok inside =>
        let (entries, after) := performAll inside body
        (.block entries (inside.nameOf? place) (failure.map fun f => .problem (.raised f)),
          { after with slot := none })

/-- Does steps in order; a step that fails does not keep the next ones from being done. -/
def performAll (s : Session σ) : List (Step σ) → List Entry × Session σ
  | [] => ([], s)
  | step :: steps =>
    let (entry, s) := perform s step
    let (entries, s) := performAll s steps
    (entry :: entries, s)
end

end Session

end SqlBridge
