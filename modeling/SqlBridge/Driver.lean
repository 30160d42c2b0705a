import SqlBridge.Driver.Action

namespace SqlBridge

/-- What a driver answers to a statement: the names of the columns, if it has any, and the row
    count. -/
structure Answered where
  columns : Option (List String)
  rowCount : Value
deriving Repr

/-- The result of quoting a value, as text or as the bytes of a text. -/
inductive QuotedForm where
  | text (s : String)
  | bytes (data : ByteArray)
  /-- A character of the text has no bytes in the encoding that the driver writes. -/
  | unencodable

/-- A value that a driver has made ready to be quoted, and what it is quoted as before and after it
    is prepared for a connection. -/
structure Adapted where
  preparable : Bool
  quoted : Bool → QuotedForm

/-- The driver packages: what each call answers and what it makes of the outside world. Every call on
    a package or on a driver connection may raise any failure. What is assumed is that a package that
    cannot be loaded is not installed, which is all that loading fails of, and that writing a value as a
    literal (`escape`, `literal`, `adapt`) raises nothing and leaves the world alone. -/
structure Backend (σ : Type) where
  /-- Whether a package can be loaded. -/
  installed : Package → σ → Bool
  connect : Package → ConnectArguments → σ → Except Failure Handle × σ
  setAutocommit : Handle → σ → Except Failure Unit × σ
  openCursor : Handle → σ → Except Failure Unit × σ
  execute : Handle → String → Option Value → σ → Except Failure Answered × σ
  fetchAll : Handle → σ → Except Failure (List (List Value)) × σ
  closeCursor : Handle → σ → Except Failure Unit × σ
  close : Handle → σ → Except Failure Unit × σ
  /-- Whether a connection belongs to psycopg2. -/
  isPsycopg2 : Handle → σ → Bool
  /-- The literal that a MySQL connection writes for a value. -/
  escape : Handle → Value → σ → String
  /-- The literal that psycopg writes for a value. -/
  literal : Handle → Value → σ → String
  adapt : Handle → Value → σ → Adapted

namespace Backend

variable {σ ε α : Type} (b : Backend σ)

/-- A call that can be seen from outside and may raise a failure. -/
def call (event : Event) (f : σ → Except Failure α × σ) : Action σ Problem α := fun w =>
  let answer := f w
  ⟨answer.1.mapError .raised, [event], answer.2⟩

/-- A connection through a package that can be loaded. -/
def connecting (package : Package) (arguments : ConnectArguments) : Action σ Problem Handle :=
  call (.connect package arguments) (b.connect package arguments)

/-- Switches a connection to autocommit. -/
def autocommitting (h : Handle) : Action σ Problem Unit :=
  call (.autocommit h) (b.setAutocommit h)

/-- Opens a cursor. -/
def cursor (h : Handle) : Action σ Problem Unit :=
  call (.cursorOpen h) (b.openCursor h)

/-- Sends a statement; parameters that do not count as present are left out. -/
def executing (h : Handle) (sql : String) (params : Value) : Action σ Problem Answered :=
  let sent := if params.truthy then some params else none
  call (.execute h sql sent) (b.execute h sql sent)

/-- Fetches all rows of the statement that was sent last. -/
def fetching (h : Handle) : Action σ Problem (List (List Value)) :=
  call (.fetch h) (b.fetchAll h)

/-- Closes the cursor of a connection. -/
def closingCursor (h : Handle) : Action σ Problem Unit :=
  call (.cursorClose h) (b.closeCursor h)

/-- Does something with the open cursor of a connection and closes it, however that ended. A cursor
    that does not close raises its failure, in the terms of `raise`, in place of what came of the work. -/
def withOpenCursor (h : Handle) (raise : Problem → ε) (x : Action σ ε α) : Action σ ε α :=
  x.afterwards ((b.closingCursor h).mapError raise)

theorem withOpenCursor_of_closed {h : Handle} {raise : Problem → ε} {x : Action σ ε α} {w w' : σ}
    (hclosed : b.closeCursor h (x w).world = (.ok (), w')) : b.withOpenCursor h raise x w =
      ⟨(x w).outcome, (x w).events ++ [.cursorClose h], w'⟩ := by
  rw [withOpenCursor, Action.afterwards, Action.mapError, closingCursor, call, hclosed]
  rfl

theorem withOpenCursor_of_failure {h : Handle} {raise : Problem → ε} {x : Action σ ε α} {w w' : σ}
    {failure : Failure} (hfails : b.closeCursor h (x w).world = (.error failure, w')) :
    b.withOpenCursor h raise x w =
      ⟨.error (raise (.raised failure)), (x w).events ++ [.cursorClose h], w'⟩ := by
  rw [withOpenCursor, Action.afterwards, Action.mapError, closingCursor, call, hfails]
  rfl

/-- Whether the cursor closes or not, it is seen that it is to. -/
theorem withOpenCursor_events (h : Handle) (raise : Problem → ε) (x : Action σ ε α) (w : σ) :
    (b.withOpenCursor h raise x w).events = (x w).events ++ [.cursorClose h] := by
  rcases hclosing : b.closeCursor h (x w).world with ⟨failure | ⟨⟩, w'⟩
  · rw [b.withOpenCursor_of_failure hclosing]
  · rw [b.withOpenCursor_of_closed hclosing]

/-- Closes a connection. -/
def closing (h : Handle) : Action σ Problem Unit :=
  call (.close h) (b.close h)

/-- Whether a package can be loaded now. -/
def available (package : Package) : Action σ ε Bool :=
  Action.observe fun w => .ok (b.installed package w)

end Backend

end SqlBridge
