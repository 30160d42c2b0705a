import SqlBridge.Value.Display

namespace SqlBridge

/-- A package through which a database is reached. -/
inductive Package where
  | psycopg
  | psycopg2
  | pymysql
  | sqlite3
deriving DecidableEq, Repr

namespace Package

/-- The name by which a package is loaded. -/
def name : Package → String
  | psycopg => "psycopg"
  | psycopg2 => "psycopg2"
  | pymysql => "pymysql"
  | sqlite3 => "sqlite3"

end Package

/-- The kinds of failure that a driver can raise. -/
inductive FailureKind where
  | runtime
  | os
  | value
  | loading
  | driver
  | fatal
deriving DecidableEq, Repr

/-- A failure that a driver raised, with its text. -/
structure Failure where
  kind : FailureKind
  message : String
deriving DecidableEq, Repr

/-- Everything that can go wrong short of a database error. -/
inductive Problem where
  /-- The value names no engine. -/
  | unsupportedEngine (value : Value)
  /-- No adapter belongs to the engine of a settings record. -/
  | unsupportedAdapter (engine : Value)
  /-- A charset is no name of letters, digits, underscores and hyphens. -/
  | invalidCharset (value : Value)
  /-- A text, shown in quotes, is no decimal integer. -/
  | invalidInteger (shown : String)
  /-- A text has more digits than an integer may be read from. -/
  | integerTooLong (digits : Nat)
  /-- What is not a number has no integer beside it. -/
  | integerFromNaN
  /-- Infinity has no integer beside it. -/
  | integerFromInfinity
  /-- The value names no type of a parameter. -/
  | invalidParamType (value : Value)
  /-- The text names no style of rows. -/
  | invalidFetchStyle (style : String)
  /-- The value names no way to join conditions. -/
  | unsupportedCombinator (value : Value)
  /-- A column condition was given as a row of this many items. -/
  | conditionLength (items : Nat)
  /-- A value of this kind is no clause. -/
  | unsupportedWhere (kind : String)
  /-- The text of a variable is neither yes nor no. -/
  | invalidFlag (name raw : String)
  /-- The text of a variable is no integer. -/
  | invalidVariableInteger (name raw : String)
  /-- A variable that is needed is not set. -/
  | missingVariable (name : String)
  /-- A variable holds the character that ends variables. -/
  | nulByte
  /-- Bytes are no text in UTF-8. -/
  | undecodable
  /-- A text has a character that an encoding cannot write. -/
  | unencodable
  /-- A directory stands where a file is read. -/
  | pathIsDirectory
  /-- The system does not let a path be read, for the reason that it gives. -/
  | inaccessible (reason : String)
  /-- The registry holds a default connection already. -/
  | defaultTaken
  /-- The registry holds no default connection. -/
  | noDefault
  /-- None of the packages for PostgreSQL can be loaded. -/
  | noPostgresDriver
  /-- The package for MySQL cannot be loaded. -/
  | noMysqlDriver
  /-- A package that is needed cannot be loaded. -/
  | packageMissing (package : Package)
  /-- An operation is given a value of a kind it does not take. -/
  | wrongKind
  /-- A value does not offer the operation that is asked of it. -/
  | lacksOperation
  /-- An engine is looked up that is none of the supported ones. -/
  | unknownEngine
  /-- A connection is asked for under a name that none has. -/
  | unknownConnection
  /-- A row has fewer items than are read from it. -/
  | shortRow
  /-- A driver raised a failure. -/
  | raised (failure : Failure)
deriving Repr

namespace Problem

/-- A fatal failure of a driver is not handled on its way out; every other problem is ordinary. -/
def isFatal : Problem → Bool
  | raised failure => failure.kind == .fatal
  | _ => false

/-- The wording of a problem, for those that have one. -/
def message? : Problem → Option String
  | unsupportedEngine value => some ("Unsupported db engine: " ++ value.quoted)
  | unsupportedAdapter engine => some ("Unsupported db_engine: " ++ engine.shown)
  | invalidCharset value => some ("Invalid charset name: " ++ value.quoted)
  | invalidInteger shown => some ("invalid literal for int() with base 10: " ++ shown)
  | integerTooLong digits => some ("Exceeds the limit (4300 digits) for integer string " ++
      "conversion: value has " ++ toString digits ++
      " digits; use sys.set_int_max_str_digits() to increase the limit")
  | integerFromNaN => some "cannot convert float NaN to integer"
  | invalidParamType value => some (value.quoted ++ " is not a valid ParamType")
  | invalidFetchStyle style => some ((Value.text style).quoted ++ " is not a valid FetchStyle")
  | unsupportedCombinator value => some ("Unsupported WHERE combinator: " ++ value.quoted)
  | conditionLength items => some ("Column condition must have 1 to 3 items, got " ++
      toString items)
  | unsupportedWhere kind => some ("Unsupported WHERE spec: " ++ kind)
  | invalidFlag name raw => some (name ++ " must be a boolean flag, got: " ++
      (Value.text raw).quoted)
  | invalidVariableInteger name raw => some (name ++ " must be an integer, got: " ++
      (Value.text raw).quoted)
  | missingVariable name => some (name ++ " is required")
  | nulByte => some "embedded null byte"
  | inaccessible reason => some reason
  | defaultTaken => some "A default connection is already registered"
  | noDefault => some "No default connection registered; call init_default() first"
  | noPostgresDriver => some ("No PostgreSQL driver found. Install one of: " ++
      "`python -m pip install \"psycopg[binary]\"` or `python -m pip install psycopg2-binary`.")
  | noMysqlDriver => some
      "No MySQL driver found. Install it with `python -m pip install pymysql`."
  | raised failure => some failure.message
  | integerFromInfinity | undecodable | unencodable | pathIsDirectory | packageMissing _
  | wrongKind | lacksOperation | unknownEngine | unknownConnection | shortRow => none

end Problem

end SqlBridge
