import SqlBridge.Problem

namespace SqlBridge

/-- A driver connection, as the packages hand it out. -/
structure Handle where
  id : Nat
deriving DecidableEq, Repr

/-- How a package is asked to connect. -/
structure ConnectArguments where
  positional : List Value
  keywords : List (String × Value)
deriving Repr

/-- How much a log record matters. -/
inductive Level where
  | debug
  | info
  | warning
deriving DecidableEq, Repr

/-- The part of the library that a log record comes from. -/
inductive Logger where
  | connection
  | postgres
  | mysql
  | sqlite
deriving DecidableEq, Repr

/-- What can be seen of a run from outside: the calls on drivers and their packages, and the log. -/
inductive Event where
  | connect (package : Package) (arguments : ConnectArguments)
  | autocommit (h : Handle)
  | cursorOpen (h : Handle)
  | execute (h : Handle) (sql : String) (params : Option Value)
  | fetch (h : Handle)
  | cursorClose (h : Handle)
  | close (h : Handle)
  | log (level : Level) (logger : Logger) (message : String)
deriving Repr

namespace Event

/-- The driver connection that an event happens on. -/
def handle? : Event → Option Handle
  | autocommit h | cursorOpen h | execute h _ _ | fetch h | cursorClose h | close h => some h
  | connect _ _ | log _ _ _ => none

end Event

end SqlBridge
