import SqlBridge.Problem

namespace SqlBridge

/-- A statement with the values of its bind markers. -/
structure Query where
  sql : String
  params : List String
deriving DecidableEq, Repr

namespace Query

/-- The bound values as a driver takes them. -/
def arguments (q : Query) : Value :=
  .tuple (q.params.map .text)

end Query

/-- A character of the name of a charset. -/
def isCharsetChar (c : Char) : Bool :=
  c.isAlphanum || c == '_' || c == '-'

/-- A name of a charset that may become part of a statement. -/
def isCharsetName (s : String) : Bool :=
  s != "" && s.toList.all isCharsetChar

namespace Engine

/-- The bind marker of the driver's parameter style. -/
def marker : Engine → String
  | .sqlite => "?"
  | _ => "%s"

/-- The statement that sets the charset of a session to a checked name. -/
def charsetStatement (name : String) : Engine → Option String
  | .sqlite => none
  | .pgsql => some ("set client_encoding to " ++ name)
  | .mysql => some ("SET NAMES " ++ name)

/-- The statement that sets the charset of a session. A database file has no such statement, and
    elsewhere the name is checked since it becomes part of the text. -/
def setCharset (e : Engine) (charset : Value) : Except Problem (Option String) :=
  match e with
  | .sqlite => .ok none
  | _ =>
    if charset.truthy then
      match charset.text? with
      | none => .error .wrongKind
      | some name =>
        if isCharsetName name then .ok (e.charsetStatement charset.shown)
        else .error (.invalidCharset charset)
    else
      .error (.invalidCharset charset)

/-- Asks whether a database exists; a file is a database of its own and is not asked. -/
def databaseExists (e : Engine) (name : String) : Option Query :=
  match e with
  | .pgsql => some ⟨"SELECT EXISTS (SELECT true FROM pg_database WHERE datname = " ++ e.marker ++ ")",
      [name]⟩
  | .mysql => some ⟨"SELECT SCHEMA_NAME FROM information_schema.SCHEMATA WHERE SCHEMA_NAME = " ++
      e.marker, [name]⟩
  | .sqlite => none

/-- Asks whether a table exists, in the database of that name where there are several. -/
def tableExists (e : Engine) (table database : String) : Query :=
  match e with
  | .pgsql => ⟨"\n                SELECT EXISTS (" ++
      "\n                    SELECT true" ++
      "\n                    FROM information_schema.tables" ++
      "\n                    WHERE table_name = " ++ e.marker ++
      "\n                      AND table_catalog = " ++ e.marker ++
      "\n                )" ++
      "\n                ", [table, database]⟩
  | .mysql => ⟨"\n                SELECT COUNT(*)" ++
      "\n                FROM information_schema.TABLES" ++
      "\n                WHERE TABLE_SCHEMA = " ++ e.marker ++
      "\n                  AND TABLE_NAME = " ++ e.marker ++
      "\n                ", [database, table]⟩
  | .sqlite => ⟨"\n            SELECT COUNT(*)" ++
      "\n            FROM sqlite_master" ++
      "\n            WHERE type = 'table'" ++
      "\n              AND name = " ++ e.marker ++
      "\n            ", [table]⟩

end Engine

end SqlBridge
