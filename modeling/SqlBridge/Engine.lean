namespace SqlBridge

/-- A supported database engine. -/
inductive Engine where
  | mysql
  | pgsql
  | sqlite
deriving DecidableEq, Inhabited, Repr

namespace Engine

/-- The engines in the order in which they are listed. -/
def all : List Engine := [.mysql, .pgsql, .sqlite]

/-- The name by which an engine is configured. -/
def name : Engine → String
  | .mysql => "mysql"
  | .pgsql => "pgsql"
  | .sqlite => "sqlite"

/-- The name under which an engine stands in the list of engines. -/
def label : Engine → String
  | .mysql => "MYSQL"
  | .pgsql => "PGSQL"
  | .sqlite => "SQLITE"

/-- The port of a server that is given none; a database file has no port. -/
def defaultPort : Engine → Int
  | .mysql => 3306
  | .pgsql => 5432
  | .sqlite => 0

/-- The engine with this name. -/
def ofName? (s : String) : Option Engine :=
  all.find? (·.name == s)

/-- The engine that a name in small letters stands for, the two long names of PostgreSQL
    included. -/
def ofAlias? (s : String) : Option Engine :=
  if s == "postgres" || s == "postgresql" then some .pgsql else ofName? s

@[simp] theorem ofName?_name (e : Engine) : ofName? e.name = some e := by
  cases e <;> decide

theorem name_of_ofName? {s : String} {e : Engine} (hname : ofName? s = some e) : e.name = s := by
  simpa using List.find?_some hname

@[simp] theorem ofAlias?_name (e : Engine) : ofAlias? e.name = some e := by
  cases e <;> decide

end Engine

end SqlBridge
