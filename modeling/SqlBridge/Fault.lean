import SqlBridge.Info
import SqlBridge.Problem
import SqlBridge.Template.Substitute

namespace SqlBridge

/-- What a database error complains of. -/
inductive Complaint where
  | general (message : Option String)
  /-- Opening a connection or its use failed. -/
  | connection (message : Option String)
  /-- A statement failed. -/
  | query (sql : String) (message : Option String)
  /-- A query variable has a value that may not be inserted into the template. -/
  | invalidVariable (name template : String)
  /-- A placeholder of the template has neither a value nor a default. -/
  | missingVariable (name template : String)
deriving DecidableEq, Repr

/-- An error about a database, with the connection it concerns and the problem it stems from. -/
structure DatabaseError where
  complaint : Complaint
  info : Option Info
  cause : Option Problem
deriving Repr

namespace Complaint

/-- The detail of a failed statement; an empty message adds nothing. -/
def queryDetail (sql : String) (message : Option String) : String :=
  match message with
  | none | some "" => "ERROR-QUERY: " ++ sql
  | some text => "ERROR-QUERY: " ++ sql ++ ": " ++ text

/-- What is said about the complaint beside the connection that it concerns. -/
def detail : Complaint → Option String
  | general message => message
  | connection message => message
  | query sql message => some (queryDetail sql message)
  | invalidVariable name template => some (queryDetail template (some
      ("The query variable \"" ++ name ++ "\" defines a value with invalid format")))
  | missingVariable name template => some (queryDetail template (some
      ("The query declares the query variable placeholder \"" ++ name ++
        "\" without default value and without an assigned replacement value")))

/-- The statement or template that is complained of. -/
def sql? : Complaint → Option String
  | general _ | connection _ => none
  | query sql _ => some sql
  | invalidVariable _ template => some template
  | missingVariable _ template => some template

end Complaint

namespace DatabaseError

/-- The detail of what is complained of. -/
def detail (e : DatabaseError) : Option String :=
  e.complaint.detail

/-- The connection is described first and the detail follows; what is missing is left out. -/
def message (e : DatabaseError) : String :=
  match e.info.map Info.describe, e.detail with
  | none, none | none, some "" => "database error"
  | none, some detail => detail
  | some info, none | some info, some "" => info
  | some info, some detail => info ++ ": " ++ detail

end DatabaseError

/-- What a call can fail with. -/
inductive Fault where
  | problem (p : Problem)
  | database (e : DatabaseError)
deriving Repr

namespace Fault

/-- A fault of a template as an error about the connection that it was meant for. -/
def ofUnresolved (template : String) (info : Option Info) : Unresolved → Fault
  | .invalid name => database ⟨.invalidVariable name template, info, none⟩
  | .missing name => database ⟨.missingVariable name template, info, none⟩

/-- Whether the fault passes every handler of the library. -/
def isFatal : Fault → Bool
  | problem p => p.isFatal
  | database _ => false

end Fault

/-- A template with every placeholder replaced, for the connection that `info` tells of. -/
def render (template : String) (vars : QueryVars) (info : Option Info) : Except Fault String :=
  (substitute template vars).mapError (Fault.ofUnresolved template info)

end SqlBridge
