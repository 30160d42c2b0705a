import SqlBridge.Files
import SqlBridge.Text.Case
import SqlBridge.Text.Line
import SqlBridge.Value.Integer

namespace SqlBridge

open Text

/-- The environment variables of a process. -/
abbrev Environment := List (String × String)

namespace Environment

/-- The path that is read when none is given. -/
def defaultPath : String := ".env"

/-- The variable that names another file to read. -/
def fileVariable : String := "SQLCONN_ENV_FILE"

/-- Whether a text holds the character that ends a variable for the system. -/
def holdsNul (s : String) : Bool :=
  s.toList.contains '\x00'

/-- Adds one variable unless it is set already. -/
def add (env : Environment) (key value : String) : Except Problem Environment :=
  if (env.lookup key).isSome then .ok env
  else if holdsNul key || holdsNul value then .error .nulByte
  else .ok (env ++ [(key, value)])

/-- The text after a leading `export` and a space. -/
def dropExport (line : List Char) : List Char :=
  match line with
  | 'e' :: 'x' :: 'p' :: 'o' :: 'r' :: 't' :: ' ' :: rest => rest
  | _ => line

/-- The value that is written after the equals sign: without white space around it, then without
    single quotes and then without double ones. -/
def unquote (s : List Char) : List Char :=
  trimBy (· == '"') (trimBy (· == '\'') (trim s))

/-- The variable that a line sets. Blank lines, comments and lines without an equals sign set none,
    and neither does a line without a name. -/
def ofLine? (line : List Char) : Option (String × String) :=
  let body := trim line
  if body.isEmpty || body.head? == some '#' || !body.contains '=' then none
  else
    let assignment := dropExport body
    let key := trim (assignment.takeWhile (· != '='))
    let value := unquote ((assignment.dropWhile (· != '=')).drop 1)
    if key.isEmpty then none else some (String.ofList key, String.ofList value)

/-- The variables that the lines of a text set, in order. -/
def ofText (s : String) : List (String × String) :=
  (lines s.toList).filterMap ofLine?

/-- Adds variables in order up to the first that cannot be written; what was added before it
    stays. -/
def addAll (env : Environment) : List (String × String) → Except Problem Unit × Environment
  | [] => (.ok (), env)
  | (key, value) :: rest =>
    match add env key value with
    | .ok env' => addAll env' rest
    | .error p => (.error p, env)

/-- The text of the file at a path, or none when there is no such file. -/
def readFile (files : Files) (path : String) : Except Problem (Option String) :=
  match files.find path with
  | .nothing => .ok none
  | .unreadable reason => .error (.inaccessible reason)
  | .directory => .error .pathIsDirectory
  | .file content =>
    match String.fromUTF8? content with
    | some s => .ok (some s)
    | none => .error .undecodable

/-- Adds the variables of a file to those that are set. Without a file nothing changes. -/
def load (env : Environment) (files : Files) (path : String) :
    Except Problem Unit × Environment :=
  match readFile files ((env.lookup fileVariable).getD path) with
  | .error p => (.error p, env)
  | .ok none => (.ok (), env)
  | .ok (some s) => env.addAll (ofText s)

/-- A variable without the white space around it, unless nothing else is there. -/
def present? (env : Environment) (name : String) : Option String :=
  (env.lookup name).filter fun raw => !(trim raw.toList).isEmpty

/-- A yes or no, the default when it is not set. -/
def flag (env : Environment) (name : String) (default : Bool) : Except Problem Bool :=
  match env.present? name with
  | none => .ok default
  | some raw =>
    let word := String.ofList (asciiLower (trim raw.toList))
    if ["1", "true", "yes", "on"].contains word then .ok true
    else if ["0", "false", "no", "off"].contains word then .ok false
    else .error (.invalidFlag name raw)

/-- An integer, if it is set. -/
def integer? (env : Environment) (name : String) : Except Problem (Option Int) :=
  match env.present? name with
  | none => .ok none
  | some raw =>
    match IntegerText.read raw.toList with
    | .value n => .ok (some n)
    | _ => .error (.invalidVariableInteger name raw)

end Environment

end SqlBridge
