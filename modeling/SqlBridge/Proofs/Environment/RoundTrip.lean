import SqlBridge.Environment.Settings
import SqlBridge.Proofs.Environment.Assignments

namespace SqlBridge

open Text

namespace Settings

/-- The variable of a port, which is left out when there is none. -/
def portVariable (r : Settings) : Environment :=
  match r.port with
  | .int n => [("DB_PORT", toString n)]
  | _ => []

/-- The variables that describe settings. -/
def environment (r : Settings) : Environment :=
  let charset := ("DB_CHARSET", r.charset.getD "")
  let alwaysParse := ("DB_ALWAYS_PARSE_QUERY_VARS", if r.alwaysParse then "1" else "0")
  match r.engine with
  | .sqlite => [("DB_ENGINE", "sqlite"), ("SQLITE_DB_PATH", r.dbname), charset, alwaysParse]
  | server => [("DB_ENGINE", server.name), ("DB_HOST", r.host), ("DB_NAME", r.dbname),
      ("DB_USER", r.username), ("DB_PASSWORD", r.password), charset, alwaysParse] ++ portVariable r

/-- A port that is missing, or a number with no more digits than are read. -/
def IsReadablePort (port : Value) : Prop :=
  port = .null ∨
    ∃ n : Int, port = .int n ∧ (Nat.toDigits 10 n.natAbs).length ≤ IntegerText.digitLimit

/-- Settings that variables can describe: those of a server with a host and a database, and those of a
database file with nothing else. -/
inductive Describable : Settings → Prop where
  | server {engine : Engine} {host dbname username password charset : String} {port : Value}
      {alwaysParse : Bool} (hserver : engine ≠ .sqlite) (hhost : host ≠ "") (hdbname : dbname ≠ "")
      (hport : IsReadablePort port) :
      Describable ⟨engine, host, dbname, username, password, some charset, port, alwaysParse⟩
  | file {dbname charset : String} {alwaysParse : Bool} (hdbname : dbname ≠ "") :
      Describable ⟨.sqlite, "", dbname, "", "", some charset, .null, alwaysParse⟩

theorem environment_of_server {r : Settings} (hserver : r.engine ≠ .sqlite) :
    environment r = [("DB_ENGINE", r.engine.name), ("DB_HOST", r.host), ("DB_NAME", r.dbname),
      ("DB_USER", r.username), ("DB_PASSWORD", r.password), ("DB_CHARSET", r.charset.getD ""),
      ("DB_ALWAYS_PARSE_QUERY_VARS", if r.alwaysParse then "1" else "0")] ++ portVariable r := by
  obtain ⟨engine, host, dbname, username, password, charset, port, alwaysParse⟩ := r
  cases engine with
  | sqlite => exact absurd rfl hserver
  | _ => rfl

/-- The names of all variables that describe settings. -/
def variableNames : List String :=
  ["DB_ENGINE", "DB_HOST", "DB_NAME", "DB_USER", "DB_PASSWORD", "SQLITE_DB_PATH", "DB_CHARSET",
    "DB_ALWAYS_PARSE_QUERY_VARS", "DB_PORT"]

theorem map_fst_environment (r : Settings) :
    ((environment r).map Prod.fst).Sublist variableNames := by
  obtain ⟨engine, host, dbname, username, password, charset, port, alwaysParse⟩ := r
  cases engine <;> cases port <;> simp [environment, portVariable] <;> decide

theorem nodup_environment (r : Settings) : ((environment r).map Prod.fst).Nodup :=
  List.Nodup.sublist (map_fst_environment r) (by decide)

theorem isAssignable_of_mem_variableNames {name : String} (hname : name ∈ variableNames) :
    Environment.IsAssignable name := by
  fin_cases hname <;> exact Environment.isAssignable_of_isUpper (by decide) (by decide)

end Settings

namespace Environment

variable {env : Environment}

/-- The order in which variables are listed does not matter when each is listed once. -/
theorem lookup_eq_of_perm {vars : Environment} (hperm : env.Perm vars)
    (hnodup : (vars.map Prod.fst).Nodup) (name : String) : env.lookup name = vars.lookup name := by
  induction hperm with
  | nil => rfl
  | cons entry _ ih =>
    rw [List.lookup_cons, List.lookup_cons, ih (List.nodup_cons.1 hnodup).2]
  | swap entry other vars =>
    obtain ⟨key, value⟩ := entry
    obtain ⟨key', value'⟩ := other
    have hother : key ≠ key' := fun hsame => by simp [hsame] at hnodup
    simp only [List.lookup_cons]
    by_cases hname : name = key
    · rw [hname, beq_self_eq_true, beq_false_of_ne hother]
    · rw [beq_false_of_ne hname]
  | trans _ hsecond ih ih' =>
    rw [ih ((hsecond.map _).nodup_iff.2 hnodup), ih' hnodup]

theorem flag_of_lookup {name : String} {wanted : Bool}
    (hlookup : env.lookup name = some (if wanted then "1" else "0")) (default : Bool) :
    env.flag name default = .ok wanted := by
  cases wanted <;> simp only [flag, present?, hlookup] <;> rfl

theorem integer?_of_lookup {name : String} {n : Int} (hlookup : env.lookup name = some (toString n))
    (hdigits : (Nat.toDigits 10 n.natAbs).length ≤ IntegerText.digitLimit) :
    env.integer? name = .ok (some n) := by
  have hkept : trim (toString n).toList = (toString n).toList :=
    trimBy_eq_self (fun c hc => IntegerText.isBlank_of_mem_toString (List.mem_of_head? hc))
      fun c hc => IntegerText.isBlank_of_mem_toString (List.mem_of_getLast? hc)
  have hpresent : env.present? name = some (toString n) := by
    rw [present?, hlookup, Option.filter_some, hkept, SqlLiteral.toList_toString]
    simp [Nat.toDigits_ne_nil]
  rw [integer?, hpresent]
  simp only [IntegerText.read_toString hdigits]

theorem parse_name (engine : Engine) : Engine.parse (.text engine.name) = .ok engine := by
  cases engine <;> rfl

theorem nonempty?_of_lookup {name value : String} (hlookup : env.lookup name = some value)
    (hne : value ≠ "") : env.nonempty? name = some value := by
  rw [nonempty?, hlookup]
  exact Option.filter_eq_some_iff.2 ⟨rfl, by simpa using hne⟩

theorem integer?_of_portVariable {r : Settings} (hport : Settings.IsReadablePort r.port)
    (hlookup : env.lookup "DB_PORT" = (Settings.portVariable r).lookup "DB_PORT") :
    ∃ port, env.integer? "DB_PORT" = .ok port ∧ (port.map Value.int).getD .null = r.port := by
  rcases hport with hnull | ⟨n, hint, hdigits⟩
  · rw [Settings.portVariable, hnull] at hlookup
    exact ⟨none, by rw [integer?, present?, hlookup]; rfl, hnull.symm⟩
  · rw [Settings.portVariable, hint] at hlookup
    exact ⟨some n, integer?_of_lookup hlookup hdigits, hint.symm⟩

theorem serverSettings_of_lookup {r : Settings} {charset : String} (hserver : r.engine ≠ .sqlite)
    (hhost : r.host ≠ "") (hdbname : r.dbname ≠ "") (hcharset : r.charset = some charset)
    (hport : Settings.IsReadablePort r.port)
    (hlookup : ∀ name, env.lookup name = (Settings.environment r).lookup name) :
    env.serverSettings r.engine r.alwaysParse = .ok r := by
  rw [Settings.environment_of_server hserver] at hlookup
  have hhost := nonempty?_of_lookup (hlookup "DB_HOST") hhost
  have hdbname := nonempty?_of_lookup (hlookup "DB_NAME") hdbname
  have hdefault {name value : String} (hvalue : env.lookup name = some value) (default : String) :
      env.getD name default = value := by
    rw [getD, hvalue]
    rfl
  obtain ⟨port, hread, hport⟩ := integer?_of_portVariable hport (hlookup "DB_PORT")
  rw [serverSettings, hhost, hdbname]
  simp only [hread, hdefault (hlookup "DB_USER"), hdefault (hlookup "DB_PASSWORD"),
    hdefault (hlookup "DB_CHARSET")]
  have hset : some (r.charset.getD "") = r.charset := by rw [hcharset, Option.getD_some]
  change Except.ok _ = Except.ok r
  rw [hport, hset]

/-- The settings are read off the variables that describe them. -/
theorem settings_of_lookup {r : Settings} (hr : Settings.Describable r)
    (hlookup : ∀ name, env.lookup name = (Settings.environment r).lookup name) :
    env.settings = .ok r := by
  have hflag : env.flag "DB_ALWAYS_PARSE_QUERY_VARS" true = .ok r.alwaysParse := by
    refine flag_of_lookup ?_ true
    rw [hlookup]
    cases hr with
    | file => rfl
    | @server engine => cases engine <;> rfl
  have hengine : env.getD "DB_ENGINE" "pgsql" = r.engine.name := by
    rw [getD, hlookup]
    cases hr with
    | file => rfl
    | @server engine => cases engine <;> rfl
  rw [settings, hengine, parse_name]
  change (env.flag "DB_ALWAYS_PARSE_QUERY_VARS" true >>= fun alwaysParse =>
    if r.engine = .sqlite then pure (env.fileSettings alwaysParse)
    else env.serverSettings r.engine alwaysParse) = _
  rw [hflag]
  cases hr with
  | @file dbname charset alwaysParse hdbname =>
    have hpath : env.nonempty? "SQLITE_DB_PATH" = some dbname :=
      nonempty?_of_lookup (hlookup "SQLITE_DB_PATH") hdbname
    have hcharset : env.getD "DB_CHARSET" "UTF8" = charset := by
      rw [getD, hlookup]
      rfl
    change Except.ok (env.fileSettings alwaysParse) = _
    rw [fileSettings, hpath, hcharset]
    rfl
  | server hserver hhost hdbname hport =>
    change (if _ = Engine.sqlite then _ else _) = _
    rw [if_neg hserver]
    exact serverSettings_of_lookup hserver hhost hdbname rfl hport hlookup

theorem loadSettings_of_nothing {files : Files} {path : String}
    (hunnamed : env.lookup fileVariable = none) (hfile : files.find path = .nothing) :
    env.loadSettings files path = (env.settings, env) := by
  have hnothing : files.find (env.source path) = .nothing := by
    rw [source, hunnamed, Option.getD_none, hfile]
  rw [loadSettings, load_of_nothing hnothing]

theorem loadSettings_of_assignments {files : Files} {path text : String} {vars : Environment}
    (hvars : AreAssignable vars) (htext : text = assignments vars ∨ text ++ "\n" = assignments vars)
    (hfile : files.find path = .file text.toUTF8) :
    loadSettings [] files path = (vars.settings, vars) := by
  have hnamed : files.HasText (source [] path) text := hfile
  rw [loadSettings, load_of_hasText hnamed, ofText_assignments hvars htext, hvars.addAll]

/-- Settings survive the way through the environment and through a file. In an environment that holds
the variables that describe them, in whatever order, and without a file they are read off as they are.
So they are in an empty environment from a file of these variables, a line for each, if the lines can
hold the values. -/
theorem loadSettings_environment {r : Settings} (hr : Settings.Describable r) (files : Files)
    (path : String) :
    (∀ env : Environment, env.Perm (Settings.environment r) → files.find path = .nothing →
      env.loadSettings files path = (.ok r, env)) ∧
    ∀ (vars : Environment) (text : String), vars.Perm (Settings.environment r) →
      (∀ entry ∈ vars, IsPlain entry.2 ∧ holdsNul entry.2 = false) →
      (text = assignments vars ∨ text ++ "\n" = assignments vars) →
      files.find path = .file text.toUTF8 →
      loadSettings [] files path = (.ok r, vars) := by
  have hsettings {env : Environment} (hperm : env.Perm (Settings.environment r)) :
      env.settings = .ok r :=
    settings_of_lookup hr (lookup_eq_of_perm hperm (Settings.nodup_environment r))
  have hnames {env : Environment} (hperm : env.Perm (Settings.environment r)) :
      ∀ entry ∈ env, entry.1 ∈ Settings.variableNames := fun entry hentry =>
    (Settings.map_fst_environment r).subset (List.mem_map_of_mem (hperm.subset hentry))
  refine ⟨fun env hperm hfile => ?_, fun vars text hperm hvalues htext hfile => ?_⟩
  · have hunnamed : env.lookup fileVariable = none := by
      rw [List.lookup_eq_none_iff]
      intro entry hentry
      rw [bne_iff_ne]
      intro hsame
      exact absurd (hnames hperm entry hentry) (by rw [← hsame]; decide)
    rw [loadSettings_of_nothing hunnamed hfile, hsettings hperm]
  · have hvars : AreAssignable vars :=
      ⟨fun entry hentry => Settings.isAssignable_of_mem_variableNames (hnames hperm entry hentry), hvalues,
        (hperm.map _).nodup_iff.2 (Settings.nodup_environment r)⟩
    rw [loadSettings_of_assignments hvars htext hfile, hsettings hperm]

theorem loadSettings_environment_of_awkward_values :
    let r : Settings := ⟨.mysql, "db=1", "it's \"it\" #1", "export me", "#p=a  b", some "", .int (-42), false⟩
    let file : Settings := ⟨.sqlite, "", "a b.db", "", "", some "UTF8", .null, true⟩
    let text := "DB_PORT=-42\nDB_ALWAYS_PARSE_QUERY_VARS=0\nDB_CHARSET=\nDB_PASSWORD=#p=a  b\n" ++
      "DB_USER=export me\nDB_NAME=it's \"it\" #1\nDB_HOST=db=1\nDB_ENGINE=mysql"
    loadSettings [] (Files.ofList [("db.env", .file text.toUTF8)]) "db.env" =
        (.ok r, (Settings.environment r).reverse) ∧
      loadSettings (Settings.environment file) (Files.ofList []) ".env" =
        (.ok file, Settings.environment file) := by
  intro r file text
  refine ⟨?_, ?_⟩
  · refine (loadSettings_environment (.server (by decide) (by decide) (by decide)
      (.inr ⟨-42, rfl, by decide⟩)) _ _).2 _ text (List.reverse_perm _) ?_ ?_ rfl
    · decide +kernel
    · exact .inr (by decide +kernel)
  · exact (loadSettings_environment (.file (by decide)) _ _).1 _ (.refl _) rfl

end Environment

end SqlBridge
