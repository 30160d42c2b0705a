import SqlBridge.Proofs.Connection.Closed
import SqlBridge.Proofs.Connection.Results
import SqlBridge.Proofs.Limit.Phrase

namespace SqlBridge

open SqlBridge.Action
open Text

/-- How many times a bind marker stands in a text. -/
def markerCount (marker text : String) : Nat :=
  text.toList.tails.countP fun rest => marker.toList.isPrefixOf rest

/-- The text compares these columns with bind markers, one after the other, and has no other marker. -/
inductive Compares (marker : String) : String → List String → Prop where
  | nothing {text : String} (hfree : ∀ m ∈ marker.toList.head?, m ∉ text.toList) :
      Compares marker text []
  | column {lead column after : String} {columns : List String}
      (hfree : ∀ m ∈ marker.toList.head?, m ∉ (lead ++ " " ++ column ++ " = ").toList)
      (hafter : Compares marker after columns) :
      Compares marker (lead ++ " " ++ column ++ " = " ++ marker ++ after) (column :: columns)

section Markers

variable {m : Char} {ms xs ys : List Char} {marker text : String} {columns : List String}

theorem countP_tails_append (hfree : m ∉ xs) :
    (xs ++ ys).tails.countP (m :: ms).isPrefixOf = ys.tails.countP (m :: ms).isPrefixOf := by
  induction xs with
  | nil => rfl
  | cons x xs ih =>
    rw [List.mem_cons, not_or] at hfree
    rw [List.cons_append, List.tails_cons, List.countP_cons, ih hfree.2]
    simp [hfree.1]

theorem free_of_all (hfree : text.toList.all (fun ch => marker.toList.head? != some ch) = true) :
    ∀ m ∈ marker.toList.head?, m ∉ text.toList := by
  intro m hfirst hmem
  have hother := List.all_eq_true.1 hfree m hmem
  rw [Option.mem_def.1 hfirst, bne_self_eq_false] at hother
  cases hother

/-- A marker that does not begin again inside itself is found once for every comparison. -/
theorem Compares.markerCount_eq (hcompares : Compares marker text columns)
    (hmarker : marker.toList = m :: ms) (honce : m ∉ ms) :
    markerCount marker text = columns.length := by
  have hfirst : m ∈ marker.toList.head? := by
    rw [hmarker]
    rfl
  unfold markerCount
  rw [hmarker]
  induction hcompares with
  | @nothing text hfree =>
    rw [← List.append_nil text.toList, countP_tails_append (hfree m hfirst)]
    rfl
  | column hfree _ ih =>
    rw [String.toList_append, String.toList_append, List.append_assoc,
      countP_tails_append (hfree m hfirst), hmarker, List.cons_append, List.tails_cons,
      List.countP_cons, countP_tails_append honce, ih]
    simp [List.isPrefixOf_iff_prefix]

end Markers

/-- A name: a letter or an underscore, and after it letters, digits, underscores and some more
characters. -/
def IsName (more : List Char) (s : String) : Prop :=
  ∃ first rest, s.toList = first :: rest ∧ (first.isAlpha = true ∨ first = '_') ∧
    ∀ ch ∈ rest, ch.isAlphanum = true ∨ ch = '_' ∨ ch ∈ more

namespace Connection

theorem isDatabaseName_iff {s : String} : isDatabaseName s = true ↔ IsName [] s := by
  rw [isDatabaseName, IsName]
  cases s.toList with
  | nil => simp
  | cons first rest => simp [isNameStart]

theorem isTableName_iff {s : String} : isTableName s = true ↔ IsName ['.', '-'] s := by
  rw [isTableName, IsName]
  cases s.toList with
  | nil => simp
  | cons first rest => simp [isNameStart, or_assoc]

end Connection

namespace Engine

/-- What an engine with databases is asked about one. -/
def databaseText : Engine → String
  | .pgsql => "SELECT EXISTS (SELECT true FROM pg_database WHERE datname = %s) LIMIT 1"
  | .mysql => "SELECT SCHEMA_NAME FROM information_schema.SCHEMATA WHERE SCHEMA_NAME = %s LIMIT 1"
  | .sqlite => ""

/-- The columns that tell a database, each with what it is compared with. -/
def databaseColumns (name : String) : Engine → List (String × String)
  | .pgsql => [("datname", name)]
  | .mysql => [("SCHEMA_NAME", name)]
  | .sqlite => []

/-- What an engine is asked about a table. -/
def tableText : Engine → String
  | .pgsql => "\n                SELECT EXISTS (" ++
      "\n                    SELECT true" ++
      "\n                    FROM information_schema.tables" ++
      "\n                    WHERE table_name = " ++ "%s" ++
      "\n                      AND table_catalog = " ++ "%s" ++
      "\n                )" ++ " LIMIT 1"
  | .mysql => "\n                SELECT COUNT(*)" ++
      "\n                FROM information_schema.TABLES" ++
      "\n                WHERE TABLE_SCHEMA = " ++ "%s" ++
      "\n                  AND TABLE_NAME = " ++ "%s" ++ " LIMIT 1"
  | .sqlite => "\n            SELECT COUNT(*)" ++
      "\n            FROM sqlite_master" ++
      "\n            WHERE type = 'table'" ++
      "\n              AND name = " ++ "?" ++ " LIMIT 1"

/-- The columns that tell a table, each with what it is compared with. -/
def tableColumns (table database : String) : Engine → List (String × String)
  | .pgsql => [("table_name", table), ("table_catalog", database)]
  | .mysql => [("TABLE_SCHEMA", database), ("TABLE_NAME", table)]
  | .sqlite => [("name", table)]

/-- How an answer tells whether a database is there: PostgreSQL by a truth value, and MySQL by its
name. -/
inductive DatabaseTold : Engine → Value → Bool → Prop where
  | truth (found : Bool) : DatabaseTold .pgsql (.bool found) found
  | name (s : String) : DatabaseTold .mysql (.text s) true

/-- How an answer tells whether a table is there: PostgreSQL by a truth value, and the others by a
number of tables. -/
inductive TableTold : Engine → Value → Bool → Prop where
  | truth (found : Bool) : TableTold .pgsql (.bool found) found
  | number {e : Engine} (hother : e ≠ .pgsql) (n : Int) : TableTold e (.int n) (decide (0 < n))

theorem exists_marker_eq (e : Engine) : ∃ m ms, e.marker.toList = m :: ms ∧ m ∉ ms := by
  cases e with
  | sqlite => exact ⟨'?', [], by decide, by decide⟩
  | _ => exact ⟨'%', ['s'], by decide, by decide⟩

theorem databaseExists_spec {e : Engine} {name : String} {q : Query}
    (hquery : e.databaseExists name = some q) :
    limitToOne q.sql = e.databaseText ∧ q.params = (e.databaseColumns name).map Prod.snd := by
  cases e with
  | sqlite => cases hquery
  | _ =>
    cases hquery
    exact ⟨by dsimp only; decide +kernel, rfl⟩

theorem tableExists_params (e : Engine) (table database : String) :
    (e.tableExists table database).params = (e.tableColumns table database).map Prod.snd := by
  cases e <;> rfl

theorem databaseColumns_ne_nil {e : Engine} (hserver : e ≠ .sqlite) (name : String) :
    e.databaseColumns name ≠ [] := by
  cases e with
  | sqlite => exact absurd rfl hserver
  | _ => exact List.cons_ne_nil _ _

theorem tableColumns_ne_nil (e : Engine) (table database : String) :
    e.tableColumns table database ≠ [] := by
  cases e <;> exact List.cons_ne_nil _ _

theorem not_standsIn_tableExists (e : Engine) (table database : String) :
    ¬ Limit.StandsIn (e.tableExists table database).sql.toList := by
  have hplain : (e.tableExists table database).sql.toList.all
      (fun c => !c.isDigit && decide (c.toNat < 0x660)) = true := by
    unfold tableExists
    -- Line by line: to decode the whole text at once takes the kernel far longer.
    cases e <;> dsimp only <;> simp only [String.toList_append, List.all_append] <;> decide +kernel
  refine Limit.not_standsIn_of_digitless fun c hc => ?_
  have hc := List.all_eq_true.1 hplain c hc
  rw [Bool.and_eq_true, Bool.not_eq_true', decide_eq_true_eq] at hc
  exact isDecimalDigit_of_not_isDigit hc.1 hc.2

/-- The question for a table ends in white space, which the limit takes the place of. -/
theorem limitToOne_tableExists (e : Engine) (table database : String) :
    limitToOne (e.tableExists table database).sql = e.tableText := by
  have hlimit := not_standsIn_tableExists e table database
  -- What stands before the white space ends in one of these, whatever is ahead of it.
  have hlast {lead last : String} (hends : last.toList.getLast? = some 's' ∨
      last.toList.getLast? = some '?' ∨ last.toList.getLast? = some ')') :
      ∀ c, (lead ++ last).toList.getLast? = some c → isBlank c = false ∧ c ≠ ';' := by
    rw [String.toList_append, List.getLast?_append]
    rcases hends with h | h | h <;> rw [h] <;> rintro c ⟨⟩ <;> decide
  unfold tableExists marker at hlimit ⊢
  unfold tableText
  cases e <;> dsimp only at hlimit ⊢ <;>
    exact limitToOne_append_blanks hlimit (List.all_eq_true.1 (by decide +kernel))
      (hlast (by decide +kernel))

theorem databaseText_compares {e : Engine} (hserver : e ≠ .sqlite) (name : String) :
    Compares e.marker e.databaseText ((e.databaseColumns name).map Prod.fst) := by
  cases e with
  | pgsql =>
    have htext : databaseText .pgsql = "SELECT EXISTS (SELECT true FROM pg_database WHERE" ++ " " ++
        "datname" ++ " = " ++ "%s" ++ ") LIMIT 1" := by
      decide +kernel
    rw [htext]
    exact .column (free_of_all (by decide +kernel)) (.nothing (free_of_all (by decide +kernel)))
  | mysql =>
    have htext : databaseText .mysql =
        "SELECT SCHEMA_NAME FROM information_schema.SCHEMATA WHERE" ++ " " ++ "SCHEMA_NAME" ++
          " = " ++ "%s" ++ " LIMIT 1" := by
      decide +kernel
    rw [htext]
    exact .column (free_of_all (by decide +kernel)) (.nothing (free_of_all (by decide +kernel)))
  | sqlite => exact absurd rfl hserver

theorem tableText_compares (e : Engine) (table database : String) :
    Compares e.marker e.tableText ((e.tableColumns table database).map Prod.fst) := by
  unfold tableText tableColumns marker
  cases e <;> dsimp only
  case pgsql =>
    have htable : "\n                    WHERE table_name = " =
        "\n                    WHERE" ++ " " ++ "table_name" ++ " = " := by decide +kernel
    have hdatabase : "\n                      AND table_catalog = " =
        "\n                      AND" ++ " " ++ "table_catalog" ++ " = " := by decide +kernel
    have hcompares : Compares "%s" (("\n                SELECT EXISTS (" ++
        ("\n                    SELECT true" ++
        ("\n                    FROM information_schema.tables" ++
        "\n                    WHERE"))) ++ " " ++ "table_name" ++ " = " ++ "%s" ++
        ("\n                      AND" ++ " " ++ "table_catalog" ++ " = " ++ "%s" ++
          ("\n                )" ++ " LIMIT 1"))) ["table_name", "table_catalog"] := by
      refine .column (free_of_all ?_) (.column (free_of_all ?_) (.nothing (free_of_all ?_)))
      all_goals
        simp only [String.toList_append, List.all_append]
        decide +kernel
    rw [htable, hdatabase]
    simpa only [String.append_assoc, List.map_cons, List.map_nil] using hcompares
  case mysql =>
    have hdatabase : "\n                WHERE TABLE_SCHEMA = " =
        "\n                WHERE" ++ " " ++ "TABLE_SCHEMA" ++ " = " := by decide +kernel
    have htable : "\n                  AND TABLE_NAME = " =
        "\n                  AND" ++ " " ++ "TABLE_NAME" ++ " = " := by decide +kernel
    have hcompares : Compares "%s" (("\n                SELECT COUNT(*)" ++
        ("\n                FROM information_schema.TABLES" ++
        "\n                WHERE")) ++ " " ++ "TABLE_SCHEMA" ++ " = " ++ "%s" ++
        ("\n                  AND" ++ " " ++ "TABLE_NAME" ++ " = " ++ "%s" ++ " LIMIT 1"))
        ["TABLE_SCHEMA", "TABLE_NAME"] := by
      refine .column (free_of_all ?_) (.column (free_of_all ?_)
        (.nothing (free_of_all (by decide +kernel))))
      all_goals
        simp only [String.toList_append, List.all_append]
        decide +kernel
    rw [hdatabase, htable]
    simpa only [String.append_assoc, List.map_cons, List.map_nil] using hcompares
  case sqlite =>
    have htable : "\n              AND name = " = "\n              AND" ++ " " ++ "name" ++ " = " := by
      decide +kernel
    have hcompares : Compares "?" (("\n            SELECT COUNT(*)" ++
        ("\n            FROM sqlite_master" ++ ("\n            WHERE type = 'table'" ++
        "\n              AND"))) ++ " " ++ "name" ++ " = " ++ "?" ++ " LIMIT 1") ["name"] := by
      refine .column (free_of_all ?_) (.nothing (free_of_all (by decide +kernel)))
      simp only [String.toList_append, List.all_append]
      decide +kernel
    rw [htable]
    simpa only [String.append_assoc, List.map_cons, List.map_nil] using hcompares

end Engine

/-- A look for something in a database. It has one text executed if a cursor opens, with a bind marker
for every column that is compared, and what the columns are compared with is passed beside it in this
order. The answer is as told by the first item of the first row, and no where there is none. -/
structure Looks {σ : Type} (b : Backend σ) (h : Handle) (w : σ) (marker text : String)
    (columns : List (String × String)) (Told : Value → Bool → Prop) (x : Action σ Fault Bool) :
    Prop where
  compares : Compares marker text (columns.map Prod.fst)
  markers : markerCount marker text = columns.length
  executes : (b.openCursor h w).1 = .ok () →
    executions (x w).events = [⟨h, text, some (.tuple (columns.map fun column => .text column.2))⟩]
  missing : ∀ result : ResultSet,
    b.Answers h w text (some (.tuple (columns.map fun column => .text column.2))) result →
      result.first? = none → (x w).outcome = .ok false
  told : ∀ (result : ResultSet) v found,
    b.Answers h w text (some (.tuple (columns.map fun column => .text column.2))) result →
      result.first? = some v → Told v found → (x w).outcome = .ok found

namespace Connection

variable {σ : Type} {b : Backend σ} {c : Connection} {h : Handle} {w : σ}

theorem fetchScalar_executes (hdriver : c.driver = some h) (hopens : (b.openCursor h w).1 = .ok ())
    {sql text : String} {vars : QueryVars} (htext : c.statementFor sql vars = .ok text)
    (params default : Value) :
    (c.fetchScalar b sql params default vars).Executes b w
      [executionOf h (limitToOne text) params] := by
  refine prepare_bind_executes htext ?_
  exact (fetchResult_executes hdriver hopens _ params).bind fun _ => executesNothing_pure _

/-- A query without placeholders is a look for something, if all it is answered with is a decision. -/
theorem looks_of_fetchScalar (hdriver : c.driver = some h) {q : Query} {text : String}
    {columns : List (String × String)} {Told : Value → Bool → Prop} {default : Value}
    {decision : Value → Action σ Fault Bool} (hbrace : '{' ∉ q.sql.toList)
    (hlimit : limitToOne q.sql = text) (hparams : q.params = columns.map Prod.snd)
    (hcompares : Compares c.settings.engine.marker text (columns.map Prod.fst))
    (hcolumns : columns ≠ []) (hsilent : ∀ v, (decision v).ExecutesNothing b)
    (hdefault : ∀ w, (decision default).Yields w false w)
    (htold : ∀ v found, Told v found → ∀ w, (decision v).Yields w found w) :
    Looks b h w c.settings.engine.marker text columns Told
      (c.fetchScalar b q.sql q.arguments default [] >>= decision) := by
  have htext : c.statementFor q.sql [] = .ok q.sql := statementFor_of_braceless hbrace []
  have hsent : (if q.arguments.truthy then some q.arguments else none) =
      some (.tuple (columns.map fun column => .text column.2)) := by
    rw [Query.arguments, hparams, List.map_map]
    cases columns with
    | nil => exact absurd rfl hcolumns
    | cons column columns => rfl
  obtain ⟨m, ms, hmarker, honce⟩ := c.settings.engine.exists_marker_eq
  refine ⟨hcompares, ?_, ?_, ?_, ?_⟩
  · rw [hcompares.markerCount_eq hmarker honce, List.length_map]
  · intro hopens
    have hexecuted := ((fetchScalar_executes hdriver hopens htext q.arguments default).bind hsilent).2
    rwa [executionOf, hsent, hlimit] at hexecuted
  · intro result hanswers hmissing
    rw [← hsent, ← hlimit] at hanswers
    obtain ⟨w₁, hscalar⟩ := fetchScalar_yields hdriver htext hanswers default
    rw [hmissing] at hscalar
    exact (hscalar.bind (hdefault w₁)).outcome_eq
  · intro result v found hanswers hfirst hfound
    rw [← hsent, ← hlimit] at hanswers
    obtain ⟨w₁, hscalar⟩ := fetchScalar_yields hdriver htext hanswers default
    rw [hfirst] at hscalar
    exact (hscalar.bind (htold v found hfound w₁)).outcome_eq

theorem databaseExists_looks (hdriver : c.driver = some h) (hserver : c.settings.engine ≠ .sqlite)
    {name : String} (hname : isDatabaseName name = true) :
    Looks b h w c.settings.engine.marker c.settings.engine.databaseText
      (c.settings.engine.databaseColumns name) c.settings.engine.DatabaseTold
      (c.databaseExists b name) := by
  obtain ⟨q, hquery⟩ := Engine.exists_databaseExists hserver name
  obtain ⟨hlimit, hparams⟩ := Engine.databaseExists_spec hquery
  have hbrace : '{' ∉ q.sql.toList := Engine.databaseExists_braceless hquery
  have hcompares := Engine.databaseText_compares hserver name
  have hcolumns := Engine.databaseColumns_ne_nil hserver name
  simp only [databaseExists, hquery, hname, Bool.not_true, Bool.false_eq_true, if_false]
  split_ifs with hengine
  · refine looks_of_fetchScalar hdriver hbrace hlimit hparams hcompares hcolumns
      (fun v => executesNothing_pure _) (fun w => yields_pure) ?_
    rintro v found htold w
    rw [hengine] at htold
    cases htold
    exact yields_pure
  · refine looks_of_fetchScalar hdriver hbrace hlimit hparams hcompares hcolumns
      (fun v => executesNothing_pure _) (fun w => yields_pure) ?_
    rintro v found htold w
    generalize c.settings.engine = e at htold hengine
    cases htold with
    | truth => exact absurd rfl hengine
    | name => exact yields_pure

theorem tableExists_looks (hdriver : c.driver = some h) {table : String}
    (hname : isTableName table = true) (database : Option String) :
    Looks b h w c.settings.engine.marker c.settings.engine.tableText
      (c.settings.engine.tableColumns table
        ((database.filter (· != "")).getD c.settings.dbname)) c.settings.engine.TableTold
      (c.tableExists b table database) := by
  simp only [tableExists, hname, Bool.not_true, Bool.false_eq_true, if_false]
  split_ifs with hengine
  · refine looks_of_fetchScalar hdriver (Engine.tableExists_braceless _ _ _)
      (Engine.limitToOne_tableExists _ _ _) (Engine.tableExists_params _ _ _)
      (Engine.tableText_compares _ _ _) (Engine.tableColumns_ne_nil _ _ _)
      (fun v => executesNothing_pure _) (fun w => yields_pure) ?_
    rintro v found htold w
    rw [hengine] at htold
    cases htold with
    | truth => exact yields_pure
    | number hother => exact absurd rfl hother
  · refine looks_of_fetchScalar hdriver (Engine.tableExists_braceless _ _ _)
      (Engine.limitToOne_tableExists _ _ _) (Engine.tableExists_params _ _ _)
      (Engine.tableText_compares _ _ _) (Engine.tableColumns_ne_nil _ _ _)
      (fun v w => (executesNothing_ofExcept _ w).bind fun n => executesNothing_pure _)
      (fun w => (yields_ofExcept rfl).bind yields_pure) ?_
    rintro v found htold w
    generalize c.settings.engine = e at htold hengine
    cases htold with
    | truth => exact absurd rfl hengine
    | number _ n =>
      have hnumber : (Value.int n).orElse (.int 0) = .int n := by
        by_cases hzero : n = 0 <;> simp [Value.orElse, Value.truthy, hzero]
      rw [hnumber]
      exact (yields_ofExcept rfl).bind yields_pure

/-- To look for a database or for a table never puts a name into the text of a statement. A file has no
databases, and what is no name is not there: neither is asked for. For the rest a text is executed that
the kind of database settles alone, and the names are bound to its markers one after the other; where
the database of a table is not named, it is that of the connection. -/
theorem existence_checks_bind_names (b : Backend σ) (hdriver : c.driver = some h) (w : σ) :
    let e := c.settings.engine
    (∀ name, (e = .sqlite ∨ ¬ IsName [] name → c.databaseExists b name w = ⟨.ok false, [], w⟩) ∧
      (e ≠ .sqlite → IsName [] name → Looks b h w e.marker e.databaseText (e.databaseColumns name)
        e.DatabaseTold (c.databaseExists b name))) ∧
    ∀ table database,
      (¬ IsName ['.', '-'] table → c.tableExists b table database w = ⟨.ok false, [], w⟩) ∧
      (IsName ['.', '-'] table → Looks b h w e.marker e.tableText
        (e.tableColumns table ((database.filter (· != "")).getD c.settings.dbname)) e.TableTold
        (c.tableExists b table database)) := by
  intro e
  refine ⟨fun name => ⟨?_, ?_⟩, fun table database => ⟨?_, ?_⟩⟩
  · rintro (hfile | hname)
    · have hnone : c.settings.engine.databaseExists name = none := by
        rw [show c.settings.engine = .sqlite from hfile]
        rfl
      rw [databaseExists, hnone]
      rfl
    · rw [← isDatabaseName_iff, Bool.not_eq_true] at hname
      rw [databaseExists]
      cases c.settings.engine.databaseExists name with
      | none => rfl
      | some q =>
        simp only [hname, Bool.not_false, if_true]
        rfl
  · intro hserver hname
    exact databaseExists_looks hdriver hserver (isDatabaseName_iff.2 hname)
  · intro hname
    rw [← isTableName_iff, Bool.not_eq_true] at hname
    simp only [tableExists, hname, Bool.not_false, if_true]
    rfl
  · intro hname
    exact tableExists_looks hdriver (isTableName_iff.2 hname) database

theorem existence_checks_bind_names_on_mysql :
    let b := { Backend.refusing [] with
      execute := fun _ _ _ n => (.ok ⟨none, .int 1⟩, n)
      fetchAll := fun _ n => (.ok [[.int 1]], n) }
    let c : Connection := ⟨{ engine := .mysql, dbname := "shop" }, some ⟨0⟩⟩
    c.driver = some ⟨0⟩ ∧ c.databaseExists b "shop' OR '1" 0 = ⟨.ok false, [], 0⟩ ∧
      executions (c.tableExists b "sales.orders" (some "") 0).events = [⟨⟨0⟩, Engine.mysql.tableText,
        some (.tuple [.text "shop", .text "sales.orders"])⟩] ∧
      (c.tableExists b "sales.orders" (some "") 0).outcome = .ok true := by
  intro b c
  have hdriver : c.driver = some ⟨0⟩ := rfl
  have hquoted : ¬ IsName [] "shop' OR '1" := by
    rw [← isDatabaseName_iff]
    decide +kernel
  have hname : IsName ['.', '-'] "sales.orders" := isTableName_iff.1 (by decide +kernel)
  have hanswers (sql : String) (sent : Option Value) : b.Answers ⟨0⟩ 0 sql sent ⟨[], [[.int 1]]⟩ :=
    @Backend.Answers.intro _ b ⟨0⟩ 0 sql sent 0 0 0 0 ⟨none, .int 1⟩ [[.int 1]] rfl rfl rfl rfl
  obtain ⟨hdatabase, htable⟩ := existence_checks_bind_names b hdriver 0
  have hlooks := (htable "sales.orders" (some "")).2 hname
  refine ⟨hdriver, (hdatabase _).1 (.inr hquoted), hlooks.executes rfl, ?_⟩
  exact hlooks.told _ (.int 1) true (hanswers _ _) rfl (.number (by decide) 1)

end Connection

end SqlBridge
