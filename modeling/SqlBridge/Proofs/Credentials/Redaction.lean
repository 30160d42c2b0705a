import Mathlib
import SqlBridge.Connection

namespace SqlBridge

/-! ## Credentials reduced to whether they are there -/

/-- A text that tells of another one only whether it is empty. -/
def masked (s : String) : String :=
  if s = "" then "" else "[defined]"

theorem masked_eq_empty_iff {s : String} : masked s = "" ↔ s = "" := by
  rw [masked]
  split_ifs with hs <;> simp [hs]

@[simp] theorem masked_masked (s : String) : masked (masked s) = masked s := by
  by_cases hs : s = ""
  · simp [masked, hs]
  · simp [masked, hs]

theorem masked_eq_masked_iff {s t : String} : masked s = masked t ↔ (s = "" ↔ t = "") := by
  rw [masked, masked]
  split_ifs with hs ht ht <;> simp [hs, ht]

namespace SettingsOf

variable {ε δ : Type}

def redacted (s : SettingsOf ε) : SettingsOf ε :=
  { s with username := masked s.username, password := masked s.password }

/-- The settings differ in user name and password at most, and not in whether these are empty. -/
structure Alike (s₁ s₂ : SettingsOf ε) : Prop where
  username_iff : s₁.username = "" ↔ s₂.username = ""
  password_iff : s₁.password = "" ↔ s₂.password = ""
  rest_eq : { s₂ with username := s₁.username, password := s₁.password } = s₁

theorem alike_iff_redacted_eq {s₁ s₂ : SettingsOf ε} :
    s₁.Alike s₂ ↔ s₁.redacted = s₂.redacted := by
  obtain ⟨engine₁, host₁, dbname₁, username₁, password₁, charset₁, port₁, alwaysParse₁⟩ := s₁
  obtain ⟨engine₂, host₂, dbname₂, username₂, password₂, charset₂, port₂, alwaysParse₂⟩ := s₂
  constructor
  · rintro ⟨husername, hpassword, hrest⟩
    cases hrest
    simp only [redacted, mk.injEq, true_and, and_true]
    exact ⟨masked_eq_masked_iff.2 husername, masked_eq_masked_iff.2 hpassword⟩
  · intro hredacted
    simp only [redacted, mk.injEq, masked_eq_masked_iff] at hredacted
    obtain ⟨rfl, rfl, rfl, husername, hpassword, rfl, rfl, rfl⟩ := hredacted
    exact ⟨husername, hpassword, rfl⟩

@[simp] theorem redacted_withEngine (s : SettingsOf ε) (e : δ) :
    s.redacted.withEngine e = (s.withEngine e).redacted := rfl

@[simp] theorem redacted_infoAs (s : SettingsOf ε) (name : String) :
    s.redacted.infoAs name = s.infoAs name := by
  have hpresent (t : String) : (masked t != "") = (t != "") := by
    rw [Bool.eq_iff_iff]
    simp [masked_eq_empty_iff]
  simp [infoAs, redacted, hpresent]

@[simp] theorem redacted_dsnFor (s : SettingsOf ε) (e : Engine) : s.redacted.dsnFor e = s.dsnFor e := by
  cases e <;> rfl

end SettingsOf

namespace Settings

variable (s : Settings)

@[simp] theorem redacted_engine : s.redacted.engine = s.engine := rfl

@[simp] theorem redacted_host : s.redacted.host = s.host := rfl

@[simp] theorem redacted_charset : s.redacted.charset = s.charset := rfl

@[simp] theorem redacted_info : Settings.info s.redacted = Settings.info s :=
  s.redacted_infoAs _

@[simp] theorem redacted_dsn : Settings.dsn s.redacted = Settings.dsn s :=
  s.redacted_dsnFor _

end Settings

/-- A keyword of a connect call without the user name or the password that it may give. -/
def redactedKeyword (entry : String × Value) : String × Value :=
  match entry with
  | (key, .text s) => (key, .text (if key = "user" ∨ key = "password" then masked s else s))
  | _ => entry

def ConnectArguments.redacted (arguments : ConnectArguments) : ConnectArguments :=
  { arguments with keywords := arguments.keywords.map redactedKeyword }

def Event.redacted : Event → Event
  | .connect package arguments => .connect package arguments.redacted
  | event => event

/-- The packages answer a connect call whatever user name and password it gives, if it gives them. -/
def Backend.Blind {σ : Type} (b : Backend σ) : Prop :=
  ∀ package arguments₁ arguments₂ w, arguments₁.redacted = arguments₂.redacted →
    b.connect package arguments₁ w = b.connect package arguments₂ w

@[simp] theorem redactedKeyword_redactedKeyword (entry : String × Value) :
    redactedKeyword (redactedKeyword entry) = redactedKeyword entry := by
  obtain ⟨key, v⟩ := entry
  cases v with
  | text s =>
    simp only [redactedKeyword]
    split_ifs <;> simp
  | _ => rfl

theorem ConnectArguments.redacted_redacted (arguments : ConnectArguments) :
    arguments.redacted.redacted = arguments.redacted := by
  simp [redacted, Function.comp_def]

theorem Backend.Blind.connect_redacted {σ : Type} {b : Backend σ} (hblind : b.Blind)
    (package : Package) (arguments : ConnectArguments) :
    b.connect package arguments.redacted = b.connect package arguments := by
  funext w
  exact hblind package _ _ w arguments.redacted_redacted

/-! ## Actions -/

namespace Action

variable {σ ε α β : Type} {b : Backend σ}

/-- The same action, seen from outside without the credentials that it gives to packages. -/
def redacted (x : Action σ ε α) : Action σ ε α := fun w =>
  let run := x w
  ⟨run.outcome, run.events.map Event.redacted, run.world⟩

@[simp] theorem redacted_pure (a : α) : (pure a : Action σ ε α).redacted = pure a := rfl

@[simp] theorem redacted_fail (e : ε) : (fail e : Action σ ε α).redacted = fail e := rfl

@[simp] theorem redacted_ofExcept (r : Except ε α) :
    (ofExcept r : Action σ ε α).redacted = ofExcept r := rfl

@[simp] theorem redacted_observe (f : σ → Except ε α) : (observe f).redacted = observe f := rfl

@[simp] theorem redacted_log (level : Level) (logger : Logger) (message : String) :
    (log level logger message : Action σ ε Unit).redacted = log level logger message := rfl

@[simp] theorem redacted_lift (x : Action σ Problem α) :
    (liftM x : Action σ Fault α).redacted = liftM x.redacted := rfl

@[simp] theorem redacted_bind (x : Action σ ε α) (f : α → Action σ ε β) :
    (x >>= f).redacted = x.redacted >>= fun a => (f a).redacted := by
  funext w
  simp only [redacted, bind_apply, andThen]
  rcases x w with ⟨_ | a, events, w'⟩
  · rfl
  · simp

@[simp] theorem redacted_map (f : α → β) (x : Action σ ε α) :
    (f <$> x).redacted = f <$> x.redacted := by
  rw [map_eq_pure_bind, map_eq_pure_bind, redacted_bind]
  rfl

@[simp] theorem redacted_ite (p : Prop) [Decidable p] (x y : Action σ ε α) :
    (if p then x else y).redacted = if p then x.redacted else y.redacted :=
  apply_ite redacted p x y

@[simp] theorem redacted_orElseWhen (expected : Problem → Bool) (x next : Action σ Problem α) :
    (orElseWhen expected x next).redacted = orElseWhen expected x.redacted next.redacted := by
  funext w
  simp only [redacted, orElseWhen]
  rcases x w with ⟨p | a, events, w'⟩
  · cases hp : expected p <;> simp [hp]
  · rfl

@[simp] theorem redacted_rescue (x : Action σ Problem α) (handler : Problem → Action σ Fault α) :
    (x.rescue handler).redacted = x.redacted.rescue fun p => (handler p).redacted := by
  funext w
  simp only [redacted, rescue]
  rcases x w with ⟨p | a, events, w'⟩
  · cases hp : p.isFatal <;> simp [hp]
  · rfl

@[simp] theorem redacted_withOpenCursor (h : Handle) (raise : Problem → ε) (x : Action σ ε α) :
    (b.withOpenCursor h raise x).redacted = b.withOpenCursor h raise x.redacted := by
  funext w
  have hworld : (x.redacted w).world = (x w).world := rfl
  rcases hclosing : b.closeCursor h (x w).world with ⟨failure | ⟨⟩, w'⟩
  · rw [b.withOpenCursor_of_failure (x := x.redacted) (hworld ▸ hclosing)]
    simp [redacted, b.withOpenCursor_of_failure hclosing, Event.redacted]
  · rw [b.withOpenCursor_of_closed (x := x.redacted) (hworld ▸ hclosing)]
    simp [redacted, b.withOpenCursor_of_closed hclosing, Event.redacted]

@[simp] theorem redacted_autocommitting (h : Handle) :
    (b.autocommitting h).redacted = b.autocommitting h := rfl

@[simp] theorem redacted_cursor (h : Handle) : (b.cursor h).redacted = b.cursor h := rfl

@[simp] theorem redacted_executing (h : Handle) (sql : String) (params : Value) :
    (b.executing h sql params).redacted = b.executing h sql params := rfl

@[simp] theorem redacted_fetching (h : Handle) : (b.fetching h).redacted = b.fetching h := rfl

@[simp] theorem redacted_closing (h : Handle) : (b.closing h).redacted = b.closing h := rfl

theorem redacted_connecting (hblind : b.Blind) (package : Package) (arguments : ConnectArguments) :
    (b.connecting package arguments).redacted = b.connecting package arguments.redacted := by
  rw [Backend.connecting, Backend.connecting, hblind.connect_redacted]
  rfl

end Action

/-! ## Opening a connection -/

theorem redactedKeyword_of_ne {key : String} (huser : key ≠ "user") (hpassword : key ≠ "password")
    (v : Value) : redactedKeyword (key, v) = (key, v) := by
  cases v <;> simp [redactedKeyword, huser, hpassword]

theorem redactedKeyword_of_secret {key : String} (hkey : key = "user" ∨ key = "password")
    (s : String) : redactedKeyword (key, .text s) = (key, .text (masked s)) := by
  simp [redactedKeyword, hkey]

namespace Adapter

variable {σ : Type} {b : Backend σ} (s : Settings)

theorem keywordUnlessEmpty_masked {key : String} (hkey : key = "user" ∨ key = "password")
    (text : String) :
    keywordUnlessEmpty key (masked text) = (keywordUnlessEmpty key text).map redactedKeyword := by
  simp only [keywordUnlessEmpty, masked_eq_empty_iff]
  split_ifs
  · rfl
  · simp [redactedKeyword_of_secret hkey]

theorem keywordUnlessEmpty_redacted {key : String} (huser : key ≠ "user")
    (hpassword : key ≠ "password") (text : String) :
    (keywordUnlessEmpty key text).map redactedKeyword = keywordUnlessEmpty key text := by
  rw [keywordUnlessEmpty]
  split_ifs
  · rfl
  · simp [redactedKeyword_of_ne huser hpassword]

theorem postgresKeywords_redacted :
    postgresKeywords s.redacted = (postgresKeywords s).map redactedKeyword := by
  simp [postgresKeywords, SettingsOf.redacted, Settings.effectivePort, keywordUnlessEmpty_masked,
    keywordUnlessEmpty_redacted, redactedKeyword_of_ne]

theorem mysqlKeywords_redacted (command : Option String) :
    mysqlKeywords s.redacted command = (mysqlKeywords s command).map redactedKeyword := by
  cases command <;>
    simp [mysqlKeywords, SettingsOf.redacted, Settings.effectivePort, keywordUnlessEmpty_redacted,
      redactedKeyword_of_ne, redactedKeyword_of_secret]

theorem connectPsycopg_redacted (hblind : b.Blind) :
    (connectPsycopg b s).redacted = connectPsycopg b s.redacted := by
  have harguments : ConnectArguments.redacted ⟨[], ("autocommit", .bool true) :: postgresKeywords s⟩ =
      ⟨[], ("autocommit", .bool true) :: postgresKeywords s.redacted⟩ := by
    rw [postgresKeywords_redacted]
    rfl
  rw [connectPsycopg, connectPsycopg, Action.redacted_bind]
  congr 1
  funext found
  cases found with
  | false => rfl
  | true => simp [Action.redacted_connecting hblind, harguments]

theorem connectPsycopg2_redacted (hblind : b.Blind) :
    (connectPsycopg2 b s).redacted = connectPsycopg2 b s.redacted := by
  have harguments : ConnectArguments.redacted ⟨[], postgresKeywords s⟩ =
      ⟨[], postgresKeywords s.redacted⟩ := by
    rw [postgresKeywords_redacted]
    rfl
  rw [connectPsycopg2, connectPsycopg2, Action.redacted_bind]
  congr 1
  funext found
  cases found with
  | false => rfl
  | true => simp [Action.redacted_connecting hblind, harguments]

theorem connectMysql_redacted (hblind : b.Blind) :
    (connectMysql b s).redacted = connectMysql b s.redacted := by
  have harguments (command : Option String) :
      ConnectArguments.redacted ⟨[], mysqlKeywords s command⟩ =
        ⟨[], mysqlKeywords s.redacted command⟩ := by
    rw [mysqlKeywords_redacted]
    rfl
  have hcommand : initCommand s.redacted = initCommand s := rfl
  rw [connectMysql, connectMysql, Action.redacted_bind, hcommand]
  congr 1
  funext command
  rw [Action.redacted_bind]
  congr 1
  funext found
  cases found with
  | false => rfl
  | true => simp [Action.redacted_connecting hblind, harguments]

theorem connectSqlite_redacted (hblind : b.Blind) :
    (connectSqlite b s).redacted = connectSqlite b s.redacted := by
  have harguments : ConnectArguments.redacted
      ⟨[.text (filePath s)], [("isolation_level", .null)]⟩ =
        ⟨[.text (filePath s.redacted)], [("isolation_level", .null)]⟩ := rfl
  rw [connectSqlite, connectSqlite, Action.redacted_bind, Action.redacted_log]
  simp only [Action.redacted_connecting hblind, harguments]
  rfl

/-- Connecting tells the package the credentials, and nothing else tells of them. -/
theorem connect_redacted (hblind : b.Blind) : (connect b s).redacted = connect b s.redacted := by
  rw [connect, connect, Settings.redacted_engine]
  cases s.engine with
  | pgsql =>
    rw [connectPostgres, connectPostgres, Action.redacted_orElseWhen, connectPsycopg_redacted s hblind,
      connectPsycopg2_redacted s hblind]
  | mysql => exact connectMysql_redacted s hblind
  | sqlite => exact connectSqlite_redacted s hblind

theorem applyCharset_redacted (e : Engine) (h : Handle) (charset : Value) :
    (applyCharset b e h charset).redacted = applyCharset b e h charset := by
  rw [applyCharset]
  split_ifs
  · rfl
  · rw [Action.redacted_bind]
    congr 1
    funext command
    cases command with
    | none => rfl
    | some statement => simp

end Adapter

namespace Connection

variable {σ : Type} {b : Backend σ}

theorem openDriver_redacted (hblind : b.Blind) (s : Settings) :
    (openDriver b s).redacted = openDriver b s.redacted := by
  simp [openDriver, Adapter.connect_redacted s hblind, Adapter.applyCharset_redacted]

def redacted (c : Connection) : Connection :=
  { c with settings := c.settings.redacted }

theorem resolve_redacted (d : Draft) :
    resolve d.redacted = (resolve d).map SettingsOf.redacted := by
  have hengine : d.redacted.engine = d.engine := rfl
  rw [resolve, resolve, hengine]
  cases Engine.parse d.engine with
  | ok e => rfl
  | error p => cases p <;> simp [Except.map]

/-- A connection that is made from settings without credentials is the connection without them. -/
theorem create_redacted (hblind : b.Blind) (d : Draft) (driver : Option Handle) :
    (redacted <$> create b d driver).redacted = create b d.redacted driver := by
  rw [create, create, resolve_redacted]
  cases resolve d with
  | error fault => rfl
  | ok s =>
    cases driver with
    | some h => rfl
    | none =>
      change (redacted <$> (openDriver b s >>= fun h => pure ⟨s, some h⟩)).redacted =
        (openDriver b s.redacted >>= fun h => pure ⟨s.redacted, some h⟩)
      rw [← openDriver_redacted hblind, map_bind, Action.redacted_bind]
      rfl

end Connection

end SqlBridge
