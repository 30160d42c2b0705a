import SqlBridge.Connection
import SqlBridge.Proofs.Charset.Statement
import SqlBridge.Proofs.Driver.Interaction

namespace SqlBridge

open SqlBridge.Action

/-- The statement that a package is asked to run as soon as it is connected. -/
def ConnectArguments.initCommand? (arguments : ConnectArguments) : Option String :=
  (arguments.keywords.lookup "init_command").bind Value.text?

theorem Action.mapError_id {σ ε α : Type} (x : Action σ ε α) : x.mapError id = x := by
  funext w
  rw [mapError]
  rcases x w with ⟨_ | a, events, w'⟩ <;> rfl

namespace Adapter

variable {σ : Type} {b : Backend σ}

/-- Attempts to connect that all failed. -/
def FailedAttempts (parts : List Interaction) : Prop :=
  ∀ part ∈ parts, ∃ package arguments, part = .connect package arguments .raised

/-- What connecting comes to: attempts that failed, and after them the one that succeeded, if there
is one. Only for MySQL is a statement run on connecting. For PostgreSQL the driver connection may be
there and not switch to autocommit, which is a failure to connect. -/
inductive Connecting (s : Settings) : Except Problem Handle → List Interaction → Prop where
  | connected {h : Handle} {package : Package} {arguments : ConnectArguments}
      (before after : List Interaction)
      (hbefore : FailedAttempts before)
      (hafter : after = [] ∨ after = [.autocommit h .returned])
      (hmysql : s.engine = .mysql → initCommand s = .ok arguments.initCommand?)
      (hother : s.engine ≠ .mysql → arguments.initCommand? = none) :
      Connecting s (.ok h) (before ++ .connect package arguments (.connected h) :: after)
  | failed {parts : List Interaction} (p : Problem) (hparts : FailedAttempts parts) :
      Connecting s (.error p) parts
  | unswitched {h : Handle} {package : Package} {arguments : ConnectArguments}
      (before : List Interaction)
      (hbefore : FailedAttempts before)
      (hengine : s.engine = .pgsql) (hcommand : arguments.initCommand? = none) (failure : Failure) :
      Connecting s (.error (.raised failure))
        (before ++ [.connect package arguments (.connected h), .autocommit h .raised])

/-- What setting the charset of a new session comes to. -/
inductive CharsetSetting (e : Engine) (h : Handle) (charset : Value) :
    Except Problem Unit → List Interaction → Prop where
  | unneeded (hnone : e = .mysql ∨ e = .sqlite ∨ charset.truthy = false) :
      CharsetSetting e h charset (.ok ()) []
  | invalid {p : Problem} (hserver : e ≠ .mysql) (hcharset : e.setCharset charset = .error p) :
      CharsetSetting e h charset (.error p) []
  | refused (hserver : e ≠ .mysql) (failure : Failure) :
      CharsetSetting e h charset (.error (.raised failure)) [.refusal h]
  | failed (hserver : e ≠ .mysql) (statement : String) (failure : Failure) :
      CharsetSetting e h charset (.error (.raised failure))
        [.cursor h (.executed statement none .raised) .returned]
  | unclosed (hserver : e ≠ .mysql) (statement : String) (reply : Reply) (failure : Failure) :
      CharsetSetting e h charset (.error (.raised failure))
        [.cursor h (.executed statement none reply) .raised]
  | set {statement : String} (hserver : e ≠ .mysql)
      (hcharset : e.setCharset charset = .ok (some statement)) :
      CharsetSetting e h charset (.ok ()) [.cursor h (.executed statement none .returned) .returned]

theorem failedAttempts_nil : FailedAttempts [] := by
  simp [FailedAttempts]

theorem failedAttempts_singleton (package : Package) (arguments : ConnectArguments) :
    FailedAttempts [.connect package arguments .raised] := by
  simp [FailedAttempts]

theorem FailedAttempts.append {parts later : List Interaction} (hparts : FailedAttempts parts)
    (hlater : FailedAttempts later) : FailedAttempts (parts ++ later) := by
  intro part hmem
  rcases List.mem_append.1 hmem with hmem | hmem
  · exact hparts part hmem
  · exact hlater part hmem

theorem fst_eq_of_mem_keywordUnlessEmpty {key text : String} {entry : String × Value}
    (hmem : entry ∈ keywordUnlessEmpty key text) : entry.1 = key := by
  rw [keywordUnlessEmpty] at hmem
  split_ifs at hmem
  · cases hmem
  · rw [List.mem_singleton.1 hmem]

theorem fst_mem_of_mem_postgresKeywords {s : Settings} {entry : String × Value}
    (hmem : entry ∈ postgresKeywords s) :
    entry.1 ∈ ["host", "port", "dbname", "user", "password"] := by
  simp only [postgresKeywords, List.mem_append, List.mem_cons, List.not_mem_nil, or_false] at hmem
  rcases hmem with (((rfl | rfl) | hmem) | hmem) | hmem
  · simp
  · simp
  · simp [fst_eq_of_mem_keywordUnlessEmpty hmem]
  · simp [fst_eq_of_mem_keywordUnlessEmpty hmem]
  · simp [fst_eq_of_mem_keywordUnlessEmpty hmem]

theorem initCommand_postgresKeywords (s : Settings) :
    (ConnectArguments.mk [] (postgresKeywords s)).initCommand? = none := by
  have hlookup : (postgresKeywords s).lookup "init_command" = none := by
    rw [List.lookup_eq_none_iff]
    intro entry hmem
    by_contra hkey
    have hkeys := fst_mem_of_mem_postgresKeywords hmem
    rw [← (of_not_not (by simpa using hkey) : "init_command" = entry.1)] at hkeys
    simp at hkeys
  rw [ConnectArguments.initCommand?, hlookup, Option.bind_none]

theorem initCommand_autocommit (keywords : List (String × Value)) :
    (ConnectArguments.mk [] (("autocommit", .bool true) :: keywords)).initCommand? =
      (ConnectArguments.mk [] keywords).initCommand? := by
  rw [ConnectArguments.initCommand?, List.lookup_cons]
  rfl

theorem initCommand_mysqlKeywords (s : Settings) (command : Option String) :
    (ConnectArguments.mk [] (mysqlKeywords s command)).initCommand? = command := by
  by_cases hdbname : s.dbname = "" <;> cases command <;>
    simp [ConnectArguments.initCommand?, mysqlKeywords, keywordUnlessEmpty, hdbname, List.lookup,
      Value.text?]

/-- An attempt to connect by one package. -/
theorem connecting_interacts {s : Settings} {package : Package} {arguments : ConnectArguments}
    (hmysql : s.engine = .mysql → initCommand s = .ok arguments.initCommand?)
    (hother : s.engine ≠ .mysql → arguments.initCommand? = none) :
    (b.connecting package arguments).Interacts b fun r parts =>
      Connecting s r parts ∧ ∀ p, r = .error p → FailedAttempts parts := by
  have hfailed := failedAttempts_singleton package arguments
  exact interacts_connecting
    (fun h => ⟨.connected [] _ failedAttempts_nil (.inl rfl) hmysql hother, by rintro p ⟨⟩⟩)
    fun failure => ⟨.failed _ hfailed, fun _ _ => hfailed⟩

theorem available_bind {α : Type} {package : Package} {f : Bool → Action σ Problem α}
    {R : Except Problem α → List Interaction → Prop} (hf : ∀ found, (f found).Interacts b R) :
    (b.available package >>= f).Interacts b R := by
  refine Interacts.bind (interacts_observe (Q := fun r parts => (∃ found, r = .ok found) ∧ parts = [])
    fun w => ⟨⟨_, rfl⟩, rfl⟩) ?_ ?_
  · rintro e _ ⟨⟨found, hr⟩, -⟩
    cases hr
  · rintro found _ ⟨-, rfl⟩
    exact hf found

theorem connectPsycopg_interacts {s : Settings} (hengine : s.engine = .pgsql) :
    (connectPsycopg b s).Interacts b fun r parts =>
      Connecting s r parts ∧ ∀ p, r = .error p → FailedAttempts parts := by
  refine available_bind fun found => ?_
  cases found with
  | false => exact interacts_fail ⟨.failed _ failedAttempts_nil, fun _ _ => failedAttempts_nil⟩
  | true =>
    refine Interacts.log_bind (connecting_interacts ?_ ?_)
    · intro hmysql
      rw [hengine] at hmysql
      cases hmysql
    · intro _
      rw [initCommand_autocommit, initCommand_postgresKeywords]

theorem connectPsycopg2_interacts {s : Settings} (hengine : s.engine = .pgsql) :
    (connectPsycopg2 b s).Interacts b (Connecting s) := by
  have hmysql {P : Prop} (hmysql : s.engine = .mysql) : P := by
    rw [hengine] at hmysql
    cases hmysql
  refine available_bind fun found => ?_
  cases found with
  | false => exact interacts_fail (.failed _ failedAttempts_nil)
  | true =>
    refine Interacts.log_bind (Interacts.bind (interacts_connecting
      (Q := fun r parts => (∃ h, r = .ok h ∧
          parts = [.connect .psycopg2 ⟨[], postgresKeywords s⟩ (.connected h)]) ∨
        ∃ p, r = .error p ∧ parts = [.connect .psycopg2 ⟨[], postgresKeywords s⟩ .raised])
      (fun h => .inl ⟨h, rfl, rfl⟩) fun failure => .inr ⟨_, rfl, rfl⟩) ?_ ?_)
    · rintro e _ (⟨h, hr, -⟩ | ⟨p, hr, rfl⟩)
      · cases hr
      · exact .failed e (failedAttempts_singleton _ _)
    · rintro h _ (⟨h', hr, rfl⟩ | ⟨p, hr, -⟩)
      · cases hr
        refine Interacts.bind (interacts_autocommitting (Q := fun r parts =>
          (r = .ok () ∧ parts = [.autocommit h .returned]) ∨
            ∃ failure, r = .error (.raised failure) ∧ parts = [.autocommit h .raised])
          (.inl ⟨rfl, rfl⟩) fun failure => .inr ⟨failure, rfl, rfl⟩) ?_ ?_
        · rintro _ _ (⟨hr, -⟩ | ⟨failure, hr, rfl⟩)
          · cases hr
          · cases hr
            exact .unswitched [] failedAttempts_nil hengine (initCommand_postgresKeywords s) failure
        · rintro _ _ (⟨-, rfl⟩ | ⟨failure, hr, -⟩)
          · exact interacts_pure (.connected [] _ failedAttempts_nil (.inr rfl) hmysql
              fun _ => initCommand_postgresKeywords s)
          · cases hr
      · cases hr

theorem Connecting.after_failures {s : Settings} {r : Except Problem Handle}
    {parts later : List Interaction}
    (hparts : FailedAttempts parts) (hlater : Connecting s r later) : Connecting s r (parts ++ later) := by
  cases hlater with
  | connected before after hbefore hafter hmysql hother =>
    rw [← List.append_assoc]
    exact .connected _ after (hparts.append hbefore) hafter hmysql hother
  | failed p hfailed => exact .failed p (hparts.append hfailed)
  | unswitched before hbefore hengine hcommand failure =>
    rw [← List.append_assoc]
    exact .unswitched _ (hparts.append hbefore) hengine hcommand failure

theorem connect_interacts (s : Settings) : (connect b s).Interacts b (Connecting s) := by
  unfold connect
  cases hengine : s.engine with
  | pgsql =>
    refine Interacts.orElseWhen (connectPsycopg_interacts hengine) (fun _ _ hQ => hQ.1)
      (fun _ _ _ hQ => hQ.1) ?_
    rintro p parts - ⟨-, hfailed⟩
    exact (connectPsycopg2_interacts hengine).mono fun _ _ hlater =>
      hlater.after_failures (hfailed p rfl)
  | mysql =>
    refine Interacts.ofExcept_bind (fun p _ => .failed p failedAttempts_nil) ?_
    intro command hcommand
    refine available_bind fun found => ?_
    cases found with
    | false => exact interacts_fail (.failed _ failedAttempts_nil)
    | true =>
      refine Interacts.log_bind (Interacts.mono (connecting_interacts ?_ fun hother =>
        absurd hengine hother) fun _ _ hQ => hQ.1)
      intro _
      rw [hcommand, initCommand_mysqlKeywords]
  | sqlite =>
    refine Interacts.log_bind (Interacts.mono (connecting_interacts ?_ fun _ => rfl) fun _ _ hQ => hQ.1)
    intro hmysql
    rw [hengine] at hmysql
    cases hmysql

theorem applyCharset_interacts (e : Engine) (h : Handle) (charset : Value) :
    (applyCharset b e h charset).Interacts b (CharsetSetting e h charset) := by
  unfold applyCharset
  by_cases hnone : e = .mysql ∨ charset.truthy = false
  · rw [if_pos hnone]
    exact interacts_pure (.unneeded (hnone.imp_right .inr))
  rw [if_neg hnone]
  obtain ⟨hmysql, -⟩ := not_or.1 hnone
  refine Interacts.ofExcept_bind (fun p hp => .invalid hmysql hp) ?_
  intro command hcommand
  cases command with
  | none =>
    exact interacts_pure (.unneeded (.inr (.inl (Engine.eq_sqlite_of_setCharset hcommand))))
  | some statement =>
    have hset : (b.executing h statement .null >>= fun _ =>
        (pure () : Action σ Problem Unit)).Ends b fun r calls => ∃ work,
          driverCalls calls = work.calls h ∧ CharsetSetting e h charset r [.cursor h work .returned] ∧
            ∀ failure, CharsetSetting e h charset (.error (.raised failure))
              [.cursor h work .raised] := by
      refine Ends.bind (ends_executing (Q := fun r calls =>
        ∃ reply, calls = [⟨.execute h statement none, reply⟩] ∧
          ((reply = .returned ∧ ∃ answered, r = .ok answered) ∨
            (reply = .raised ∧ ∃ failure, r = .error (.raised failure))))
        (fun answered => ⟨_, rfl, .inl ⟨rfl, answered, rfl⟩⟩)
        (fun failure => ⟨_, rfl, .inr ⟨rfl, failure, rfl⟩⟩)) ?_ ?_
      · rintro p _ ⟨reply, rfl, ⟨-, answered, hr⟩ | ⟨rfl, failure, hr⟩⟩
        · cases hr
        · cases hr
          exact ⟨.executed statement none .raised, rfl, .failed hmysql statement failure,
            .unclosed hmysql statement .raised⟩
      · rintro answered _ ⟨reply, rfl, ⟨rfl, -⟩ | ⟨-, failure, hr⟩⟩
        · exact ends_pure ⟨.executed statement none .returned, rfl, .set hmysql hcommand,
            .unclosed hmysql statement .returned⟩
        · cases hr
    exact interacts_cursor id (mapError_id _).symm (fun failure => .refused hmysql failure) hset

end Adapter

namespace Connection

variable {σ : Type} {b : Backend σ}

/-- Everything that opening a driver connection can come to. One whose charset cannot be set is closed
again, unless the failure passes every handler. -/
inductive Opening (s : Settings) : Except Fault Handle → List Interaction → Prop where
  | opened {h : Handle} {parts later : List Interaction}
      (hconnect : Adapter.Connecting s (.ok h) parts)
      (hcharset : Adapter.CharsetSetting s.engine h (.ofText? s.charset) (.ok ()) later) :
      Opening s (.ok h) (parts ++ later)
  | unconnected {p : Problem} {parts : List Interaction}
      (hconnect : Adapter.Connecting s (.error p) parts) :
      Opening s (.error (if p.isFatal then .problem p
        else failed (Settings.info s) "Connection init fails!" (some p))) parts
  | interrupted {h : Handle} {p : Problem} {parts later : List Interaction}
      (hconnect : Adapter.Connecting s (.ok h) parts)
      (hcharset : Adapter.CharsetSetting s.engine h (.ofText? s.charset) (.error p) later)
      (hfatal : p.isFatal = true) : Opening s (.error (.problem p)) (parts ++ later)
  | abandoned {h : Handle} {p : Problem} {parts later : List Interaction}
      (hconnect : Adapter.Connecting s (.ok h) parts)
      (hcharset : Adapter.CharsetSetting s.engine h (.ofText? s.charset) (.error p) later)
      (hordinary : p.isFatal = false) :
      Opening s (.error (failed (Settings.info s) "Setting the connection charset fails!" (some p)))
        (parts ++ later ++ [.close h .returned])
  | doubleFault {h : Handle} {p : Problem} {failure : Failure} {parts later : List Interaction}
      (hconnect : Adapter.Connecting s (.ok h) parts)
      (hcharset : Adapter.CharsetSetting s.engine h (.ofText? s.charset) (.error p) later)
      (hordinary : p.isFatal = false) :
      Opening s (.error (.problem (.raised failure))) (parts ++ later ++ [.close h .raised])

theorem openDriver_interacts (s : Settings) : (openDriver b s).Interacts b (Opening s) := by
  unfold openDriver
  have hclosing (h : Handle) : (liftM (b.closing h) : Action σ Fault Unit).Interacts b
      fun r parts => (r = .ok () ∧ parts = [.close h .returned]) ∨
        ∃ failure, r = .error (.problem (.raised failure)) ∧ parts = [.close h .raised] :=
    Interacts.lift (interacts_closing (.inl ⟨rfl, rfl⟩) fun failure => .inr ⟨failure, rfl, rfl⟩)
  have hconnect : ((Adapter.connect b s).rescue fun p =>
      Action.fail (failed (Settings.info s) "Connection init fails!" (some p))).Interacts b
        fun r parts => (∃ h, r = .ok h ∧ Adapter.Connecting s (.ok h) parts) ∨
          ∃ fault, r = .error fault ∧ Opening s (.error fault) parts := by
    refine Interacts.rescue (Adapter.connect_interacts s) ?_ ?_ ?_
    · intro h parts hconnect
      exact .inl ⟨h, rfl, hconnect⟩
    · intro p parts hfatal hconnect
      have hopening := Opening.unconnected hconnect
      rw [if_pos hfatal] at hopening
      exact .inr ⟨_, rfl, hopening⟩
    · intro p parts hordinary hconnect
      have hopening := Opening.unconnected hconnect
      rw [if_neg (by simp [hordinary])] at hopening
      refine interacts_fail (.inr ⟨_, rfl, ?_⟩)
      rwa [List.append_nil]
  refine Interacts.bind hconnect ?_ ?_
  · rintro fault parts (⟨h, hr, -⟩ | ⟨fault', hr, hopening⟩)
    · cases hr
    · cases hr
      exact hopening
  · rintro h parts (⟨h', hr, hconnect⟩ | ⟨fault', hr, -⟩)
    · cases hr
      have hcharset : ((Adapter.applyCharset b s.engine h (.ofText? s.charset)).rescue fun p => do
          b.closing h
          Action.fail (failed (Settings.info s) "Setting the connection charset fails!"
            (some p))).Interacts b fun r later =>
          (r = .ok () ∧ Adapter.CharsetSetting s.engine h (.ofText? s.charset) (.ok ()) later) ∨
            ∃ fault, r = .error fault ∧ Opening s (.error fault) (parts ++ later) := by
        refine Interacts.rescue (Adapter.applyCharset_interacts _ _ _) ?_ ?_ ?_
        · rintro _ later hcharset
          exact .inl ⟨rfl, hcharset⟩
        · intro p later hfatal hcharset
          exact .inr ⟨_, rfl, .interrupted hconnect hcharset hfatal⟩
        · intro p later hordinary hcharset
          refine Interacts.bind (hclosing h) ?_ ?_
          · rintro fault _ (⟨hr, -⟩ | ⟨failure, hr, rfl⟩)
            · cases hr
            · cases hr
              refine .inr ⟨_, rfl, ?_⟩
              rw [← List.append_assoc]
              exact .doubleFault hconnect hcharset hordinary
          · rintro _ _ (⟨-, rfl⟩ | ⟨failure, hr, -⟩)
            · refine interacts_fail (.inr ⟨_, rfl, ?_⟩)
              rw [List.append_nil, ← List.append_assoc]
              exact .abandoned hconnect hcharset hordinary
            · cases hr
      refine Interacts.bind hcharset ?_ ?_
      · rintro fault later (⟨hr, -⟩ | ⟨fault', hr, hopening⟩)
        · cases hr
        · cases hr
          exact hopening
      · rintro _ later (⟨-, hset⟩ | ⟨fault', hr, -⟩)
        · refine Interacts.log_bind (interacts_pure ?_)
          rw [List.append_nil]
          exact .opened hconnect hset
        · cases hr
    · cases hr

/-- A new connection takes its driver connection from the caller or opens one. -/
theorem create_interacts (d : Draft) (driver : Option Handle) :
    (create b d driver).Interacts b fun r parts =>
      (∃ fault, resolve d = .error fault ∧ r = .error fault ∧ parts = []) ∨
      ∃ s, resolve d = .ok s ∧
        ((∃ h, driver = some h ∧ r = .ok ⟨s, some h⟩ ∧ parts = []) ∨
          (driver = none ∧ ∃ opened, Opening s opened parts ∧
            r = opened.map fun h => ⟨s, some h⟩)) := by
  unfold create
  refine Interacts.ofExcept_bind ?_ ?_
  · intro fault hresolve
    exact .inl ⟨fault, hresolve, rfl, rfl⟩
  · intro s hresolve
    cases driver with
    | some h => exact interacts_pure (.inr ⟨s, hresolve, .inl ⟨h, rfl, rfl, rfl⟩⟩)
    | none =>
      refine (openDriver_interacts s).bind_pure ?_ ?_
      · intro fault parts hopening
        exact .inr ⟨s, hresolve, .inr ⟨rfl, _, hopening, rfl⟩⟩
      · intro h parts hopening
        exact .inr ⟨s, hresolve, .inr ⟨rfl, _, hopening, rfl⟩⟩

end Connection

end SqlBridge
