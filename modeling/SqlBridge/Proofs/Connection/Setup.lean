import SqlBridge.Proofs.Connection.Handover

namespace SqlBridge

open SqlBridge.Action

namespace Adapter

variable {σ : Type} {b : Backend σ} {w : σ} {s : Settings} {h : Handle}

/-- What connecting comes to. A statement is sent by that for MySQL alone. -/
inductive Reached (s : Settings) : Except Problem Handle → List Call → Prop where
  | connected {h : Handle} {calls : List Call}
      (hheld : Held h (if s.engine = .mysql then s.charsetStatement?.toList else []) calls) :
      Reached s (.ok h) calls
  | failed {calls : List Call} (p : Problem) (hcalls : ∀ call ∈ calls, call.Fruitless) :
      Reached s (.error p) calls
  | unswitched {h : Handle} {calls : List Call} (failure : Failure) (hcalls : Unswitched h calls) :
      Reached s (.error (.raised failure)) calls

/-- What setting the charset of a new session comes to. -/
structure CharsetStage (b : Backend σ) (w : σ) (s : Settings) (r : Except Problem Unit)
    (events : List Event) : Prop where
  keeps : ∀ call ∈ b.calls w events, call.Keeps
  sent : r = .ok () → sentStatements (b.calls w events) =
    if s.engine = .mysql then [] else s.charsetStatement?.toList
  fatal : ∀ p, r = .error p → p.isFatal = true → FatallyFails b w events

theorem charsetStatement?_eq {charset : String} (hcharset : s.charset = some charset)
    (hnonempty : charset ≠ "") : s.charsetStatement? = s.engine.charsetStatement charset := by
  rw [Settings.charsetStatement?, hcharset, Option.bind_some, if_neg hnonempty]

/-- A charset counts as present unless it is missing or empty. -/
theorem charsetStatement?_cases (s : Settings) :
    ((Value.ofText? s.charset).truthy = false ∧ s.charsetStatement? = none) ∨
      ∃ charset, s.charset = some charset ∧ charset ≠ "" := by
  cases hcharset : s.charset with
  | none => exact .inl ⟨rfl, by rw [Settings.charsetStatement?, hcharset, Option.bind_none]⟩
  | some charset =>
    by_cases hempty : charset = ""
    · subst hempty
      exact .inl ⟨rfl, by rw [Settings.charsetStatement?, hcharset, Option.bind_some, if_pos rfl]⟩
    · exact .inr ⟨charset, rfl, hempty⟩

theorem initCommand_eq_ok {command : Option String} (hmysql : s.engine = .mysql)
    (hcommand : initCommand s = .ok command) : command = s.charsetStatement? := by
  rcases charsetStatement?_cases s with ⟨hfalsy, hnone⟩ | ⟨charset, hcharset, hnonempty⟩
  · rw [hnone]
    rw [initCommand] at hcommand
    split at hcommand
    · cases hcommand
      rfl
    · cases hcommand
      rfl
    · next hempty hcharset =>
      rw [hcharset] at hfalsy
      simp [Value.ofText?, Value.truthy] at hfalsy
      exact absurd hfalsy hempty
  · rw [charsetStatement?_eq hcharset hnonempty, hmysql]
    rw [initCommand_eq_setCharset hcharset hnonempty] at hcommand
    cases command with
    | none => cases Engine.eq_sqlite_of_setCharset hcommand
    | some statement => exact (Engine.charsetStatement_of_setCharset hcommand).2.symm

/-- An attempt to connect by one package. -/
theorem endsFrom_attempt {package : Package} {arguments : ConnectArguments} {logger : Logger}
    {message : String} {Q : Except Problem Handle → List Event → Prop} {attempt : List Event}
    (hattempt : attempt = [.log .debug logger message, .connect package arguments])
    (hok : ∀ h, b.calls w attempt = [⟨.log .debug logger message, .returned⟩,
      ⟨.connect package arguments, .connected h⟩] → Q (.ok h) attempt)
    (hraised : ∀ failure, b.calls w attempt = [⟨.log .debug logger message, .returned⟩,
        ⟨.connect package arguments, .raised⟩] →
      b.failures w attempt = [(.connect package arguments, failure)] →
      Q (.error (.raised failure)) attempt) :
    (log .debug logger message >>= fun _ => b.connecting package arguments).EndsFrom b w Q := by
  subst hattempt
  refine EndsFrom.log_bind (endsFrom_connecting ?_ ?_)
  · intro h hreply
    refine hok h ?_
    rw [← hreply]
    rfl
  · intro failure hfailure
    refine hraised failure ?_ ?_
    · rw [← (b.reply_eq_raised_iff w _).2 ⟨failure, hfailure⟩]
      rfl
    · change b.failures w [.connect package arguments] = _
      rw [b.failures_singleton, hfailure]
      rfl

theorem fruitless_log {level : Level} {logger : Logger} {message : String} {reply : Reply} :
    Call.Fruitless ⟨.log level logger message, reply⟩ :=
  ⟨rfl, rfl⟩

theorem Reached.of_attempt {package : Package} {arguments : ConnectArguments} {logger : Logger}
    {message : String} {later : List Call}
    (hcommand : arguments.initCommand? = if s.engine = .mysql then s.charsetStatement? else none)
    (hlater : later = [] ∨ later = [⟨.autocommit h, .returned⟩])
    (hautocommit : RequestsAutocommit h package arguments later) :
    Reached s (.ok h) (⟨.log .debug logger message, .returned⟩ ::
      ⟨.connect package arguments, .connected h⟩ :: later) := by
  have hlog : ∀ call ∈ [(⟨.log .debug logger message, .returned⟩ : Call)], call.Fruitless :=
    List.forall_mem_singleton.2 fruitless_log
  refine .connected (.intro hlog ?_ hautocommit ?_)
  · rcases hlater with rfl | rfl
    · simp
    · exact List.forall_mem_singleton.2 ⟨rfl, rfl⟩
  · have hsent : sentStatements [⟨.connect package arguments, .connected h⟩] =
        if s.engine = .mysql then s.charsetStatement?.toList else [] := by
      rw [sentStatements_singleton]
      change arguments.initCommand?.toList = _
      rw [hcommand]
      split_ifs <;> rfl
    rw [← hsent]
    rcases hlater with rfl | rfl <;> rfl

theorem fruitless_failed_attempt {package : Package} {arguments : ConnectArguments}
    {logger : Logger} {message : String} :
    ∀ call ∈ [(⟨.log .debug logger message, .returned⟩ : Call), ⟨.connect package arguments, .raised⟩],
      call.Fruitless :=
  List.forall_mem_cons.2 ⟨fruitless_log, List.forall_mem_singleton.2 ⟨rfl, rfl⟩⟩

theorem Reached.of_failed_attempt {package : Package} {arguments : ConnectArguments}
    {logger : Logger} {message : String} (p : Problem) :
    Reached s (.error p) [⟨.log .debug logger message, .returned⟩,
      ⟨.connect package arguments, .raised⟩] :=
  .failed p fruitless_failed_attempt

theorem Reached.after_fruitless {r : Except Problem Handle} {calls later : List Call}
    (hcalls : ∀ call ∈ calls, call.Fruitless) (hunsent : sentStatements calls = [])
    (hlater : Reached s r later) : Reached s r (calls ++ later) := by
  cases hlater with
  | connected hheld =>
    have hheld' := hheld.after_fruitless hcalls
    rw [hunsent, List.nil_append] at hheld'
    exact .connected hheld'
  | failed p hfailed => exact .failed p (List.forall_mem_append.2 ⟨hcalls, hfailed⟩)
  | unswitched failure hunswitched => exact .unswitched failure (hunswitched.after_fruitless hcalls)

theorem connectPsycopg_endsFrom (hengine : s.engine = .pgsql) :
    (connectPsycopg b s).EndsFrom b w fun r events =>
      Reached s r (b.calls w events) ∧ (∀ arguments, .connect .psycopg2 arguments ∉ events) ∧
        ∀ p, r = .error p → (∀ call ∈ b.calls w events, call.Fruitless) ∧
          sentStatements (b.calls w events) = [] ∧
          (isLoadProblem p = true → LoadFails b w events) := by
  have hcommand : (ConnectArguments.mk [] (("autocommit", .bool true) :: postgresKeywords s)).initCommand? =
      none := by
    rw [initCommand_autocommit, initCommand_postgresKeywords]
  refine EndsFrom.available_bind ?_
  cases hfound : b.installed .psycopg w with
  | false =>
    refine endsFrom_fail ⟨.failed _ (by simp [Backend.calls]), by simp, ?_⟩
    rintro _ -
    exact ⟨by simp [Backend.calls], rfl, fun _ => .inl hfound⟩
  | true =>
    refine endsFrom_attempt rfl ?_ ?_
    · intro h hcalls
      rw [hcalls]
      refine ⟨.of_attempt ?_ (.inl rfl) (.keyword (.inl rfl) rfl), by simp, by simp⟩
      rw [hcommand, hengine]
      rfl
    · intro failure hcalls hfailures
      rw [hcalls]
      refine ⟨.of_failed_attempt _, by simp, ?_⟩
      rintro _ ⟨⟩
      refine ⟨fruitless_failed_attempt, by simp [sentStatements, Call.sentStatement?, hcommand],
        fun hload => .inr ?_⟩
      rw [hfailures]
      exact ⟨_, failure, List.mem_singleton_self _, by simpa [isLoadProblem] using hload⟩

theorem connectPsycopg2_endsFrom (hengine : s.engine = .pgsql) :
    (connectPsycopg2 b s).EndsFrom b w fun r events => Reached s r (b.calls w events) := by
  have hcommand : (ConnectArguments.mk [] (postgresKeywords s)).initCommand? =
      if s.engine = .mysql then s.charsetStatement? else none := by
    rw [initCommand_postgresKeywords, hengine]
    rfl
  refine EndsFrom.available_bind ?_
  cases b.installed .psycopg2 w with
  | false => exact endsFrom_fail (.failed _ (by simp [Backend.calls]))
  | true =>
    simp only [if_true]
    rw [← bind_assoc]
    refine EndsFrom.bind (endsFrom_attempt (Q := fun r events => (∃ p, r = .error p ∧
        Reached s (.error p) (b.calls w events)) ∨ ∃ h, r = .ok h ∧ b.calls w events =
          [⟨.log .debug .postgres ("Opening PostgreSQL connection via psycopg2 to " ++ s.host), .returned⟩,
            ⟨.connect .psycopg2 ⟨[], postgresKeywords s⟩, .connected h⟩]) rfl ?_ ?_) ?_ ?_
    · intro h hcalls
      exact .inr ⟨h, rfl, hcalls⟩
    · intro failure hcalls _
      rw [hcalls]
      exact .inl ⟨_, rfl, .of_failed_attempt _⟩
    · rintro _ events (⟨p, ⟨⟩, hreached⟩ | ⟨h, ⟨⟩, -⟩)
      exact hreached
    · rintro h events (⟨p, ⟨⟩, -⟩ | ⟨_, ⟨⟩, hcalls⟩)
      have hswitching : (b.autocommitting h).EndsFrom b (b.after w events) fun r later =>
          (r = .ok () ∧ b.calls (b.after w events) later = [⟨.autocommit h, .returned⟩]) ∨
            ∃ failure, r = .error (.raised failure) ∧
              b.calls (b.after w events) later = [⟨.autocommit h, .raised⟩] :=
        ends_iff_endsFrom.1 (ends_autocommitting
          (Q := fun r calls => (r = .ok () ∧ calls = [⟨.autocommit h, .returned⟩]) ∨
            ∃ failure, r = .error (.raised failure) ∧ calls = [⟨.autocommit h, .raised⟩])
          (.inl ⟨rfl, rfl⟩) fun failure => .inr ⟨failure, rfl, rfl⟩) _
      refine EndsFrom.bind hswitching ?_ ?_
      · rintro p later (⟨⟨⟩, -⟩ | ⟨failure, ⟨⟩, hraised⟩)
        rw [b.calls_append, hcalls, hraised]
        exact .unswitched failure (.intro (List.forall_mem_singleton.2 fruitless_log))
      · rintro _ later (⟨-, hreturned⟩ | ⟨failure, ⟨⟩, -⟩)
        refine endsFrom_pure ?_
        rw [List.append_nil, b.calls_append, hcalls, hreturned]
        exact .of_attempt hcommand (.inr rfl) .assignment

theorem connectMysql_endsFrom (hengine : s.engine = .mysql) :
    (connectMysql b s).EndsFrom b w fun r events =>
      Reached s r (b.calls w events) ∧ ∀ arguments, .connect .psycopg2 arguments ∉ events := by
  refine EndsFrom.ofExcept_bind (fun p _ => ⟨.failed p (by simp [Backend.calls]), by simp⟩) ?_
  intro command hcommand
  refine EndsFrom.available_bind ?_
  cases b.installed .pymysql w with
  | false => exact endsFrom_fail ⟨.failed _ (by simp [Backend.calls]), by simp⟩
  | true =>
    refine endsFrom_attempt rfl ?_ ?_
    · intro h hcalls
      rw [hcalls]
      refine ⟨.of_attempt ?_ (.inl rfl) (.keyword (.inr rfl) ?_), by simp⟩
      · rw [initCommand_mysqlKeywords, if_pos hengine, initCommand_eq_ok hengine hcommand]
      · rfl
    · intro failure hcalls _
      rw [hcalls]
      exact ⟨.of_failed_attempt _, by simp⟩

theorem connectSqlite_endsFrom (hengine : s.engine = .sqlite) :
    (connectSqlite b s).EndsFrom b w fun r events =>
      Reached s r (b.calls w events) ∧ ∀ arguments, .connect .psycopg2 arguments ∉ events := by
  refine endsFrom_attempt rfl ?_ ?_
  · intro h hcalls
    rw [hcalls]
    refine ⟨.of_attempt ?_ (.inl rfl) (.isolation rfl), by simp⟩
    rw [hengine]
    rfl
  · intro failure hcalls _
    rw [hcalls]
    exact ⟨.of_failed_attempt _, by simp⟩

theorem connect_endsFrom (s : Settings) : (connect b s).EndsFrom b w fun r events =>
    Reached s r (b.calls w events) ∧ FallsBack b w events := by
  unfold connect
  cases hengine : s.engine with
  | pgsql =>
    refine EndsFrom.orElseWhen (connectPsycopg_endsFrom hengine) ?_ ?_ ?_
    · rintro h events ⟨hreached, hunused, -⟩
      exact ⟨hreached, fallsBack_of_unused hunused⟩
    · rintro p events - ⟨hreached, hunused, -⟩
      exact ⟨hreached, fallsBack_of_unused hunused⟩
    · rintro p events hload ⟨-, hunused, hfailed⟩
      obtain ⟨hcalls, hunsent, hfails⟩ := hfailed p rfl
      refine EndsFrom.mono (connectPsycopg2_endsFrom hengine) ?_
      intro r later hlater
      refine ⟨?_, (hfails hload).fallsBack hunused later⟩
      rw [b.calls_append]
      exact hlater.after_fruitless hcalls hunsent
  | mysql =>
    refine EndsFrom.mono (connectMysql_endsFrom hengine) ?_
    rintro r events ⟨hreached, hunused⟩
    exact ⟨hreached, fallsBack_of_unused hunused⟩
  | sqlite =>
    refine EndsFrom.mono (connectSqlite_endsFrom hengine) ?_
    rintro r events ⟨hreached, hunused⟩
    exact ⟨hreached, fallsBack_of_unused hunused⟩

/-- Only a driver raises what passes every handler. -/
theorem isFatal_of_setCharset {e : Engine} {charset : Value} {p : Problem}
    (hset : e.setCharset charset = .error p) : p.isFatal = false := by
  by_cases hserver : e = .sqlite
  · subst hserver
    cases hset
  · rw [Engine.setCharset_of_server hserver] at hset
    split_ifs at hset
    · split at hset
      · cases hset
        rfl
      · split_ifs at hset
        cases hset
        rfl
    · cases hset
      rfl

/-- What becomes of a charset statement that is sent through a cursor of its own. It is sent as soon as
the cursor opens, and set if nothing raises; otherwise the last failure is what is raised. -/
inductive CharsetSent (b : Backend σ) (w : σ) (h : Handle) (statement : String) :
    Except Problem Unit → List Event → Prop where
  | refused {failure : Failure}
      (hlast : (b.failures w [.cursorOpen h]).getLast? = some (.cursorOpen h, failure)) :
      CharsetSent b w h statement (.error (.raised failure)) [.cursorOpen h]
  | raised {event : Event} {failure : Failure}
      (hevent : event = .execute h statement none ∨ event = .cursorClose h)
      (hlast : (b.failures w [.cursorOpen h, .execute h statement none, .cursorClose h]).getLast? =
        some (event, failure)) :
      CharsetSent b w h statement (.error (.raised failure))
        [.cursorOpen h, .execute h statement none, .cursorClose h]
  | set : CharsetSent b w h statement (.ok ())
      [.cursorOpen h, .execute h statement none, .cursorClose h]

theorem charsetCursor_endsFrom {statement : String} :
    (b.cursor h >>= fun _ => b.withOpenCursor h id (b.executing h statement .null >>= fun _ =>
        (pure () : Action σ Problem Unit))).EndsFrom b w (CharsetSent b w h statement) := by
  have hcursor : (b.cursor h).EndsFrom b w fun r events => events = [.cursorOpen h] ∧
      ((r = .ok () ∧ b.failure? w (.cursorOpen h) = none) ∨ ∃ failure, r = .error (.raised failure) ∧
        b.failure? w (.cursorOpen h) = some failure) :=
    endsFrom_cursor (fun hnone => ⟨rfl, .inl ⟨rfl, hnone⟩⟩)
      fun failure hfailure => ⟨rfl, .inr ⟨failure, rfl, hfailure⟩⟩
  have hexecuted (w' : σ) : (b.executing h statement .null >>= fun _ =>
      (pure () : Action σ Problem Unit)).EndsFrom b w' fun r events =>
        events = [.execute h statement none] ∧ (r = .ok () ∨ ∃ failure,
          r = .error (.raised failure) ∧ b.failure? w' (.execute h statement none) = some failure) := by
    refine EndsFrom.bind (endsFrom_executing (Q := fun r events =>
      events = [.execute h statement none] ∧ ∀ p, r = .error p → ∃ failure, p = .raised failure ∧
        b.failure? w' (.execute h statement none) = some failure) rfl (fun _ _ => ⟨rfl, by simp⟩) ?_) ?_ ?_
    · intro failure hfailure
      refine ⟨rfl, ?_⟩
      rintro _ ⟨⟩
      exact ⟨failure, rfl, hfailure⟩
    · rintro p _ ⟨rfl, hraised⟩
      obtain ⟨failure, rfl, hfailure⟩ := hraised p rfl
      exact ⟨rfl, .inr ⟨failure, rfl, hfailure⟩⟩
    · rintro answered _ ⟨rfl, -⟩
      exact endsFrom_pure ⟨rfl, .inl rfl⟩
  refine EndsFrom.bind hcursor ?_ ?_
  · rintro p _ ⟨rfl, ⟨⟨⟩, -⟩ | ⟨failure, ⟨⟩, hfailure⟩⟩
    exact .refused (by rw [b.failures_singleton, hfailure]; rfl)
  · rintro _ _ ⟨rfl, ⟨-, hopened⟩ | ⟨failure, ⟨⟩, -⟩⟩
    have hfailures := b.failures_withOpenCursor hopened [.execute h statement none]
    refine EndsFrom.withOpenCursor (hexecuted _) ?_ ?_
    · rintro r _ ⟨rfl, rfl | ⟨failure, rfl, hfailure⟩⟩ hclosed
      · exact .set
      · refine .raised (.inl rfl) ?_
        rw [hclosed, b.failures_singleton, hfailure] at hfailures
        exact (congrArg List.getLast? hfailures).trans rfl
    · rintro r _ failure ⟨rfl, -⟩ hfailure
      refine .raised (.inr rfl) ?_
      rw [hfailure] at hfailures
      exact (congrArg List.getLast? hfailures).trans List.getLast?_concat

namespace CharsetSent

variable {statement : String} {r : Except Problem Unit} {events : List Event}

theorem keeps (hsent : CharsetSent b w h statement r events) :
    ∀ call ∈ b.calls w events, call.Keeps := by
  cases hsent <;> simp [Backend.calls, Call.Keeps, Event.isConnect, Event.isClose]

theorem sentStatements_eq (hsent : CharsetSent b w h statement (.ok ()) events) :
    sentStatements (b.calls w events) = [statement] := by
  cases hsent
  rfl

theorem fatallyFails {p : Problem} (hsent : CharsetSent b w h statement (.error p) events)
    (hfatal : p.isFatal = true) : FatallyFails b w events := by
  cases hsent with
  | refused hlast => exact fatallyFails_of_getLast? hlast hfatal
  | raised hevent hlast => exact fatallyFails_of_getLast? hlast hfatal

end CharsetSent

theorem applyCharset_endsFrom (s : Settings) (h : Handle) :
    (applyCharset b s.engine h (.ofText? s.charset)).EndsFrom b w (CharsetStage b w s) := by
  unfold applyCharset
  rcases charsetStatement?_cases s with ⟨hfalsy, hnone⟩ | ⟨charset, hcharset, hnonempty⟩
  · rw [if_pos (.inr hfalsy)]
    refine endsFrom_pure ⟨by simp [Backend.calls], fun _ => ?_, by simp⟩
    rw [hnone]
    split_ifs <;> rfl
  by_cases hmysql : s.engine = .mysql
  · rw [if_pos (.inl hmysql)]
    refine endsFrom_pure ⟨by simp [Backend.calls], fun _ => ?_, by simp⟩
    rw [if_pos hmysql]
    rfl
  rw [hcharset, if_neg (by simp [hmysql, Value.ofText?, Value.truthy, hnonempty])]
  refine EndsFrom.ofExcept_bind ?_ ?_
  · intro p hp
    refine ⟨by simp [Backend.calls], by simp, ?_⟩
    rintro _ ⟨⟩ hfatal
    rw [isFatal_of_setCharset hp] at hfatal
    cases hfatal
  · intro command hcommand
    cases command with
    | none =>
      refine endsFrom_pure ⟨by simp [Backend.calls], fun _ => ?_, by simp⟩
      rw [if_neg hmysql, charsetStatement?_eq hcharset hnonempty,
        Engine.eq_sqlite_of_setCharset hcommand]
      rfl
    | some statement =>
      refine EndsFrom.mono charsetCursor_endsFrom ?_
      intro r events hsent
      refine ⟨hsent.keeps, ?_, ?_⟩
      · rintro rfl
        rw [if_neg hmysql, hsent.sentStatements_eq, charsetStatement?_eq hcharset hnonempty,
          (Engine.charsetStatement_of_setCharset hcommand).2]
        rfl
      · rintro p rfl
        exact hsent.fatallyFails

end Adapter

namespace Connection

variable {σ : Type} {b : Backend σ} {w : σ}

/-- A driver connection that does not switch to autocommit is reported, and left open. -/
example :
    let b := { Backend.refusing [] with
      installed := fun package _ => package == .psycopg2
      setAutocommit := fun _ n => (.error ⟨.driver, "not allowed here"⟩, n) }
    let run := create b (Draft.server .pgsql "db" "shop" "ada" "secret") none 0
    (∃ info cause, run.outcome = .error (failed info "Connection init fails!" cause)) ∧
      handedOut (b.calls 0 run.events) = [⟨0⟩] ∧
      ∀ event ∈ run.events, event.isClose = false :=
  ⟨⟨_, _, rfl⟩, rfl, by decide⟩

end Connection

end SqlBridge
