import SqlBridge.Proofs.Connection.Setup

namespace SqlBridge

open SqlBridge.Action

namespace Adapter

variable {σ : Type} {b : Backend σ} {w : σ} {s : Settings} {h : Handle} {events later : List Event}
  {p : Problem}

/-- What made connecting fail: the last failure that a package raised, that of a driver connection to
switch to autocommit, that no package is left which could be loaded, or the name of a charset that was
to be set on connecting. That psycopg cannot be loaded is not the end of it, since psycopg2 is asked
then. -/
inductive ConnectCause (b : Backend σ) (w : σ) (s : Settings) (events : List Event) :
    Problem → Prop where
  | raised {package : Package} {arguments : ConnectArguments} {failure : Failure}
      (hlast : (b.failures w events).getLast? = some (.connect package arguments, failure))
      (hfinal : package = .psycopg → failure.kind ≠ .loading) :
      ConnectCause b w s events (.raised failure)
  | unswitched {h : Handle} {failure : Failure}
      (hlast : (b.failures w events).getLast? = some (.autocommit h, failure)) :
      ConnectCause b w s events (.raised failure)
  | noPostgresDriver (hengine : s.engine = .pgsql) (hload : LoadFails b w events)
      (hunused : ∀ arguments, .connect .psycopg2 arguments ∉ events)
      (habsent : b.installed .psycopg2 (b.after w events) = false) :
      ConnectCause b w s events .noPostgresDriver
  | noMysqlDriver (hengine : s.engine = .mysql) (hevents : events = [])
      (habsent : b.installed .pymysql w = false) :
      ConnectCause b w s events .noMysqlDriver
  | invalidCharset {charset : String} (hengine : s.engine = .mysql) (hevents : events = [])
      (hcharset : s.charset = some charset) (hnonempty : charset ≠ "")
      (hname : isCharsetName charset = false) :
      ConnectCause b w s events (.invalidCharset (.text charset))

/-- What made setting the charset of a new session fail: a failure of the driver connection when it
was told to, the last one if the cursor failed to close too, or the name of the charset. -/
inductive CharsetCause (b : Backend σ) (w : σ) (s : Settings) (h : Handle) (events : List Event) :
    Problem → Prop where
  | raised {event : Event} {failure : Failure}
      (hevent : event = .cursorOpen h ∨ (∃ statement, event = .execute h statement none) ∨
        event = .cursorClose h)
      (hlast : (b.failures w events).getLast? = some (event, failure)) :
      CharsetCause b w s h events (.raised failure)
  | invalidCharset {charset : String} (hengine : s.engine = .pgsql)
      (hcharset : s.charset = some charset) (hnonempty : charset ≠ "")
      (hname : isCharsetName charset = false) :
      CharsetCause b w s h events (.invalidCharset (.text charset))

theorem getLast?_failures_append {call : Event × Failure}
    (hlast : (b.failures (b.after w events) later).getLast? = some call) :
    (b.failures w (events ++ later)).getLast? = some call := by
  rw [b.failures_append, List.getLast?_append, hlast, Option.some_or]

theorem CharsetCause.after (hcause : CharsetCause b (b.after w events) s h later p) :
    CharsetCause b w s h (events ++ later) p := by
  cases hcause with
  | raised hevent hlast => exact .raised hevent (getLast?_failures_append hlast)
  | invalidCharset hengine hcharset hnonempty hname =>
    exact .invalidCharset hengine hcharset hnonempty hname

/-- Calls that raise nothing leave the cause what it is. -/
theorem CharsetCause.before_silent (hcause : CharsetCause b w s h events p)
    (hsilent : b.failures (b.after w events) later = []) :
    CharsetCause b w s h (events ++ later) p := by
  cases hcause with
  | raised hevent hlast =>
    refine .raised hevent ?_
    rwa [b.failures_append, hsilent, List.append_nil]
  | invalidCharset hengine hcharset hnonempty hname =>
    exact .invalidCharset hengine hcharset hnonempty hname

theorem connectPsycopg_fails (s : Settings) : (connectPsycopg b s).EndsFrom b w fun r events =>
    ∀ p, r = .error p → isLoadProblem p = false → ConnectCause b w s events p := by
  refine EndsFrom.available_bind ?_
  cases b.installed .psycopg w with
  | false =>
    refine endsFrom_fail ?_
    rintro _ ⟨⟩ hload
    cases hload
  | true =>
    refine endsFrom_attempt rfl (fun h _ => by simp) ?_
    rintro failure - hfailures _ ⟨⟩ hload
    refine .raised (by rw [hfailures]; rfl) fun _ hkind => ?_
    simp [isLoadProblem, hkind] at hload

/-- Where psycopg2 is asked is known, so that its absence is the end of all attempts. -/
theorem connectPsycopg2_fails (hengine : s.engine = .pgsql) (hload : LoadFails b w events)
    (hunused : ∀ arguments, .connect .psycopg2 arguments ∉ events) :
    (connectPsycopg2 b s).EndsFrom b (b.after w events) fun r later =>
      ∀ p, r = .error p → ConnectCause b w s (events ++ later) p := by
  refine EndsFrom.available_bind ?_
  cases hfound : b.installed .psycopg2 (b.after w events) with
  | false =>
    refine endsFrom_fail ?_
    rintro _ ⟨⟩
    rw [List.append_nil]
    exact .noPostgresDriver hengine hload hunused hfound
  | true =>
    simp only [if_true]
    rw [← bind_assoc]
    refine EndsFrom.bind (endsFrom_attempt (Q := fun r later => ∀ p, r = .error p →
      ConnectCause b w s (events ++ later) p) rfl (fun h _ => by simp) ?_) ?_ ?_
    · rintro failure - hfailures _ ⟨⟩
      exact .raised (getLast?_failures_append (by rw [hfailures]; rfl)) (by simp)
    · rintro p later hcause _ ⟨⟩
      exact hcause p rfl
    · intro h later _
      rw [← b.after_append]
      have hswitching : (b.autocommitting h).EndsFrom b (b.after w (events ++ later)) fun r switching =>
          ∀ p, r = .error p → ConnectCause b w s (events ++ (later ++ switching)) p := by
        refine endsFrom_autocommitting (fun _ => by simp) ?_
        rintro failure hfailure _ ⟨⟩
        rw [← List.append_assoc]
        exact .unswitched (getLast?_failures_append (by rw [b.failures_singleton, hfailure]; rfl))
      refine EndsFrom.bind hswitching ?_ ?_
      · rintro p switching hcause _ ⟨⟩
        exact hcause p rfl
      · rintro _ _ -
        exact endsFrom_pure (by simp)

theorem connectMysql_fails (hengine : s.engine = .mysql) :
    (connectMysql b s).EndsFrom b w fun r events =>
      ∀ p, r = .error p → ConnectCause b w s events p := by
  refine EndsFrom.ofExcept_bind ?_ ?_
  · rintro p hp _ ⟨⟩
    rw [initCommand] at hp
    split at hp
    · cases hp
    · cases hp
    · next charset hnonempty hcharset =>
      obtain ⟨rfl, hname⟩ := Engine.invalidCharset_of_setCharset hp
      exact .invalidCharset hengine rfl hcharset hnonempty hname
  · intro command _
    refine EndsFrom.available_bind ?_
    cases hfound : b.installed .pymysql w with
    | false =>
      refine endsFrom_fail ?_
      rintro _ ⟨⟩
      exact .noMysqlDriver hengine rfl hfound
    | true =>
      refine endsFrom_attempt rfl (fun h _ => by simp) ?_
      rintro failure - hfailures _ ⟨⟩
      exact .raised (by rw [hfailures]; rfl) (by simp)

theorem connect_fails (s : Settings) : (connect b s).EndsFrom b w fun r events =>
    ∀ p, r = .error p → ConnectCause b w s events p := by
  unfold connect
  cases hengine : s.engine with
  | pgsql =>
    refine EndsFrom.orElseWhen ((connectPsycopg_endsFrom hengine).and (connectPsycopg_fails s)) ?_ ?_ ?_
    · rintro h events - p ⟨⟩
    · rintro p events hother ⟨-, hcause⟩ _ ⟨⟩
      exact hcause p rfl hother
    · rintro p events hload ⟨⟨-, hunused, hfailed⟩, -⟩
      exact connectPsycopg2_fails hengine ((hfailed p rfl).2.2 hload) hunused
  | mysql => exact connectMysql_fails hengine
  | sqlite =>
    refine endsFrom_attempt rfl (fun h _ => by simp) ?_
    rintro failure - hfailures _ ⟨⟩
    exact .raised (by rw [hfailures]; rfl) (by simp)

theorem CharsetSent.cause {statement : String}
    (hsent : CharsetSent b w h statement (.error p) events) : CharsetCause b w s h events p := by
  cases hsent with
  | refused hlast => exact .raised (.inl rfl) hlast
  | raised hevent hlast =>
    exact .raised (.inr (hevent.imp_left fun hexecute => ⟨statement, hexecute⟩)) hlast

theorem applyCharset_fails (s : Settings) (h : Handle) :
    (applyCharset b s.engine h (.ofText? s.charset)).EndsFrom b w fun r events =>
      ∀ p, r = .error p → CharsetCause b w s h events p := by
  unfold applyCharset
  rcases charsetStatement?_cases s with ⟨hfalsy, -⟩ | ⟨charset, hcharset, hnonempty⟩
  · rw [if_pos (.inr hfalsy)]
    exact endsFrom_pure (by simp)
  by_cases hmysql : s.engine = .mysql
  · rw [if_pos (.inl hmysql)]
    exact endsFrom_pure (by simp)
  rw [hcharset, if_neg (by simp [hmysql, Value.ofText?, Value.truthy, hnonempty])]
  refine EndsFrom.ofExcept_bind ?_ ?_
  · rintro p hp _ ⟨⟩
    cases hengine : s.engine with
    | mysql => exact absurd hengine hmysql
    | sqlite =>
      rw [hengine] at hp
      cases hp
    | pgsql =>
      obtain ⟨rfl, hname⟩ := Engine.invalidCharset_of_setCharset hp
      exact .invalidCharset hengine hcharset hnonempty hname
  · intro command _
    cases command with
    | none => exact endsFrom_pure (by simp)
    | some statement =>
      refine EndsFrom.mono charsetCursor_endsFrom ?_
      rintro r events hsent p rfl
      exact hsent.cause

theorem ConnectCause.fatallyFails (hcause : ConnectCause b w s events p) (hfatal : p.isFatal = true) :
    FatallyFails b w events := by
  cases hcause with
  | raised hlast => exact fatallyFails_of_getLast? hlast hfatal
  | unswitched hlast => exact fatallyFails_of_getLast? hlast hfatal
  | _ => cases hfatal

theorem CharsetCause.fatallyFails (hcause : CharsetCause b w s h events p)
    (hfatal : p.isFatal = true) : FatallyFails b w events := by
  cases hcause with
  | raised hevent hlast => exact fatallyFails_of_getLast? hlast hfatal
  | invalidCharset => cases hfatal

end Adapter

/-- The failures that closing a driver connection raised in a run. -/
def closeFailures {σ : Type} (b : Backend σ) (w : σ) (events : List Event) : List (Event × Failure) :=
  (b.failures w events).filter fun call => call.1.isClose

section

variable {σ : Type} {b : Backend σ} {w : σ} {events later : List Event}

theorem closeFailures_append :
    closeFailures b w (events ++ later) =
      closeFailures b w events ++ closeFailures b (b.after w events) later := by
  rw [closeFailures, b.failures_append, List.filter_append]
  rfl

theorem closeFailures_eq_nil (hunclosed : ∀ call ∈ b.calls w events, call.event.isClose = false) :
    closeFailures b w events = [] := by
  refine List.filter_eq_nil_iff.2 ?_
  rintro ⟨event, failure⟩ hmem
  have hevent := b.mem_of_mem_failures hmem
  rw [← b.map_event_calls w events, List.mem_map] at hevent
  obtain ⟨call, hcall, rfl⟩ := hevent
  simp [hunclosed call hcall]

end

namespace Connection

variable {σ : Type} {b : Backend σ} {w : σ} {s : Settings} {events : List Event}

/-- What a construction raises that fails. A failure to close the driver connection again, whose
charset could not be set, takes the place of what made the charset fail. -/
inductive Raises (b : Backend σ) (w : σ) (s : Settings) (events : List Event) : Fault → Prop where
  | connecting {p : Problem} (hcause : Adapter.ConnectCause b w s events p)
      (hout : handedOut (b.calls w events) = [] ∨ ∃ h, Unswitched h (b.calls w events))
      (hclosed : closeFailures b w events = []) :
      Raises b w s events (failed (Settings.info s) "Connection init fails!" (some p))
  | charset {h : Handle} {p : Problem} (hcause : Adapter.CharsetCause b w s h events p)
      (hout : handedOut (b.calls w events) = [h]) (hclosed : closeFailures b w events = []) :
      Raises b w s events (failed (Settings.info s) "Setting the connection charset fails!" (some p))
  | closing {h : Handle} {failure : Failure}
      (hclosed : closeFailures b w events = [(.close h, failure)]) :
      Raises b w s events (.problem (.raised failure))
  | fatal (hfatal : FatallyFails b w events) (fault : Fault) : Raises b w s events fault

theorem connect_rescue_endsFrom (s : Settings) : ((Adapter.connect b s).rescue fun p =>
    Action.fail (failed (Settings.info s) "Connection init fails!" (some p))).EndsFrom b w
      fun r events => match r with
        | .ok h => handedOut (b.calls w events) = [h] ∧
            ∀ call ∈ b.calls w events, call.event.isClose = false
        | .error fault => Raises b w s events fault := by
  refine EndsFrom.rescue ((Adapter.connect_endsFrom s).and (Adapter.connect_fails s)) ?_ ?_ ?_
  · rintro h events ⟨⟨⟨hheld⟩, -⟩, -⟩
    exact ⟨hheld.handedOut_eq, hheld.unclosed⟩
  · rintro p events hfatal ⟨-, hcause⟩
    exact .fatal ((hcause p rfl).fatallyFails hfatal) _
  · rintro p events - ⟨⟨hreached, -⟩, hcause⟩
    refine endsFrom_fail ?_
    rw [List.append_nil]
    generalize hcalls : b.calls w events = calls at hreached
    cases hreached with
    | failed _ hfruitless =>
      rw [← hcalls] at hfruitless
      exact .connecting (hcause p rfl)
        (.inl (handedOut_eq_nil fun call hcall => (hfruitless call hcall).2))
        (closeFailures_eq_nil fun call hcall => (hfruitless call hcall).isClose_eq)
    | unswitched failure hunswitched =>
      rw [← hcalls] at hunswitched
      exact .connecting (hcause _ rfl) (.inr ⟨_, hunswitched⟩)
        (closeFailures_eq_nil hunswitched.unclosed)

/-- The driver connection is closed again when its charset cannot be set. -/
theorem charset_rescue_endsFrom {h : Handle} (hout : handedOut (b.calls w events) = [h])
    (hunclosed : ∀ call ∈ b.calls w events, call.event.isClose = false) :
    ((Adapter.applyCharset b s.engine h (.ofText? s.charset)).rescue fun p => do
      b.closing h
      Action.fail (failed (Settings.info s) "Setting the connection charset fails!"
        (some p))).EndsFrom b (b.after w events) fun r later =>
      ∀ fault, r = .error fault → Raises b w s (events ++ later) fault := by
  refine EndsFrom.rescue ((Adapter.applyCharset_endsFrom s h).and (Adapter.applyCharset_fails s h))
    ?_ ?_ ?_
  · rintro _ later - _ ⟨⟩
  · rintro p later hfatal ⟨hstage, -⟩ _ ⟨⟩
    exact .fatal ((hstage.fatal p rfl hfatal).after events) _
  · rintro p later - ⟨hstage, hcause⟩
    have hkept : handedOut (b.calls w (events ++ later)) = [h] := by
      rw [b.calls_append, handedOut_append, hout,
        handedOut_eq_nil fun call hcall => (hstage.keeps call hcall).handedOut?_eq]
      rfl
    have hunclosed' : closeFailures b w (events ++ later) = [] := by
      rw [closeFailures_append, closeFailures_eq_nil hunclosed,
        closeFailures_eq_nil fun call hcall => (hstage.keeps call hcall).2]
      rfl
    have hout' : handedOut (b.calls w ((events ++ later) ++ [.close h])) = [h] := by
      rw [b.calls_append, handedOut_append, hkept]
      rfl
    rw [← b.after_append]
    refine EndsFrom.bind (closing_endsFrom h) ?_ ?_
    · rintro fault _ ⟨rfl, ⟨⟨⟩, -⟩ | ⟨failure, ⟨⟩, hfailure⟩⟩ _ ⟨⟩
      have hclosed : closeFailures b w (events ++ (later ++ [.close h])) = [(.close h, failure)] := by
        rw [← List.append_assoc, closeFailures_append, hunclosed', closeFailures,
          b.failures_singleton, hfailure]
        rfl
      exact .closing hclosed
    · rintro _ _ ⟨rfl, ⟨-, hnone⟩ | ⟨failure, ⟨⟩, -⟩⟩
      have hsilent : b.failures (b.after w (events ++ later)) [.close h] = [] := by
        rw [b.failures_singleton, hnone]
        rfl
      refine endsFrom_fail ?_
      rintro _ ⟨⟩
      rw [List.append_nil, ← List.append_assoc]
      refine .charset ((hcause p rfl).after.before_silent hsilent) hout' ?_
      rw [closeFailures_append, hunclosed', closeFailures, hsilent]
      rfl

theorem openDriver_fails (s : Settings) : (openDriver b s).EndsFrom b w fun r events =>
    ∀ fault, r = .error fault → Raises b w s events fault := by
  refine EndsFrom.bind (connect_rescue_endsFrom s) ?_ ?_
  · rintro fault events hraises _ ⟨⟩
    exact hraises
  · rintro h events ⟨hout, hunclosed⟩
    refine EndsFrom.bind (charset_rescue_endsFrom hout hunclosed) ?_ ?_
    · rintro fault later hraises _ ⟨⟩
      exact hraises fault rfl
    · rintro _ later -
      exact EndsFrom.log_bind (endsFrom_pure (by simp))

theorem create_raises {d : Draft} {e : Engine} (hengine : Engine.parse d.engine = .ok e)
    (driver : Option Handle) : (create b d driver).EndsFrom b w fun r events =>
      ∀ fault, r = .error fault → Raises b w (d.withEngine e) events fault := by
  have hresolve : resolve d = .ok (d.withEngine e) := by
    rw [resolve, hengine]
  rw [create, hresolve]
  refine EndsFrom.ofExcept_bind (by simp) ?_
  rintro _ ⟨⟩
  cases driver with
  | some h => exact endsFrom_pure (by simp)
  | none =>
    refine EndsFrom.bind (openDriver_fails _) ?_ ?_
    · rintro fault events hraises _ ⟨⟩
      exact hraises fault rfl
    · rintro h events -
      exact endsFrom_pure (by simp)

theorem mem_closeFailures {h : Handle} {failure : Failure} :
    (.close h, failure) ∈ closeFailures b w events ↔ (.close h, failure) ∈ b.failures w events := by
  simp [closeFailures, Event.isClose]

/-- A construction that fails tells what made it fail, unless the driver connection cannot be closed
again. It raises an error about the connection that has the information on the wanted settings and the
cause: of connecting, as long as no driver connection was handed out that is in autocommit, and of
setting the charset from there on. Where the charset cannot be set and closing fails too, the failure to
close is raised as it is. -/
theorem create_tells_cause_unless_close_fails (b : Backend σ) {d : Draft} {e : Engine}
    (hengine : Engine.parse d.engine = .ok e) (driver : Option Handle) (w : σ) :
    let s : Settings := d.withEngine e
    let run := create b d driver w
    (∀ call ∈ b.failures w run.events, call.2.kind ≠ .fatal) →
    run.world = b.after w run.events ∧ ∀ fault, run.outcome = .error fault →
      (∀ h failure, (.close h, failure) ∈ b.failures w run.events →
        fault = .problem (.raised failure)) ∧
      ((∀ h failure, (.close h, failure) ∉ b.failures w run.events) →
        ((handedOut (b.calls w run.events) = [] ∨ ∃ h, Unswitched h (b.calls w run.events)) ∧
          ∃ p, Adapter.ConnectCause b w s run.events p ∧ fault = .database
            ⟨.connection (some "Connection init fails!"), some (Settings.info s), some p⟩) ∨
        ∃ h p, handedOut (b.calls w run.events) = [h] ∧ Adapter.CharsetCause b w s h run.events p ∧
          fault = .database ⟨.connection (some "Setting the connection charset fails!"),
            some (Settings.info s), some p⟩) := by
  intro s run hordinary
  obtain ⟨hworld, hraises⟩ := create_raises (b := b) (w := w) hengine driver
  refine ⟨hworld, fun fault hfault => ?_⟩
  have hraised : Raises b w s run.events fault := hraises fault hfault
  generalize run.events = events at hordinary hraised ⊢
  have hunclosed {h : Handle} {failure : Failure} (hclosed : closeFailures b w events = []) :
      (.close h, failure) ∉ b.failures w events := by
    rw [← mem_closeFailures, hclosed]
    exact List.not_mem_nil
  cases hraised with
  | connecting hcause hout hclosed =>
    exact ⟨fun h failure hmem => absurd hmem (hunclosed hclosed), fun _ => .inl ⟨hout, _, hcause, rfl⟩⟩
  | charset hcause hout hclosed =>
    exact ⟨fun h failure hmem => absurd hmem (hunclosed hclosed),
      fun _ => .inr ⟨_, _, hout, hcause, rfl⟩⟩
  | @closing h failure hclosed =>
    refine ⟨fun h' failure' hmem => ?_, fun hnone => ?_⟩
    · rw [← mem_closeFailures, hclosed, List.mem_singleton] at hmem
      cases hmem
      rfl
    · refine absurd (mem_closeFailures.1 ?_) (hnone h failure)
      rw [hclosed]
      exact List.mem_singleton_self _
  | fatal hfatal =>
    obtain ⟨call, hcall, hkind⟩ := hfatal
    exact absurd hkind (hordinary call hcall)

theorem create_tells_cause_unless_close_fails_by_psycopg2 :
    let b := { Backend.refusing ["set client_encoding to klingon"] with
      installed := fun package _ => package == .psycopg2 }
    let d : Draft := { Draft.server .pgsql "db" "shop" "ada" "secret" with charset := some "klingon" }
    let s : Settings := d.withEngine .pgsql
    let run := create b d none 0
    Engine.parse d.engine = .ok .pgsql ∧ (∀ call ∈ b.failures 0 run.events, call.2.kind ≠ .fatal) ∧
      ∃ p, Adapter.CharsetCause b 0 s ⟨0⟩ run.events p ∧
        run.outcome = .error (.database ⟨.connection (some "Setting the connection charset fails!"),
          some (Settings.info s), some p⟩) := by
  intro b d s run
  have hengine : Engine.parse d.engine = .ok .pgsql := rfl
  have hswitches : b.SwitchesAutocommit := fun _ _ _ _ _ => rfl
  have hordinary : ∀ call ∈ b.failures 0 run.events, call.2.kind ≠ .fatal := by decide +kernel
  have hclosed : closeFailures b 0 run.events = [] := by decide +kernel
  have hout : handedOut (b.calls 0 run.events) = [⟨0⟩] := by decide +kernel
  obtain ⟨fault, hrun⟩ : ∃ fault, run.outcome = .error fault := ⟨_, rfl⟩
  obtain ⟨-, htold⟩ := create_tells_cause_unless_close_fails b hengine none 0 hordinary
  have hunclosed (h : Handle) (failure : Failure) : (.close h, failure) ∉ b.failures 0 run.events := by
    rw [← mem_closeFailures, hclosed]
    exact List.not_mem_nil
  rcases (htold fault hrun).2 hunclosed with ⟨hnone | ⟨h, hunswitched⟩, -⟩ | ⟨h, p, hheld, hcause, rfl⟩
  · cases hout.symm.trans hnone
  · exact absurd hunswitched (hswitches.not_unswitched 0 run.events)
  · cases hout.symm.trans hheld
    exact ⟨hengine, hordinary, p, hcause, hrun⟩

theorem create_loses_cause_when_close_fails :
    let b := { Backend.refusing ["set client_encoding to UTF8"] with
      close := fun _ n => (.error ⟨.os, "broken pipe"⟩, n) }
    let run := create b (Draft.server .pgsql "db" "app" "ada" "secret") none 0
    b.failures 0 run.events = [(.execute ⟨0⟩ "set client_encoding to UTF8" none, ⟨.driver, "refused"⟩),
        (.close ⟨0⟩, ⟨.os, "broken pipe"⟩)] ∧
      run.outcome = .error (.problem (.raised ⟨.os, "broken pipe"⟩)) :=
  ⟨rfl, rfl⟩

end Connection

end SqlBridge
