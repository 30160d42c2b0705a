import SqlBridge.Proofs.Driver.Failures
import SqlBridge.Proofs.Connection.Statements

namespace SqlBridge

open SqlBridge.Action

/-- Neither is a statement executed by the action, nor does a call of it raise a failure. -/
def Action.Silent {σ ε α : Type} (b : Backend σ) (x : Action σ ε α) : Prop :=
  ∀ w, x.EndsFrom b w fun _ events => executedStatements events = [] ∧ b.failures w events = []

namespace Connection

variable {σ ε α β : Type} {b : Backend σ} {c : Connection} {h : Handle}

/-- What the caller of a helper gets of a failure that the driver raised over a statement. A fatal one
passes every handler. -/
def statementFault (c : Connection) (sql : String) (failure : Failure) : Fault :=
  if failure.kind = .fatal then .problem (.raised failure)
  else .database ⟨.query sql (some failure.message), some c.info, some (.raised failure)⟩

/-- What one statement comes to that is sent through the open cursor of `h`, its failures told in the
terms of `fault`. None of them is one to open or to close the cursor. -/
inductive Sending (h : Handle) (sql : String) (fault : Failure → ε) :
    Except ε α → List String → List (Event × Failure) → Prop where
  | raised {event : Event} (hevent : event ≠ .cursorOpen h ∧ event ≠ .cursorClose h)
      (failure : Failure) : Sending h sql fault (.error (fault failure)) [sql] [(event, failure)]
  | answered (a : α) : Sending h sql fault (.ok a) [sql] []

/-- What a helper comes to that asks the driver at most once: its outcome, the statements that were
executed, and the failures that the driver raised. That no cursor can be opened is not made an error
about the statement, nor is it that the cursor does not close. -/
inductive Asking (c : Connection) (h : Handle) :
    Except Fault α → List String → List (Event × Failure) → Prop where
  | unasked (r : Except Fault α) : Asking c h r [] []
  | refused (failure : Failure) :
      Asking c h (.error (.problem (.raised failure))) [] [(.cursorOpen h, failure)]
  | failed (sql : String) {event : Event} (hevent : event ≠ .cursorOpen h ∧ event ≠ .cursorClose h)
      (failure : Failure) :
      Asking c h (.error (c.statementFault sql failure)) [sql] [(event, failure)]
  | unclosed (sql : String) {before : List (Event × Failure)}
      (hbefore : ∀ entry ∈ before, entry.1 ≠ .cursorOpen h ∧ entry.1 ≠ .cursorClose h)
      (failure : Failure) : Asking c h (.error (.problem (.raised failure))) [sql]
        (before ++ [(.cursorClose h, failure)])
  | answered (sql : String) (r : Except Fault α) : Asking c h r [sql] []

theorem statementFault_eq (c : Connection) (sql : String) (failure : Failure) :
    c.statementFault sql failure =
      if (Problem.raised failure).isFatal then .problem (.raised failure)
      else .database ⟨.query sql (some failure.message), some c.info, some (.raised failure)⟩ := by
  simp [statementFault, Problem.isFatal]

namespace Asking

variable {sent : List String} {failures : List (Event × Failure)}

theorem of_error {e : Fault} (hasking : c.Asking h (.error e : Except Fault α) sent failures) :
    c.Asking h (.error e : Except Fault β) sent failures := by
  cases hasking with
  | unasked => exact .unasked _
  | refused failure => exact .refused failure
  | failed sql hevent failure => exact .failed sql hevent failure
  | unclosed sql hbefore failure => exact .unclosed sql hbefore failure
  | answered sql => exact .answered sql _

/-- A helper that was answered may still fail over the answer. -/
theorem of_ok {a : α} (hasking : c.Asking h (.ok a) sent failures) (r : Except Fault β) :
    c.Asking h r sent failures := by
  cases hasking with
  | unasked => exact .unasked r
  | answered sql => exact .answered sql r

end Asking

/-- However the helper is run, it asks the driver at most once. -/
def AsksOnce (b : Backend σ) (c : Connection) (h : Handle) (x : Action σ Fault α) : Prop :=
  ∀ w, x.EndsFrom b w fun r events => c.Asking h r (executedStatements events) (b.failures w events)

theorem asksOnce_of_silent {x : Action σ Fault α} (hx : x.Silent b) : c.AsksOnce b h x := by
  intro w
  refine EndsFrom.mono (hx w) ?_
  rintro r events ⟨hsent, hfailures⟩
  rw [hsent, hfailures]
  exact .unasked r

theorem asksOnce_silent_bind {x : Action σ Fault α} {f : α → Action σ Fault β} (hx : x.Silent b)
    (hf : ∀ a, c.AsksOnce b h (f a)) : c.AsksOnce b h (x >>= f) := by
  intro w
  refine EndsFrom.bind (hx w) ?_ ?_
  · rintro e events ⟨hsent, hfailures⟩
    rw [hsent, hfailures]
    exact .unasked _
  · rintro a events ⟨hsent, hfailures⟩
    refine EndsFrom.mono (hf a _) ?_
    intro r later hasking
    rwa [executedStatements_append, hsent, b.failures_append, hfailures]

theorem AsksOnce.bind_silent {x : Action σ Fault α} {f : α → Action σ Fault β}
    (hx : c.AsksOnce b h x) (hf : ∀ a, (f a).Silent b) : c.AsksOnce b h (x >>= f) := by
  intro w
  refine EndsFrom.bind (hx w) (fun e events hasking => hasking.of_error) ?_
  intro a events hasking
  refine EndsFrom.mono (hf a _) ?_
  rintro r later ⟨hsent, hfailures⟩
  rw [executedStatements_append, hsent, b.failures_append, hfailures, List.append_nil, List.append_nil]
  exact hasking.of_ok r

theorem silent_pure (a : α) : (pure a : Action σ Fault α).Silent b :=
  fun _ => endsFrom_pure ⟨rfl, rfl⟩

theorem silent_ofExcept (r : Except Fault α) : (ofExcept r : Action σ Fault α).Silent b :=
  fun _ => endsFrom_ofExcept ⟨rfl, rfl⟩

theorem silent_observe (f : σ → Except Fault α) : (observe f).Silent b :=
  fun _ => endsFrom_observe ⟨rfl, rfl⟩

theorem silent_prepare (c : Connection) (sql : String) (vars : QueryVars) :
    (c.prepare sql vars : Action σ Fault String).Silent b := by
  intro w
  refine EndsFrom.ofExcept_bind (fun _ _ => ⟨rfl, rfl⟩) ?_
  intro text _
  by_cases hsame : text ≠ sql
  · simp only [hsame, ne_eq, not_false_eq_true, if_true]
    exact EndsFrom.log_bind (endsFrom_pure ⟨rfl, rfl⟩)
  · simp only [hsame, if_false]
    exact endsFrom_pure ⟨rfl, rfl⟩

/-- Every failure over a statement, and none other, is made an error about it. -/
theorem endsFrom_orQueryError {x : Action σ Problem α} {sql : String} {w : σ}
    (hx : x.EndsFrom b w fun r events =>
      Sending h sql Problem.raised r (executedStatements events) (b.failures w events)) :
    (c.orQueryError sql x).EndsFrom b w fun r events =>
      Sending h sql (c.statementFault sql) r (executedStatements events) (b.failures w events) := by
  refine EndsFrom.rescue hx ?_ ?_ ?_
  · intro a events hsending
    generalize executedStatements events = sent at hsending ⊢
    generalize b.failures w events = failures at hsending ⊢
    cases hsending
    exact .answered a
  · intro p events hfatal hsending
    generalize executedStatements events = sent at hsending ⊢
    generalize b.failures w events = failures at hsending ⊢
    cases hsending with
    | raised hevent failure =>
      have hraised : Sending h sql (c.statementFault sql)
          (.error (c.statementFault sql failure) : Except Fault α) _ _ := .raised hevent failure
      rwa [statementFault_eq, if_pos hfatal] at hraised
  · intro p events hordinary hsending
    refine endsFrom_fail ?_
    rw [List.append_nil]
    generalize executedStatements events = sent at hsending ⊢
    generalize b.failures w events = failures at hsending ⊢
    cases hsending with
    | raised hevent failure =>
      have hraised : Sending h sql (c.statementFault sql)
          (.error (c.statementFault sql failure) : Except Fault α) _ _ := .raised hevent failure
      rwa [statementFault_eq, if_neg (by simp [hordinary])] at hraised

namespace Sending

variable {sql : String} {fault : Failure → ε} {sent : List String} {failures : List (Event × Failure)}

theorem asking {r : Except Fault α} (hsending : Sending h sql (c.statementFault sql) r sent failures) :
    c.Asking h r sent failures := by
  cases hsending with
  | raised hevent failure => exact .failed sql hevent failure
  | answered a => exact .answered sql _

theorem asking_of_unclosed {r : Except ε α} (hsending : Sending h sql fault r sent failures)
    (failure : Failure) : c.Asking h (.error (.problem (.raised failure)) : Except Fault β) sent
      (failures ++ [(.cursorClose h, failure)]) := by
  cases hsending with
  | raised hevent failure' =>
    exact .unclosed sql (List.forall_mem_singleton.2 hevent) failure
  | answered => exact .unclosed sql (List.forall_mem_nil _) failure

theorem of_error {e : ε} (hsending : Sending h sql fault (.error e : Except ε α) sent failures) :
    Sending h sql fault (.error e : Except ε β) sent failures := by
  cases hsending with
  | raised hevent failure => exact .raised hevent failure

theorem map_ok {a : α} (hsending : Sending h sql fault (.ok a) sent failures) (a' : β) :
    Sending h sql fault (.ok a') sent failures := by
  cases hsending with
  | answered => exact .answered a'

end Sending

/-- A statement that is sent through a cursor of its own. -/
theorem asksOnce_cursor {body : Action σ Problem α} {sql : String}
    (hbody : ∀ w, body.EndsFrom b w fun r events =>
      Sending h sql Problem.raised r (executedStatements events) (b.failures w events)) :
    c.AsksOnce b h ((liftM (b.cursor h) : Action σ Fault Unit) >>= fun _ =>
      b.withOpenCursor h Fault.problem (c.orQueryError sql body)) := by
  intro w
  refine EndsFrom.bind (cursor_endsFrom h) ?_ ?_
  · rintro e events ⟨rfl, ⟨hr, -⟩ | ⟨failure, hr, hfailure⟩⟩
    · cases hr
    · cases hr
      rw [b.failures_singleton, hfailure]
      exact .refused failure
  · rintro _ events ⟨rfl, ⟨-, hnone⟩ | ⟨failure, hr, -⟩⟩
    · refine EndsFrom.withOpenCursor (endsFrom_orQueryError (hbody _)) ?_ ?_
      · intro r later hsending hclosed
        rw [List.singleton_append, executedStatements_withOpenCursor, b.failures_withOpenCursor hnone,
          hclosed, Option.map_none, Option.toList_none, List.append_nil]
        exact hsending.asking
      · intro r later failure hsending hfailure
        rw [List.singleton_append, executedStatements_withOpenCursor, b.failures_withOpenCursor hnone,
          hfailure]
        exact hsending.asking_of_unclosed failure
    · cases hr

theorem endsFrom_send {sql : String} {params : Value} {w : σ} :
    (send b h sql params).EndsFrom b w fun r events =>
      Sending h sql Problem.raised r (executedStatements events) (b.failures w events) := by
  have hlogged (event : Event) : b.failures w
      [.log .debug .connection ("Executing SQL: " ++ sql), event] = b.failures w [event] := rfl
  refine EndsFrom.log_bind (endsFrom_executing rfl ?_ ?_)
  · intro answered hnone
    rw [hlogged, b.failures_singleton, hnone]
    exact .answered answered
  · intro failure hfailure
    rw [hlogged, b.failures_singleton, hfailure]
    exact .raised (by simp) failure

/-- Once the statement is answered, its rows are fetched through the same cursor. -/
theorem Sending.fetched {sql : String} {answered : Answered} {events : List Event} {w : σ}
    (hsending : Sending h sql Problem.raised (.ok answered) (executedStatements events)
      (b.failures w events)) :
    (b.fetching h).EndsFrom b (b.after w events) fun r later => Sending h sql Problem.raised r
      (executedStatements (events ++ later)) (b.failures w (events ++ later)) := by
  have hanswered : executedStatements events = [sql] ∧ b.failures w events = [] := by
    generalize executedStatements events = sent at hsending
    generalize b.failures w events = failures at hsending
    cases hsending
    exact ⟨rfl, rfl⟩
  obtain ⟨hsent, hfailures⟩ := hanswered
  have hstatements : executedStatements (events ++ [.fetch h]) = [sql] := by
    rw [executedStatements_append, hsent]
    rfl
  have hraised : b.failures w (events ++ [.fetch h]) =
      ((b.failure? (b.after w events) (.fetch h)).map (.fetch h, ·)).toList := by
    rw [b.failures_append, hfailures, b.failures_singleton, List.nil_append]
  refine endsFrom_fetching ?_ ?_
  · intro rows hnone
    rw [hstatements, hraised, hnone]
    exact .answered rows
  · intro failure hfailure
    rw [hstatements, hraised, hfailure]
    exact .raised (by simp) failure

theorem fetchResult_asksOnce (hdriver : c.driver = some h) (sql : String) (params : Value) :
    c.AsksOnce b h (c.fetchResult b sql params) := by
  rw [fetchResult, live_eq hdriver]
  refine asksOnce_cursor fun w => ?_
  refine EndsFrom.bind endsFrom_send (fun p events hsending => hsending.of_error) ?_
  intro answered events hsending
  refine EndsFrom.bind hsending.fetched (fun p later hfetched => hfetched.of_error) ?_
  intro rows later hfetched
  refine endsFrom_pure ?_
  rw [List.append_nil]
  exact hfetched.map_ok _

theorem execute_asksOnce (hdriver : c.driver = some h) (sql : String) (params : Value)
    (vars : QueryVars) : c.AsksOnce b h (c.execute b sql params vars) := by
  refine asksOnce_silent_bind (silent_prepare c sql vars) fun text => ?_
  rw [live_eq hdriver]
  refine asksOnce_cursor fun w => ?_
  refine EndsFrom.bind endsFrom_send (fun p events hsending => hsending.of_error) ?_
  intro answered events hsending
  refine endsFrom_pure ?_
  rw [List.append_nil]
  exact hsending.map_ok _

theorem fetchRows_asksOnce (hdriver : c.driver = some h) (sql : String) (params : Value)
    (style : String) : c.AsksOnce b h (c.fetchRows b sql params style) :=
  (fetchResult_asksOnce hdriver sql params).bind_silent fun _ => silent_ofExcept _

theorem fetchAll_asksOnce (hdriver : c.driver = some h) (sql : String) (params : Value)
    (style : String) (vars : QueryVars) : c.AsksOnce b h (c.fetchAll b sql params style vars) :=
  asksOnce_silent_bind (silent_prepare c sql vars) fun text =>
    (fetchRows_asksOnce hdriver text params style).bind_silent fun _ => silent_pure _

theorem fetchRecord_asksOnce (hdriver : c.driver = some h) (sql : String) (params : Value)
    (style : String) (vars : QueryVars) : c.AsksOnce b h (c.fetchRecord b sql params style vars) :=
  asksOnce_silent_bind (silent_prepare c sql vars) fun text =>
    (fetchRows_asksOnce hdriver (limitToOne text) params style).bind_silent fun _ => silent_pure _

theorem fetchScalar_asksOnce (hdriver : c.driver = some h) (sql : String) (params default : Value)
    (vars : QueryVars) : c.AsksOnce b h (c.fetchScalar b sql params default vars) :=
  asksOnce_silent_bind (silent_prepare c sql vars) fun text =>
    (fetchResult_asksOnce hdriver (limitToOne text) params).bind_silent fun _ => silent_pure _

theorem count_asksOnce (hdriver : c.driver = some h) (table : String) (spec : Option WhereSpec)
    (params : Value) : c.AsksOnce b h (c.count b table spec params) :=
  asksOnce_silent_bind (silent_observe _) fun clause =>
    (fetchResult_asksOnce hdriver (limitToOne (countStatement table clause)) params).bind_silent
      fun _ => silent_ofExcept _

theorem databaseExists_asksOnce (hdriver : c.driver = some h) (name : String) :
    c.AsksOnce b h (c.databaseExists b name) := by
  rw [databaseExists]
  cases c.settings.engine.databaseExists name with
  | none => exact asksOnce_of_silent (silent_pure _)
  | some q =>
    dsimp only
    split_ifs
    · exact asksOnce_of_silent (silent_pure _)
    · exact (fetchScalar_asksOnce hdriver _ _ _ _).bind_silent fun _ => silent_pure _
    · exact (fetchScalar_asksOnce hdriver _ _ _ _).bind_silent fun _ => silent_pure _

theorem tableExists_asksOnce (hdriver : c.driver = some h) (table : String)
    (database : Option String) : c.AsksOnce b h (c.tableExists b table database) := by
  rw [tableExists]
  dsimp only
  split_ifs
  · exact asksOnce_of_silent (silent_pure _)
  · exact (fetchScalar_asksOnce hdriver _ _ _ _).bind_silent fun _ => silent_pure _
  · refine (fetchScalar_asksOnce hdriver _ _ _ _).bind_silent fun v w => ?_
    exact EndsFrom.ofExcept_bind (fun _ _ => ⟨rfl, rfl⟩) fun _ _ => endsFrom_pure ⟨rfl, rfl⟩

end Connection

namespace Request

variable {σ : Type} {b : Backend σ} {c : Connection} {h : Handle}

/-- The requests that ask the driver for the result of a statement. -/
def isQuery : Request → Bool
  | fetchAll _ _ _ _ | fetchRecord _ _ _ _ | fetchScalar _ _ _ _ | execute _ _ _ | count _ _ _
  | databaseExists _ | tableExists _ _ => true
  | formatWhere _ | quote _ _ | setCharset _ | state | enter | exit | close => false

theorem answer_asksOnce (hdriver : c.driver = some h) {request : Request}
    (hquery : request.isQuery = true) : c.AsksOnce b h (request.answer b c) := by
  cases request with
  | fetchAll sql params style vars =>
    exact (Connection.fetchAll_asksOnce hdriver sql params style vars).bind_silent
      fun _ => Connection.silent_pure _
  | fetchRecord sql params style vars =>
    exact (Connection.fetchRecord_asksOnce hdriver sql params style vars).bind_silent
      fun _ => Connection.silent_pure _
  | fetchScalar sql params default vars =>
    exact (Connection.fetchScalar_asksOnce hdriver sql params default vars).bind_silent
      fun _ => Connection.silent_pure _
  | execute sql params vars =>
    exact (Connection.execute_asksOnce hdriver sql params vars).bind_silent
      fun _ => Connection.silent_pure _
  | count table spec params =>
    exact (Connection.count_asksOnce hdriver table spec params).bind_silent
      fun _ => Connection.silent_pure _
  | databaseExists name =>
    exact (Connection.databaseExists_asksOnce hdriver name).bind_silent
      fun _ => Connection.silent_pure _
  | tableExists table database =>
    exact (Connection.tableExists_asksOnce hdriver table database).bind_silent
      fun _ => Connection.silent_pure _
  | formatWhere spec => cases hquery
  | quote v type => cases hquery
  | setCharset charset => cases hquery
  | state => cases hquery
  | enter => cases hquery
  | exit => cases hquery
  | close => cases hquery

/-- A failure that the driver raises over a statement ends a query as an error about that statement,
which has the failure as its cause and tells of the connection what may be told; a fatal failure passes
as it is. A failure to open the cursor is not handled at all: it too passes as it is, fatal or not. Nor
is a failure to close the cursor, which takes the place of all that came before it. The events account
for the world that the query leaves, so that no other call of it can raise. -/
theorem answer_surfaces_failures (b : Backend σ) (hdriver : c.driver = some h) (request : Request)
    (hquery : request.isQuery = true) (w : σ) :
    let run := request.answer b c w
    run.world = b.after w run.events ∧
    ∀ event failure, (event, failure) ∈ b.failures w run.events →
      (event = .cursorOpen h ∧ run.outcome = .error (.problem (.raised failure))) ∨
      (event = .cursorClose h ∧ run.outcome = .error (.problem (.raised failure))) ∨
      (event ≠ .cursorOpen h ∧ event ≠ .cursorClose h ∧
        ∃ sql, executedStatements run.events = [sql] ∧
        ((∀ closing, (.cursorClose h, closing) ∉ b.failures w run.events) → run.outcome = .error (
          if failure.kind = .fatal then .problem (.raised failure)
          else .database ⟨.query sql (some failure.message), some c.info, some (.raised failure)⟩))) := by
  intro run
  obtain ⟨hworld, hasking⟩ := answer_asksOnce (b := b) hdriver hquery w
  refine ⟨hworld, ?_⟩
  intro event failure hmem
  change c.Asking h run.outcome (executedStatements run.events) (b.failures w run.events) at hasking
  generalize run.outcome = r at hasking ⊢
  generalize executedStatements run.events = sent at hasking ⊢
  generalize b.failures w run.events = failures at hasking hmem ⊢
  cases hasking with
  | unasked => cases hmem
  | refused failure' =>
    obtain ⟨rfl, rfl⟩ := Prod.mk.inj (List.mem_singleton.1 hmem)
    exact .inl ⟨rfl, rfl⟩
  | failed sql hevent failure' =>
    obtain ⟨rfl, rfl⟩ := Prod.mk.inj (List.mem_singleton.1 hmem)
    exact .inr (.inr ⟨hevent.1, hevent.2, sql, rfl, fun _ => rfl⟩)
  | unclosed sql hbefore failure' =>
    rcases List.mem_append.1 hmem with hmem | hmem
    · obtain ⟨hopening, hclosing⟩ := hbefore _ hmem
      exact .inr (.inr ⟨hopening, hclosing, sql, rfl, fun hclosed =>
        absurd (List.mem_append_right _ (List.mem_singleton_self _)) (hclosed failure')⟩)
    · obtain ⟨rfl, rfl⟩ := Prod.mk.inj (List.mem_singleton.1 hmem)
      exact .inr (.inl ⟨rfl, rfl⟩)
  | answered => cases hmem

theorem answer_surfaces_failures_of_fetching :
    let b := { Backend.refusing [] with fetchAll := fun _ n => (.error ⟨.os, "gone away"⟩, n) }
    let c : Connection := ⟨{ engine := .sqlite, dbname := "shop" }, some ⟨0⟩⟩
    let run := (count "orders" none .null).answer b c 0
    c.driver = some ⟨0⟩ ∧ (count "orders" none .null).isQuery = true ∧
      b.failures 0 run.events = [(.fetch ⟨0⟩, ⟨.os, "gone away"⟩)] ∧
      run.outcome = .error (.database ⟨.query "SELECT COUNT(*) AS cnt FROM orders LIMIT 1"
        (some "gone away"), some c.info, some (.raised ⟨.os, "gone away"⟩)⟩) := by
  intro b c run
  have hraised : b.failures 0 run.events = [(.fetch ⟨0⟩, ⟨.os, "gone away"⟩)] := rfl
  have hsent : executedStatements run.events = ["SELECT COUNT(*) AS cnt FROM orders LIMIT 1"] := by
    decide +kernel
  refine ⟨rfl, rfl, hraised, ?_⟩
  obtain ⟨-, hsurfaces⟩ := answer_surfaces_failures b (show c.driver = some ⟨0⟩ from rfl)
    (count "orders" none .null) rfl 0
  obtain ⟨hcursor, -⟩ | ⟨hcursor, -⟩ | ⟨-, -, sql, hsql, houtcome⟩ :=
    hsurfaces (.fetch ⟨0⟩) ⟨.os, "gone away"⟩ (by rw [hraised]; exact List.mem_singleton_self _)
  · cases hcursor
  · cases hcursor
  · obtain rfl : sql = "SELECT COUNT(*) AS cnt FROM orders LIMIT 1" :=
      (List.singleton_inj.1 (hsent.symm.trans hsql)).symm
    refine houtcome fun closing hmem => ?_
    rw [hraised] at hmem
    simp at hmem

/-- An ordinary failure to open a cursor reaches the caller of a query, not an error about the
statement. -/
theorem answer_cursor_failure_unwrapped :
    let b := { Backend.refusing [] with openCursor := fun _ n => (.error ⟨.driver, "no cursor left"⟩, n) }
    let c : Connection := ⟨{ engine := .sqlite, dbname := "app", alwaysParse := false }, some ⟨0⟩⟩
    let run := (execute "DELETE FROM t" .null []).answer b c 0
    b.failures 0 run.events = [(.cursorOpen ⟨0⟩, ⟨.driver, "no cursor left"⟩)] ∧
      run.outcome = .error (.problem (.raised ⟨.driver, "no cursor left"⟩)) ∧
      ∀ e, run.outcome ≠ .error (.database e) := by
  intro b c run
  have houtcome : run.outcome = .error (.problem (.raised ⟨.driver, "no cursor left"⟩)) := rfl
  refine ⟨rfl, houtcome, ?_⟩
  intro e he
  rw [houtcome] at he
  cases he

end Request

end SqlBridge
