import SqlBridge.Proofs.Clause.Faults
import SqlBridge.Proofs.Connection.Statements
import SqlBridge.Proofs.Driver.Executions

namespace SqlBridge

open SqlBridge.Action

namespace Connection

variable {σ : Type} {b : Backend σ} {c : Connection} {h : Handle} {w : σ}

/-- A statement as it is sent: parameters are passed unless there are none. -/
def executionOf (h : Handle) (sql : String) (params : Value) : Execution :=
  ⟨h, sql, if params.truthy then some params else none⟩

theorem send_executes (h : Handle) (sql : String) (params : Value) :
    (send b h sql params).Executes b w [executionOf h sql params] :=
  EndsFrom.log_bind (endsFrom_executing rfl (fun _ _ => rfl) fun _ _ => rfl)

theorem orQueryError_executes {α : Type} {x : Action σ Problem α} {sent : List Execution}
    (hx : x.Executes b w sent) (sql : String) : (c.orQueryError sql x).Executes b w sent := by
  refine EndsFrom.rescue hx (fun _ _ hsent => hsent) (fun _ _ _ hsent => hsent) ?_
  intro p events _ hsent
  refine endsFrom_fail ?_
  rwa [List.append_nil]

theorem fetchResult_executes (hdriver : c.driver = some h) (hopens : (b.openCursor h w).1 = .ok ())
    (sql : String) (params : Value) :
    (c.fetchResult b sql params).Executes b w [executionOf h sql params] := by
  rw [fetchResult, live_eq hdriver]
  refine executes_cursor hopens fun w => orQueryError_executes ?_ sql
  refine (send_executes h sql params).bind fun answered w => ?_
  exact (executesNothing_fetching h w).bind fun rows => executesNothing_pure _

theorem fetchResult_executes_of_failure {failure : Failure} (hdriver : c.driver = some h)
    (hfails : (b.openCursor h w).1 = .error failure) (sql : String) (params : Value) :
    (c.fetchResult b sql params).Executes b w [] := by
  rw [fetchResult, live_eq hdriver]
  exact executes_cursor_of_failure hfails

theorem fetchRows_executes (hdriver : c.driver = some h) (hopens : (b.openCursor h w).1 = .ok ())
    (sql : String) (params : Value) (style : String) :
    (c.fetchRows b sql params style).Executes b w [executionOf h sql params] :=
  (fetchResult_executes hdriver hopens sql params).bind fun _ => executesNothing_ofExcept _

/-- A template that cannot be resolved ends all that begins with it, before anything can be seen. -/
theorem prepare_bind_of_error {α : Type} {sql : String} {vars : QueryVars} {fault : Fault}
    {f : String → Action σ Fault α} (hfault : c.statementFor sql vars = .error fault) :
    (c.prepare sql vars >>= f) w = ⟨.error fault, [], w⟩ := by
  refine bind_eq_of_error ?_
  rw [prepare, hfault]
  rfl

/-- Resolving a template comes to its text and leaves the world alone; it may be logged. -/
theorem prepare_endsFrom {sql text : String} {vars : QueryVars}
    (htext : c.statementFor sql vars = .ok text) :
    (c.prepare sql vars : Action σ Fault String).EndsFrom b w fun r events =>
      r = .ok text ∧ b.after w events = w ∧ ∀ event ∈ events, event.isLog = true := by
  rw [prepare, htext]
  by_cases hsame : text = sql
  · change (if text ≠ sql then _ else _ : Action σ Fault String).EndsFrom b w _
    rw [if_neg (not_not.2 hsame)]
    exact endsFrom_pure ⟨rfl, rfl, by simp⟩
  · change (if text ≠ sql then _ else _ : Action σ Fault String).EndsFrom b w _
    rw [if_pos hsame]
    exact EndsFrom.log_bind (endsFrom_pure ⟨rfl, rfl, by simp [Event.isLog]⟩)

/-- What is done with a template after it was resolved is done from the same world. -/
theorem prepare_bind_executes {α : Type} {sql text : String} {vars : QueryVars}
    {f : String → Action σ Fault α} {sent : List Execution}
    (htext : c.statementFor sql vars = .ok text) (hf : (f text).Executes b w sent) :
    (c.prepare sql vars >>= f).Executes b w sent := by
  refine EndsFrom.bind (prepare_endsFrom htext) ?_ ?_
  · rintro fault events ⟨hr, -⟩
    cases hr
  · rintro _ events ⟨⟨⟩, hworld, hlogs⟩
    rw [hworld]
    refine EndsFrom.mono hf ?_
    intro r later hsent
    rw [executions_append, executions_eq_nil hlogs, hsent, List.nil_append]

theorem execute_executes (hdriver : c.driver = some h) (hopens : (b.openCursor h w).1 = .ok ())
    {sql text : String} {vars : QueryVars} (htext : c.statementFor sql vars = .ok text)
    (params : Value) :
    (c.execute b sql params vars).Executes b w [executionOf h text params] := by
  refine prepare_bind_executes htext ?_
  rw [live_eq hdriver]
  refine executes_cursor hopens fun w => orQueryError_executes ?_ text
  exact (send_executes h text params).bind fun _ => executesNothing_pure _

/-- Once its clause is written, counting sends what the query for the result sends. -/
theorem count_executes_of_clause {table clause : String} {spec : Option WhereSpec} {params : Value}
    {sent : List Execution} (hclause : (c.formatWhere b spec w).outcome = .ok clause)
    (hresult : (c.fetchResult b (limitToOne (countStatement table clause)) params).Executes b w sent) :
    (c.count b table spec params).Executes b w sent := by
  have hwritten : (c.formatWhere b spec).EndsFrom b w fun r events => r = .ok clause ∧ events = [] :=
    endsFrom_observe ⟨hclause, rfl⟩
  refine EndsFrom.bind hwritten ?_ ?_
  · rintro fault events ⟨hr, -⟩
    cases hr
  · rintro _ _ ⟨⟨⟩, rfl⟩
    exact hresult.bind fun _ => executesNothing_ofExcept _

theorem count_executes (hdriver : c.driver = some h) (hopens : (b.openCursor h w).1 = .ok ())
    {table clause : String} {spec : Option WhereSpec}
    (hclause : (c.formatWhere b spec w).outcome = .ok clause) (params : Value) :
    (c.count b table spec params).Executes b w
      [executionOf h (limitToOne (countStatement table clause)) params] :=
  count_executes_of_clause hclause (fetchResult_executes hdriver hopens _ params)

end Connection

/-- The complaint is about a query variable. -/
def Complaint.isAboutVariable : Complaint → Bool
  | invalidVariable _ _ | missingVariable _ _ => true
  | general _ | connection _ | query _ _ => false

/-- The fault is no error about a query variable. -/
def Fault.SparesVariables (fault : Fault) : Prop :=
  ∀ e, fault = .database e → e.complaint.isAboutVariable = false

namespace Connection

variable {σ : Type} {b : Backend σ} {c : Connection} {w : σ}

theorem sparesVariables_problem (p : Problem) : (Fault.problem p).SparesVariables :=
  fun _ hdatabase => nomatch hdatabase

theorem quoter_sparesVariables {v : Value} {type : Option ParamType} {fault : Fault}
    (hquote : c.quoter b w v type = .error fault) : fault.SparesVariables := by
  rw [quoter] at hquote
  cases hdriver : c.driver with
  | none =>
    rw [live_eq_error hdriver] at hquote
    cases hquote
    rintro _ ⟨rfl⟩
    rfl
  | some h =>
    rw [live_eq hdriver] at hquote
    change (Adapter.quote b c.settings.engine h v type w).mapError Fault.problem = _ at hquote
    cases hadapter : Adapter.quote b c.settings.engine h v type w with
    | ok text =>
      rw [hadapter] at hquote
      cases hquote
    | error p =>
      rw [hadapter] at hquote
      cases hquote
      exact sparesVariables_problem p

theorem fetchResult_sparesVariables (c : Connection) (sql : String) (params : Value) :
    (c.fetchResult b sql params).RaisesOnly Fault.SparesVariables := by
  refine (raisesOnly_ofExcept fun fault hlive => ?_).bind fun h =>
    (raisesOnly_lift sparesVariables_problem _).bind fun _ => ?_
  · cases hdriver : c.driver with
    | some h =>
      rw [live_eq hdriver] at hlive
      cases hlive
    | none =>
      rw [live_eq_error hdriver] at hlive
      cases hlive
      rintro _ ⟨rfl⟩
      rfl
  · refine RaisesOnly.withOpenCursor (raisesOnly_rescue sparesVariables_problem
      fun p w fault hraised => ?_) sparesVariables_problem h
    cases hraised
    rintro _ ⟨rfl⟩
    rfl

/-- To count rows never fails over a query variable, also when the clause cannot be written or the
connection is closed. -/
theorem count_sparesVariables (c : Connection) (table : String) (spec : Option WhereSpec)
    (params : Value) : (c.count b table spec params).RaisesOnly Fault.SparesVariables := by
  refine (raisesOnly_observe fun w fault hrefused => ?_).bind fun clause =>
    (fetchResult_sparesVariables c _ params).bind fun result => raisesOnly_ofExcept fun fault hcount => ?_
  · rcases formatWhere_eq_error hrefused with ⟨p, rfl⟩ | ⟨v, type, hquote⟩
    · exact sparesVariables_problem p
    · exact quoter_sparesVariables hquote
  · cases hresult : result.count with
    | ok n =>
      rw [hresult] at hcount
      cases hcount
    | error p =>
      rw [hresult] at hcount
      cases hcount
      exact sparesVariables_problem p

end Connection

namespace Request

variable {σ : Type}

/-- The template, the parameters and the query variables of a request that has them. -/
def template? : Request → Option (String × Value × QueryVars)
  | fetchAll sql params _ vars | fetchRecord sql params _ vars | fetchScalar sql params _ vars
  | execute sql params vars => some (sql, params, vars)
  | _ => none

/-- The statement that a request sends once its template is resolved to a text. -/
def statementOf (text : String) : Request → String
  | fetchRecord _ _ _ _ | fetchScalar _ _ _ _ => limitToOne text
  | _ => text

theorem answer_of_unresolved {b : Backend σ} {c : Connection} {request : Request} {sql : String}
    {params : Value} {vars : QueryVars} {fault : Fault} {w : σ}
    (htemplate : request.template? = some (sql, params, vars))
    (hfault : c.statementFor sql vars = .error fault) :
    request.answer b c w = ⟨.error fault, [], w⟩ := by
  cases request with
  | fetchAll | fetchRecord | fetchScalar | execute =>
    cases htemplate
    exact bind_eq_of_error (Connection.prepare_bind_of_error hfault)
  | _ => cases htemplate

theorem answer_executes_of_resolved {b : Backend σ} {c : Connection} {request : Request}
    {sql text : String} {params : Value} {vars : QueryVars} {h : Handle} {w : σ}
    (htemplate : request.template? = some (sql, params, vars))
    (htext : c.statementFor sql vars = .ok text) (hdriver : c.driver = some h)
    (hopens : (b.openCursor h w).1 = .ok ()) :
    (request.answer b c).Executes b w [Connection.executionOf h (request.statementOf text) params] := by
  cases request with
  | fetchAll _ _ style _ =>
    cases htemplate
    refine Executes.bind (Connection.prepare_bind_executes htext ?_) fun _ => executesNothing_pure _
    exact (Connection.fetchRows_executes hdriver hopens text params style).bind
      fun _ => executesNothing_pure _
  | fetchRecord _ _ style _ =>
    cases htemplate
    refine Executes.bind (Connection.prepare_bind_executes htext ?_) fun _ => executesNothing_pure _
    exact (Connection.fetchRows_executes hdriver hopens (limitToOne text) params style).bind
      fun _ => executesNothing_pure _
  | fetchScalar =>
    cases htemplate
    refine Executes.bind (Connection.prepare_bind_executes htext ?_) fun _ => executesNothing_pure _
    exact (Connection.fetchResult_executes hdriver hopens (limitToOne text) params).bind
      fun _ => executesNothing_pure _
  | execute =>
    cases htemplate
    exact (Connection.execute_executes hdriver hopens htext params).bind
      fun _ => executesNothing_pure _
  | _ => cases htemplate

/-- What a query sends. Its template stays as it is when there are no variables and the connection is
not set to look for placeholders, and is resolved else. One that does not resolve is reported before
anything is done, be the connection open or closed. One that does is executed once, limited to one row
where one row is asked for, and with its parameters unless there are none. To count rows resolves
nothing: the statement is made of the table and the clause as they are, the same whether the connection
is set to look for placeholders or not, and no variable is ever missed. -/
theorem answer_executes_resolved_template (b : Backend σ) (c : Connection) (w : σ) :
    (∀ request sql params vars, template? request = some (sql, params, vars) →
      let resolved : Except Fault String :=
        if vars = [] ∧ c.settings.alwaysParse = false then .ok sql else render sql vars (some c.info)
      (∀ fault, resolved = .error fault → request.answer b c w = ⟨.error fault, [], w⟩) ∧
      ∀ text h, resolved = .ok text → c.driver = some h → (b.openCursor h w).1 = .ok () →
        executions (request.answer b c w).events =
          [⟨h, request.statementOf text, if params.truthy then some params else none⟩]) ∧
    ∀ table spec params,
      (∀ clause h, (c.formatWhere b spec w).outcome = .ok clause → c.driver = some h →
        (b.openCursor h w).1 = .ok () →
        executions ((count table spec params).answer b c w).events =
          [⟨h, limitToOne ("SELECT COUNT(*) AS cnt FROM " ++ table ++ clause),
            if params.truthy then some params else none⟩]) ∧
      (∀ e, ((count table spec params).answer b c w).outcome = .error (.database e) →
        e.complaint.isAboutVariable = false) ∧
      ∀ alwaysParse, Connection.count b { c with settings := { c.settings with alwaysParse } } table spec
        params = c.count b table spec params := by
  refine ⟨?_, ?_⟩
  · intro request sql params vars htemplate resolved
    have hresolved : resolved = c.statementFor sql vars := by
      simp only [resolved, Connection.statementFor, List.isEmpty_iff, Bool.and_eq_true,
        Bool.not_eq_true']
    rw [hresolved]
    refine ⟨fun fault hfault => answer_of_unresolved htemplate hfault, ?_⟩
    intro text h htext hdriver hopens
    exact (answer_executes_of_resolved htemplate htext hdriver hopens).2
  · intro table spec params
    refine ⟨?_, ?_, fun _ => rfl⟩
    · intro clause h hclause hdriver hopens
      exact ((Connection.count_executes hdriver hopens hclause params).bind
        fun _ => executesNothing_pure _).2
    · intro e hraised
      exact (Connection.count_sparesVariables c table spec params).bind
        (fun _ => raisesOnly_pure _) w _ hraised e rfl

theorem answer_executes_resolved_template_with_limit :
    let b := Backend.refusing []
    let opened : Connection := ⟨{ engine := .sqlite, dbname := "shop" }, some ⟨0⟩⟩
    let closed : Connection := { opened with driver := none }
    let limited := fetchRecord "SELECT id FROM t {$LIM}" (.list []) "num" [("LIM", .text "LIMIT 5")]
    let counting := count "t" (some (.raw (.text "name = '{$X}'"))) (.list [.int 1])
    executions (limited.answer b opened 0).events = [⟨⟨0⟩, "SELECT id FROM t LIMIT 5", none⟩] ∧
      (execute "DELETE FROM t_{$X}" .null []).answer b closed 0 = ⟨.error (.database
        ⟨.missingVariable "X" "DELETE FROM t_{$X}", some closed.info, none⟩), [], 0⟩ ∧
      executions (counting.answer b opened 0).events =
        [⟨⟨0⟩, "SELECT COUNT(*) AS cnt FROM t WHERE name = '{$X}' LIMIT 1", some (.list [.int 1])⟩] ∧
      ∃ e, (counting.answer b closed 0).outcome = .error (.database e) ∧
        e.complaint.isAboutVariable = false := by
  intro b opened closed limited counting
  obtain ⟨hopened, hcount⟩ := answer_executes_resolved_template b opened 0
  obtain ⟨hclosed, hcountClosed⟩ := answer_executes_resolved_template b closed 0
  have hlimit : limitToOne "SELECT id FROM t LIMIT 5" = "SELECT id FROM t LIMIT 5" := by decide +kernel
  have hclause : rawClause "name = '{$X}'".toList = " WHERE name = '{$X}'" := by decide +kernel
  have hcounted : limitToOne ("SELECT COUNT(*) AS cnt FROM " ++ "t" ++ " WHERE name = '{$X}'") =
      "SELECT COUNT(*) AS cnt FROM t WHERE name = '{$X}' LIMIT 1" := by decide +kernel
  refine ⟨?_, ?_, ?_, _, rfl, ?_⟩
  · have hsent := (hopened limited _ _ _ rfl).2 "SELECT id FROM t LIMIT 5" ⟨0⟩ (by cbv) rfl rfl
    rwa [statementOf, hlimit] at hsent
  · exact (hclosed (execute "DELETE FROM t_{$X}" .null []) _ _ _ rfl).1 _ (by cbv)
  · have hsent := (hcount "t" (some (.raw (.text "name = '{$X}'"))) (.list [.int 1])).1
      " WHERE name = '{$X}'" ⟨0⟩ (congrArg Except.ok hclause) rfl rfl
    rwa [hcounted] at hsent
  · exact (hcountClosed "t" (some (.raw (.text "name = '{$X}'"))) (.list [.int 1])).2.1 _ rfl

end Request

end SqlBridge
