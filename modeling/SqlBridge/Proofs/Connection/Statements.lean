import SqlBridge.Proofs.Driver.Interaction
import SqlBridge.Session

namespace SqlBridge

open SqlBridge.Action

namespace Interaction

/-- The driver connection that an interaction is with, once there is one. -/
def handle? : Interaction → Option Handle
  | connect _ _ _ => none
  | autocommit h _ | refusal h | cursor h _ _ | close h _ => some h

/-- The statement that is executed, if one is. -/
def statement? : Interaction → Option String
  | cursor _ work _ => work.statement?
  | _ => none

end Interaction

namespace Connection

variable {σ : Type} {b : Backend σ} {c : Connection}

/-- All is done with the driver of the connection, and only allowed statements are executed. -/
def Uses (c : Connection) (allowed : String → Prop) (parts : List Interaction) : Prop :=
  ∀ part ∈ parts, ∃ h, c.driver = some h ∧ part.handle? = some h ∧
    ∀ sql, part.statement? = some sql → allowed sql

theorem uses_nil {allowed : String → Prop} : c.Uses allowed [] := by
  simp [Uses]

theorem Uses.mono {allowed allowed' : String → Prop} {parts : List Interaction}
    (hparts : c.Uses allowed parts) (himp : ∀ sql, allowed sql → allowed' sql) :
    c.Uses allowed' parts := by
  intro part hmem
  obtain ⟨h, hdriver, hhandle, hallowed⟩ := hparts part hmem
  exact ⟨h, hdriver, hhandle, fun sql hsql => himp sql (hallowed sql hsql)⟩

theorem uses_refusal {allowed : String → Prop} {h : Handle} (hdriver : c.driver = some h) :
    c.Uses allowed [.refusal h] := by
  simp [Uses, hdriver, Interaction.handle?, Interaction.statement?]

theorem uses_cursor {allowed : String → Prop} {h : Handle} {work : CursorWork} {closing : Reply}
    (hdriver : c.driver = some h) (hwork : ∀ sql, work.statement? = some sql → allowed sql) :
    c.Uses allowed [.cursor h work closing] := by
  simpa [Uses, hdriver, Interaction.handle?, Interaction.statement?] using hwork

theorem uses_close {allowed : String → Prop} {h : Handle} {reply : Reply}
    (hdriver : c.driver = some h) : c.Uses allowed [.close h reply] := by
  simp [Uses, hdriver, Interaction.handle?, Interaction.statement?]

theorem live_eq {h : Handle} (hdriver : c.driver = some h) : c.live = .ok h := by
  rw [live, hdriver]

theorem live_eq_error (hdriver : c.driver = none) :
    c.live = .error (failed c.info "Connection is closed" none) := by
  rw [live, hdriver]

theorem ends_orQueryError {α : Type} {x : Action σ Problem α} {sql : String} {P : List Call → Prop}
    (hx : x.Ends b fun _ calls => P calls) :
    (c.orQueryError sql x).Ends b fun _ calls => P calls := by
  refine Ends.rescue hx (fun _ _ hP => hP) (fun _ _ _ hP => hP) ?_
  intro p calls _ hP
  refine ends_fail ?_
  rwa [List.append_nil]

theorem ends_send {h : Handle} {sql : String} {params : Value} :
    (send b h sql params).Ends b fun r calls => ∃ reply, driverCalls calls =
      [⟨.execute h sql (if params.truthy then some params else none), reply⟩] ∧
        (∀ answered, r = .ok answered → reply = .returned) := by
  refine Ends.bind (ends_log (Q := fun r calls => r = .ok () ∧ driverCalls calls = []) ⟨rfl, rfl⟩)
    ?_ ?_
  · rintro e calls ⟨hok, -⟩
    cases hok
  · rintro _ calls ⟨-, hsilent⟩
    refine ends_executing ?_ ?_
    · intro answered
      refine ⟨.returned, ?_, fun _ _ => rfl⟩
      rw [driverCalls_append, hsilent]
      rfl
    · intro failure
      refine ⟨.raised, ?_, fun _ hr => by cases hr⟩
      rw [driverCalls_append, hsilent]
      rfl

/-- A cursor that works for allowed statements. -/
theorem interacts_cursor_uses {α : Type} {x : Action σ Fault α} {h : Handle} {allowed : String → Prop}
    (hdriver : c.driver = some h)
    (hx : x.Ends b fun _ calls => ∃ work : CursorWork, driverCalls calls = work.calls h ∧
      ∀ sql, work.statement? = some sql → allowed sql) :
    ((liftM (b.cursor h) : Action σ Fault Unit) >>= fun _ =>
      b.withOpenCursor h Fault.problem x).Interacts b fun _ parts => c.Uses allowed parts := by
  refine interacts_cursor Fault.problem rfl (fun _ => uses_refusal hdriver) (Ends.mono hx ?_)
  rintro r calls ⟨work, hwork, hallowed⟩
  exact ⟨work, hwork, uses_cursor hdriver hallowed, fun _ => uses_cursor hdriver hallowed⟩

theorem fetchResult_interacts (c : Connection) (sql : String) (params : Value) :
    (c.fetchResult b sql params).Interacts b fun _ parts => c.Uses (· = sql) parts := by
  cases hdriver : c.driver with
  | none =>
    rw [fetchResult, live_eq_error hdriver]
    exact interacts_fail uses_nil
  | some h =>
    rw [fetchResult, live_eq hdriver]
    refine interacts_cursor_uses hdriver (ends_orQueryError (P := fun calls =>
      ∃ work : CursorWork, driverCalls calls = work.calls h ∧
        ∀ text, work.statement? = some text → text = sql) ?_)
    refine Ends.bind ends_send ?_ ?_
    · rintro e calls ⟨reply, hcalls, -⟩
      refine ⟨.executed sql _ reply, hcalls, ?_⟩
      rintro _ ⟨rfl⟩
      rfl
    · rintro answered calls ⟨reply, hcalls, hreply⟩
      obtain rfl := hreply answered rfl
      have hfetched (reply : Reply) : ∃ work : CursorWork,
          driverCalls (calls ++ [⟨.fetch h, reply⟩]) = work.calls h ∧
            ∀ text, work.statement? = some text → text = sql := by
        refine ⟨.fetched sql (if params.truthy then some params else none) reply, ?_, ?_⟩
        · rw [driverCalls_append, hcalls]
          rfl
        · rintro _ ⟨rfl⟩
          rfl
      refine Ends.bind (ends_fetching (Q := fun _ calls => ∃ reply, calls = [⟨.fetch h, reply⟩])
        (fun _ => ⟨_, rfl⟩) (fun _ => ⟨_, rfl⟩)) ?_ ?_
      · rintro e _ ⟨reply, rfl⟩
        exact hfetched reply
      · rintro rows _ ⟨reply, rfl⟩
        refine ends_pure ?_
        rw [List.append_nil]
        exact hfetched reply

theorem prepare_interacts (c : Connection) (sql : String) (vars : QueryVars) :
    (c.prepare sql vars : Action σ Fault String).Interacts b fun r parts =>
      r = c.statementFor sql vars ∧ parts = [] := by
  refine Interacts.ofExcept_bind (fun e hr => ⟨hr.symm, rfl⟩) ?_
  intro text htext
  by_cases hsame : text ≠ sql
  · simp only [hsame, ne_eq, not_false_eq_true, if_true]
    exact Interacts.log_bind (interacts_pure ⟨htext.symm, rfl⟩)
  · simp only [hsame, if_false]
    exact interacts_pure ⟨htext.symm, rfl⟩

theorem fetchRows_interacts (c : Connection) (sql : String) (params : Value) (style : String) :
    (c.fetchRows b sql params style).Interacts b fun _ parts => c.Uses (· = sql) parts := by
  exact (fetchResult_interacts c sql params).bind_ofExcept (fun _ _ huses => huses)
    fun _ _ huses => huses

/-- What is done with a statement after its placeholders were replaced is done with the text that
they were replaced to. -/
theorem interacts_of_prepare {α : Type} {c : Connection} {sql : String} {vars : QueryVars}
    {f : String → Action σ Fault α} {allowed : String → Prop}
    (hf : ∀ text, c.statementFor sql vars = .ok text →
      (f text).Interacts b fun _ parts => c.Uses allowed parts) :
    (c.prepare sql vars >>= f).Interacts b fun _ parts => c.Uses allowed parts := by
  refine Interacts.bind (prepare_interacts c sql vars) ?_ ?_
  · rintro e _ ⟨-, rfl⟩
    exact uses_nil
  · rintro text _ ⟨htext, rfl⟩
    exact hf text htext.symm

theorem interacts_map_pure {α β : Type} {x : Action σ Fault α} {f : α → β}
    {P : List Interaction → Prop} (hx : x.Interacts b fun _ parts => P parts) :
    (x >>= fun a => (pure (f a) : Action σ Fault β)).Interacts b fun _ parts => P parts :=
  hx.bind_pure (fun _ _ hP => hP) fun _ _ hP => hP

theorem fetchAll_interacts (c : Connection) (sql : String) (params : Value) (style : String)
    (vars : QueryVars) : (c.fetchAll b sql params style vars).Interacts b fun _ parts =>
      c.Uses (fun text => c.statementFor sql vars = .ok text) parts := by
  refine interacts_of_prepare fun text htext => interacts_map_pure ?_
  refine Interacts.mono (fetchRows_interacts c text params style) ?_
  rintro _ parts huses
  exact huses.mono fun _ hsql => hsql ▸ htext

theorem fetchRecord_interacts (c : Connection) (sql : String) (params : Value) (style : String)
    (vars : QueryVars) : (c.fetchRecord b sql params style vars).Interacts b fun _ parts =>
      c.Uses (fun text => ∃ s, c.statementFor sql vars = .ok s ∧ text = limitToOne s) parts := by
  refine interacts_of_prepare fun s hs => interacts_map_pure ?_
  refine Interacts.mono (fetchRows_interacts c (limitToOne s) params style) ?_
  rintro _ parts huses
  exact huses.mono fun text htext => ⟨s, hs, htext⟩

theorem fetchScalar_interacts (c : Connection) (sql : String) (params default : Value)
    (vars : QueryVars) : (c.fetchScalar b sql params default vars).Interacts b fun _ parts =>
      c.Uses (fun text => ∃ s, c.statementFor sql vars = .ok s ∧ text = limitToOne s) parts := by
  refine interacts_of_prepare fun s hs => interacts_map_pure ?_
  refine Interacts.mono (fetchResult_interacts c (limitToOne s) params) ?_
  rintro _ parts huses
  exact huses.mono fun text htext => ⟨s, hs, htext⟩

theorem execute_interacts (c : Connection) (sql : String) (params : Value) (vars : QueryVars) :
    (c.execute b sql params vars).Interacts b fun _ parts =>
      c.Uses (fun text => c.statementFor sql vars = .ok text) parts := by
  refine interacts_of_prepare fun text htext => ?_
  cases hdriver : c.driver with
  | none =>
    rw [live_eq_error hdriver]
    exact interacts_fail uses_nil
  | some h =>
    rw [live_eq hdriver]
    refine interacts_cursor_uses hdriver (ends_orQueryError (P := fun calls =>
      ∃ work : CursorWork, driverCalls calls = work.calls h ∧
        ∀ text, work.statement? = some text → c.statementFor sql vars = .ok text) ?_)
    have hexecuted {calls : List Call} {reply : Reply} (hcalls : driverCalls calls =
        [⟨.execute h text (if params.truthy then some params else none), reply⟩]) :
        ∃ work : CursorWork, driverCalls calls = work.calls h ∧
          ∀ text, work.statement? = some text → c.statementFor sql vars = .ok text := by
      refine ⟨.executed text _ reply, hcalls, ?_⟩
      rintro _ ⟨rfl⟩
      exact htext
    refine Ends.bind ends_send ?_ ?_
    · rintro e calls ⟨reply, hcalls, -⟩
      exact hexecuted hcalls
    · rintro answered calls ⟨reply, hcalls, -⟩
      refine ends_pure ?_
      rw [List.append_nil]
      exact hexecuted hcalls

theorem count_interacts (c : Connection) (table : String) (spec : Option WhereSpec)
    (params : Value) : (c.count b table spec params).Interacts b fun _ parts =>
      c.Uses (fun text => ∃ clause, text = limitToOne (countStatement table clause)) parts := by
  refine Interacts.bind (interacts_observe (Q := fun _ parts => parts = []) fun _ => rfl) ?_ ?_
  · rintro e _ rfl
    exact uses_nil
  · rintro clause _ rfl
    have hresult : (c.fetchResult b (limitToOne (countStatement table clause)) params).Interacts b
        fun _ parts => c.Uses (fun text => ∃ clause, text = limitToOne (countStatement table clause))
          parts :=
      (fetchResult_interacts c _ params).mono fun _ _ huses =>
        huses.mono fun text htext => ⟨clause, htext⟩
    exact hresult.bind_ofExcept (fun _ _ huses => huses) fun _ _ huses => huses

theorem databaseExists_interacts (c : Connection) (name : String) :
    (c.databaseExists b name).Interacts b fun _ parts =>
      c.Uses (fun text => ∃ q s, c.settings.engine.databaseExists name = some q ∧
        c.statementFor q.sql [] = .ok s ∧ text = limitToOne s) parts := by
  rw [databaseExists]
  cases hquery : c.settings.engine.databaseExists name with
  | none => exact interacts_pure uses_nil
  | some q =>
    have hscalar (default : Value) : (c.fetchScalar b q.sql q.arguments default []).Interacts b
        fun _ parts => c.Uses (fun text => ∃ q' s, some q = some q' ∧
          c.statementFor q'.sql [] = .ok s ∧ text = limitToOne s) parts := by
      refine (fetchScalar_interacts c q.sql q.arguments default []).mono ?_
      rintro _ parts huses
      exact huses.mono fun text ⟨s, hs, htext⟩ => ⟨q, s, rfl, hs, htext⟩
    by_cases hname : isDatabaseName name = true
    · by_cases hengine : c.settings.engine = .pgsql
      · simp only [hname, hengine, Bool.not_true, Bool.false_eq_true, if_false, if_true]
        exact interacts_map_pure (hscalar _)
      · simp only [hname, hengine, Bool.not_true, Bool.false_eq_true, if_false]
        exact interacts_map_pure (hscalar _)
    · simp only [hname, Bool.not_false, if_true]
      exact interacts_pure uses_nil

theorem tableExists_interacts (c : Connection) (table : String) (database : Option String) :
    (c.tableExists b table database).Interacts b fun _ parts =>
      c.Uses (fun text => ∃ database s,
        c.statementFor (c.settings.engine.tableExists table database).sql [] = .ok s ∧
          text = limitToOne s) parts := by
  rw [tableExists]
  by_cases hname : isTableName table = true
  · have hscalar (database : String) (default : Value) :
        (c.fetchScalar b (c.settings.engine.tableExists table database).sql
          (c.settings.engine.tableExists table database).arguments default []).Interacts b
        fun _ parts => c.Uses (fun text => ∃ database s,
          c.statementFor (c.settings.engine.tableExists table database).sql [] = .ok s ∧
            text = limitToOne s) parts := by
      refine (fetchScalar_interacts c _ _ default []).mono ?_
      rintro _ parts huses
      exact huses.mono fun text ⟨s, hs, htext⟩ => ⟨database, s, hs, htext⟩
    by_cases hengine : c.settings.engine = .pgsql
    · simp only [hname, hengine, Bool.not_true, Bool.false_eq_true, if_false, if_true]
      rw [hengine] at hscalar
      exact interacts_map_pure (hscalar _ _)
    · simp only [hname, hengine, Bool.not_true, Bool.false_eq_true, if_false]
      refine Interacts.bind (hscalar _ _) (fun _ _ huses => huses) ?_
      intro v parts huses
      refine Interacts.ofExcept_bind ?_ ?_
      · intro e _
        rwa [List.append_nil]
      · intro n _
        refine interacts_pure ?_
        rwa [List.append_nil]
  · simp only [hname, Bool.not_false, if_true]
    exact interacts_pure uses_nil

theorem close_interacts (c : Connection) :
    (c.close b).Interacts b fun r parts => c.Uses (fun _ => False) parts ∧
      ∀ c', r = .ok c' → c' = { c with driver := none } := by
  cases hdriver : c.driver with
  | none =>
    rw [close, hdriver]
    refine interacts_pure ⟨uses_nil, ?_⟩
    rintro c' ⟨rfl⟩
    rw [← hdriver]
  | some h =>
    have hclosing : (liftM (b.closing h) : Action σ Fault Unit).Interacts b fun _ parts =>
        ∃ reply, parts = [.close h reply] :=
      Interacts.lift (interacts_closing ⟨_, rfl⟩ fun _ => ⟨_, rfl⟩)
    rw [close, hdriver]
    refine Interacts.bind hclosing ?_ ?_
    · rintro e _ ⟨reply, rfl⟩
      refine ⟨uses_close hdriver, ?_⟩
      rintro c' ⟨⟩
    · rintro _ _ ⟨reply, rfl⟩
      refine Interacts.log_bind (interacts_pure ⟨uses_close hdriver, ?_⟩)
      rintro c' ⟨rfl⟩
      rfl

end Connection

end SqlBridge
