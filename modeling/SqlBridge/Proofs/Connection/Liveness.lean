import SqlBridge.Proofs.Connection.Request
import SqlBridge.Proofs.Driver.Failures

namespace SqlBridge

open SqlBridge.Action

namespace Action

variable {σ ε α β : Type} {b : Backend σ}

/-- No driver connection is closed by the action. -/
def Closeless (x : Action σ ε α) : Prop :=
  ∀ w, ∀ event ∈ (x w).events, event.isClose = false

theorem closeless_silent {x : Action σ ε α} (hx : ∀ w, (x w).events = []) : x.Closeless := by
  intro w event hmem
  rw [hx w] at hmem
  cases hmem

theorem closeless_event {x : Action σ ε α} {event : Event} (hx : ∀ w, (x w).events = [event])
    (hevent : event.isClose = false) : x.Closeless := by
  intro w event' hmem
  rw [hx w] at hmem
  rw [List.mem_singleton.1 hmem, hevent]

theorem Closeless.bind {x : Action σ ε α} {f : α → Action σ ε β} (hx : x.Closeless)
    (hf : ∀ a, (f a).Closeless) : (x >>= f).Closeless := by
  intro w
  have hfirst := hx w
  rw [bind_apply, andThen]
  rcases hrun : x w with ⟨_ | a, events, w'⟩ <;> rw [hrun] at hfirst
  · exact hfirst
  · exact List.forall_mem_append.2 ⟨hfirst, hf a w'⟩

theorem Closeless.rescue {x : Action σ Problem α} {handler : Problem → Action σ Fault α}
    (hx : x.Closeless) (hhandler : ∀ p, (handler p).Closeless) : (x.rescue handler).Closeless := by
  intro w
  have hfirst := hx w
  rw [Action.rescue]
  rcases hrun : x w with ⟨p | a, events, w'⟩ <;> rw [hrun] at hfirst
  · dsimp only
    split_ifs
    · exact hfirst
    · exact List.forall_mem_append.2 ⟨hfirst, hhandler p w'⟩
  · exact hfirst

theorem Closeless.lift {x : Action σ Problem α} (hx : x.Closeless) :
    (liftM x : Action σ Fault α).Closeless :=
  hx

theorem Closeless.withOpenCursor {x : Action σ ε α} (hx : x.Closeless) (h : Handle)
    (raise : Problem → ε) : (b.withOpenCursor h raise x).Closeless := by
  intro w
  rw [Backend.withOpenCursor_events]
  exact List.forall_mem_append.2 ⟨hx w, List.forall_mem_singleton.2 rfl⟩

theorem closeless_pure (a : α) : (pure a : Action σ ε α).Closeless :=
  closeless_silent fun _ => rfl

theorem closeless_ofExcept (r : Except ε α) : (ofExcept r : Action σ ε α).Closeless :=
  closeless_silent fun _ => rfl

theorem closeless_log {level : Level} {logger : Logger} {message : String} :
    (log level logger message : Action σ ε Unit).Closeless :=
  closeless_event (fun _ => rfl) rfl

theorem closeless_cursor (h : Handle) : (b.cursor h).Closeless :=
  closeless_event (fun _ => rfl) rfl

theorem closeless_executing (h : Handle) (sql : String) (params : Value) :
    (b.executing h sql params).Closeless :=
  closeless_event (fun _ => rfl) rfl

theorem closeless_fetching (h : Handle) : (b.fetching h).Closeless :=
  closeless_event (fun _ => rfl) rfl

/-- What is seen of an action is seen when something comes after it. -/
theorem mem_events_bind_left {x : Action σ ε α} {f : α → Action σ ε β} {w : σ} {event : Event}
    (hmem : event ∈ (x w).events) : event ∈ ((x >>= f) w).events := by
  rw [bind_apply, andThen]
  rcases hrun : x w with ⟨_ | a, events, w'⟩ <;> rw [hrun] at hmem
  · exact hmem
  · exact List.mem_append_left _ hmem

/-- What is seen of an action is seen when something succeeds before it. -/
theorem mem_events_bind_right {x : Action σ ε α} {f : α → Action σ ε β} {w : σ} {a : α}
    {event : Event} (hx : (x w).outcome = .ok a) (hmem : ∀ w', event ∈ (f a w').events) :
    event ∈ ((x >>= f) w).events := by
  rw [bind_apply, andThen]
  rcases hrun : x w with ⟨_ | a', events, w'⟩ <;> rw [hrun] at hx <;> cases hx
  · exact List.mem_append_right _ (hmem w')

end Action

namespace Connection

variable {σ : Type} {b : Backend σ} {c : Connection} {h : Handle}

theorem orQueryError_closeless {α : Type} {x : Action σ Problem α} (hx : x.Closeless) (sql : String) :
    (c.orQueryError sql x).Closeless :=
  hx.rescue fun _ => closeless_silent fun _ => rfl

theorem send_closeless (h : Handle) (sql : String) (params : Value) :
    (send b h sql params).Closeless :=
  closeless_log.bind fun _ => closeless_executing h sql params

theorem prepare_closeless (c : Connection) (sql : String) (vars : QueryVars) :
    (c.prepare sql vars : Action σ Fault String).Closeless := by
  refine (closeless_ofExcept _).bind fun text => ?_
  by_cases hsame : text ≠ sql
  · simp only [hsame, ne_eq, not_false_eq_true, if_true]
    exact closeless_log.bind fun _ => closeless_pure _
  · simp only [hsame, if_false]
    exact closeless_pure _

theorem fetchResult_closeless (c : Connection) (sql : String) (params : Value) :
    (c.fetchResult b sql params).Closeless := by
  refine (closeless_ofExcept _).bind fun h => (closeless_cursor h).lift.bind fun _ => ?_
  refine (orQueryError_closeless ?_ sql).withOpenCursor h Fault.problem
  refine (send_closeless h sql params).bind fun _ => (closeless_fetching h).bind fun _ => ?_
  exact closeless_pure _

theorem fetchRows_closeless (c : Connection) (sql : String) (params : Value) (style : String) :
    (c.fetchRows b sql params style).Closeless :=
  (fetchResult_closeless c sql params).bind fun _ => closeless_ofExcept _

theorem fetchScalar_closeless (c : Connection) (sql : String) (params default : Value)
    (vars : QueryVars) : (c.fetchScalar b sql params default vars).Closeless :=
  (prepare_closeless c sql vars).bind fun _ => (fetchResult_closeless c _ params).bind fun _ =>
    closeless_pure _

theorem execute_closeless (c : Connection) (sql : String) (params : Value) (vars : QueryVars) :
    (c.execute b sql params vars).Closeless := by
  refine (prepare_closeless c sql vars).bind fun text => (closeless_ofExcept _).bind fun h => ?_
  refine (closeless_cursor h).lift.bind fun _ => (orQueryError_closeless ?_ text).withOpenCursor h Fault.problem
  exact (send_closeless h text params).bind fun _ => closeless_pure _

theorem databaseExists_closeless (c : Connection) (name : String) :
    (c.databaseExists b name).Closeless := by
  rw [databaseExists]
  cases c.settings.engine.databaseExists name with
  | none => exact closeless_pure _
  | some q =>
    dsimp only
    split_ifs
    · exact closeless_pure _
    · exact (fetchScalar_closeless c _ _ _ _).bind fun _ => closeless_pure _
    · exact (fetchScalar_closeless c _ _ _ _).bind fun _ => closeless_pure _

theorem tableExists_closeless (c : Connection) (table : String) (database : Option String) :
    (c.tableExists b table database).Closeless := by
  rw [tableExists]
  dsimp only
  split_ifs
  · exact closeless_pure _
  · exact (fetchScalar_closeless c _ _ _ _).bind fun _ => closeless_pure _
  · exact (fetchScalar_closeless c _ _ _ _).bind fun _ => (closeless_ofExcept _).bind fun _ =>
      closeless_pure _

theorem setCharset_closeless (c : Connection) (charset : Option String) :
    (c.setCharset b charset).Closeless := by
  have hsending (h : Handle) (wanted : String) :
      (sendCharset b c.settings.engine h wanted).Closeless := by
    refine (closeless_ofExcept _).bind fun command => ?_
    cases command with
    | none => exact closeless_pure _
    | some statement => exact (closeless_executing h statement _).bind fun _ => closeless_pure _
  unfold setCharset
  split_ifs
  · exact closeless_pure _
  · split
    · exact closeless_silent fun _ => rfl
    · exact closeless_silent fun _ => rfl
    · split_ifs
      · exact closeless_pure _
      · refine (closeless_ofExcept _).bind fun h => (closeless_cursor h).lift.bind fun _ => ?_
        refine (((hsending h _).rescue fun _ => ?_).withOpenCursor h Fault.problem).bind fun changed => ?_
        · exact closeless_log.bind fun _ => closeless_pure _
        · cases changed <;> exact closeless_pure _

/-! ## Getting through to the driver -/

theorem prepare_outcome (c : Connection) (sql : String) (vars : QueryVars) (w : σ) :
    (c.prepare sql vars w).outcome = c.statementFor sql vars := by
  rw [prepare]
  cases c.statementFor sql vars with
  | error fault => rfl
  | ok text =>
    change ((if text ≠ sql then _ else _ : Action σ Fault String) w).outcome = .ok text
    split_ifs <;> rfl

theorem mem_events_prepare_bind {α : Type} {sql text : String} {vars : QueryVars}
    {f : String → Action σ Fault α} {w : σ} {event : Event}
    (htext : c.statementFor sql vars = .ok text) (hmem : ∀ w', event ∈ (f text w').events) :
    event ∈ ((c.prepare sql vars >>= f) w).events :=
  mem_events_bind_right ((prepare_outcome c sql vars w).trans htext) hmem

theorem cursorOpen_mem_fetchResult (hdriver : c.driver = some h) (sql : String) (params : Value)
    (w : σ) : .cursorOpen h ∈ (c.fetchResult b sql params w).events := by
  rw [fetchResult, live_eq hdriver]
  exact mem_events_bind_right rfl fun _ => mem_events_bind_left (List.mem_singleton_self _)

theorem cursorOpen_mem_fetchRows (hdriver : c.driver = some h) (sql : String) (params : Value)
    (style : String) (w : σ) : .cursorOpen h ∈ (c.fetchRows b sql params style w).events :=
  mem_events_bind_left (cursorOpen_mem_fetchResult hdriver sql params w)

theorem cursorOpen_mem_fetchScalar (hdriver : c.driver = some h) {sql text : String}
    {vars : QueryVars} (htext : c.statementFor sql vars = .ok text) (params default : Value) (w : σ) :
    .cursorOpen h ∈ (c.fetchScalar b sql params default vars w).events :=
  mem_events_prepare_bind htext fun w' =>
    mem_events_bind_left (cursorOpen_mem_fetchResult hdriver _ params w')

theorem cursorOpen_mem_execute (hdriver : c.driver = some h) {sql text : String}
    {vars : QueryVars} (htext : c.statementFor sql vars = .ok text) (params : Value) (w : σ) :
    .cursorOpen h ∈ (c.execute b sql params vars w).events := by
  refine mem_events_prepare_bind htext fun w' => ?_
  rw [live_eq hdriver]
  exact mem_events_bind_right rfl fun _ => mem_events_bind_left (List.mem_singleton_self _)

end Connection

namespace Request

variable {σ : Type} {b : Backend σ} {c : Connection} {h : Handle} {w : σ}

/-- The requests to close the connection. -/
def isClosing : Request → Bool
  | exit | close => true
  | _ => false

/-- Only a request to close the connection has its driver connection closed. -/
theorem answer_closeless (c : Connection) {request : Request} (hother : request.isClosing = false) :
    (request.answer b c).Closeless := by
  cases request with
  | fetchAll sql params style vars =>
    exact ((Connection.prepare_closeless c sql vars).bind fun _ =>
      (Connection.fetchRows_closeless c _ params style).bind fun _ => closeless_pure _).bind fun _ =>
        closeless_pure _
  | fetchRecord sql params style vars =>
    exact ((Connection.prepare_closeless c sql vars).bind fun _ =>
      (Connection.fetchRows_closeless c _ params style).bind fun _ => closeless_pure _).bind fun _ =>
        closeless_pure _
  | fetchScalar sql params default vars =>
    exact (Connection.fetchScalar_closeless c sql params default vars).bind fun _ => closeless_pure _
  | execute sql params vars =>
    exact (Connection.execute_closeless c sql params vars).bind fun _ => closeless_pure _
  | count table spec params =>
    exact ((closeless_silent fun _ => rfl).bind fun _ =>
      (Connection.fetchResult_closeless c _ params).bind fun _ => closeless_ofExcept _).bind fun _ =>
        closeless_pure _
  | formatWhere spec => exact (closeless_silent fun _ => rfl).bind fun _ => closeless_pure _
  | quote v type => exact (closeless_silent fun _ => rfl).bind fun _ => closeless_pure _
  | setCharset charset =>
    exact (Connection.setCharset_closeless c charset).bind fun _ => closeless_pure _
  | databaseExists name =>
    exact (Connection.databaseExists_closeless c name).bind fun _ => closeless_pure _
  | tableExists table database =>
    exact (Connection.tableExists_closeless c table database).bind fun _ => closeless_pure _
  | state => exact closeless_pure _
  | enter => exact closeless_pure _
  | exit => cases hother
  | close => cases hother

/-- Nothing that is done before the driver is spoken to keeps the request from getting there: neither
does the text of a statement or of a clause fail to be made, nor is the answer known without asking. -/
inductive Reaches (b : Backend σ) (c : Connection) (w : σ) : Request → Prop where
  | statement {request : Request} {text : String} (htext : request.callerStatement? c = some text) :
      Reaches b c w request
  | count {table clause : String} {spec : Option WhereSpec} {params : Value}
      (hclause : (c.formatWhere b spec w).outcome = .ok clause) :
      Reaches b c w (.count table spec params)
  | databaseExists {name text : String} {q : Query}
      (hquery : c.settings.engine.databaseExists name = some q)
      (hname : Connection.isDatabaseName name = true) (htext : c.statementFor q.sql [] = .ok text) :
      Reaches b c w (.databaseExists name)
  | tableExists {table text : String} {database : Option String}
      (hname : Connection.isTableName table = true)
      (htext : c.statementFor (c.settings.engine.tableExists table
        ((database.filter (· != "")).getD c.settings.dbname)).sql [] = .ok text) :
      Reaches b c w (.tableExists table database)
  | setCharset {current wanted : String} (hserver : c.settings.engine ≠ .sqlite)
      (hcurrent : c.settings.charset = some current)
      (hother : Connection.sameCharset current wanted = false) :
      Reaches b c w (.setCharset (some wanted))

theorem ok_of_toOption {ε α : Type} {r : Except ε α} {a : α} (hr : r.toOption = some a) :
    r = .ok a := by
  cases r with
  | error e => cases hr
  | ok a' =>
    cases hr
    rfl

/-- On a connection that is not closed such a request opens a cursor, or tries to. -/
theorem Reaches.cursorOpen_mem {request : Request} (hreaches : request.Reaches b c w)
    (hdriver : c.driver = some h) : .cursorOpen h ∈ (request.answer b c w).events := by
  cases hreaches with
  | statement htext =>
    cases request with
    | fetchAll sql params style vars =>
      exact mem_events_bind_left (Connection.mem_events_prepare_bind (ok_of_toOption htext) fun w' =>
        mem_events_bind_left (Connection.cursorOpen_mem_fetchRows hdriver _ params style w'))
    | fetchRecord sql params style vars =>
      obtain ⟨s, hs, -⟩ := Option.map_eq_some_iff.1 htext
      exact mem_events_bind_left (Connection.mem_events_prepare_bind (ok_of_toOption hs) fun w' =>
        mem_events_bind_left (Connection.cursorOpen_mem_fetchRows hdriver _ params style w'))
    | fetchScalar sql params default vars =>
      obtain ⟨s, hs, -⟩ := Option.map_eq_some_iff.1 htext
      exact mem_events_bind_left
        (Connection.cursorOpen_mem_fetchScalar hdriver (ok_of_toOption hs) params default w)
    | execute sql params vars =>
      exact mem_events_bind_left
        (Connection.cursorOpen_mem_execute hdriver (ok_of_toOption htext) params w)
    | _ => cases htext
  | count hclause =>
    exact mem_events_bind_left (mem_events_bind_right hclause fun w' => mem_events_bind_left
      (Connection.cursorOpen_mem_fetchResult hdriver _ _ w'))
  | databaseExists hquery hname htext =>
    refine mem_events_bind_left ?_
    rw [Connection.databaseExists, hquery]
    simp only [hname, Bool.not_true, Bool.false_eq_true, if_false]
    split_ifs
    · exact mem_events_bind_left (Connection.cursorOpen_mem_fetchScalar hdriver htext _ _ w)
    · exact mem_events_bind_left (Connection.cursorOpen_mem_fetchScalar hdriver htext _ _ w)
  | tableExists hname htext =>
    refine mem_events_bind_left ?_
    rw [Connection.tableExists]
    simp only [hname, Bool.not_true, Bool.false_eq_true, if_false]
    split_ifs
    · exact mem_events_bind_left (Connection.cursorOpen_mem_fetchScalar hdriver htext _ _ w)
    · exact mem_events_bind_left (Connection.cursorOpen_mem_fetchScalar hdriver htext _ _ w)
  | setCharset hserver hcurrent hother =>
    refine mem_events_bind_left ?_
    unfold Connection.setCharset
    simp only [hserver, hcurrent, hother, Bool.false_eq_true, if_false, Connection.live_eq hdriver]
    exact mem_events_bind_right rfl fun _ => mem_events_bind_left (List.mem_singleton_self _)

end Request

end SqlBridge
