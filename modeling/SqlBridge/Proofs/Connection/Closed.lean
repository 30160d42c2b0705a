import SqlBridge.Proofs.Connection.Beginning
import SqlBridge.Proofs.Connection.Executions

namespace SqlBridge

open SqlBridge.Action

/-- Run from the world `w`, the action comes to nothing but this fault and some log records. -/
def Action.Refuses {σ α : Type} (b : Backend σ) (w : σ) (x : Action σ Fault α) (fault : Fault) : Prop :=
  x.EndsFrom b w fun r events =>
    r = .error fault ∧ b.after w events = w ∧ ∀ event ∈ events, event.isLog = true

namespace Action

variable {σ α β : Type} {b : Backend σ} {w : σ} {fault : Fault}

theorem refuses_fail : (fail fault : Action σ Fault α).Refuses b w fault :=
  endsFrom_fail ⟨rfl, rfl, by simp⟩

theorem Refuses.bind {x : Action σ Fault α} (hx : x.Refuses b w fault) (f : α → Action σ Fault β) :
    (x >>= f).Refuses b w fault := by
  refine EndsFrom.bind hx ?_ ?_
  · rintro e events ⟨⟨⟩, hworld, hlogs⟩
    exact ⟨rfl, hworld, hlogs⟩
  · rintro a events ⟨hr, -⟩
    cases hr

end Action

namespace Connection

variable {σ α : Type} {b : Backend σ} {c : Connection} {w : σ}

/-- The fault of a connection that is asked for something once it is closed. -/
def closedFault (c : Connection) : Fault :=
  failed c.info "Connection is closed" none

theorem live_bind_refuses (hclosed : c.driver = none) (f : Handle → Action σ Fault α) :
    (ofExcept c.live >>= f).Refuses b w c.closedFault := by
  rw [live_eq_error hclosed]
  exact refuses_fail

theorem fetchRows_refuses (hclosed : c.driver = none) (sql : String) (params : Value)
    (style : String) : (c.fetchRows b sql params style).Refuses b w c.closedFault :=
  (live_bind_refuses hclosed _).bind _

/-- A template that resolves does not keep a closed connection from refusing what is sent. -/
theorem prepare_bind_refuses {sql text : String} {vars : QueryVars} {f : String → Action σ Fault α}
    (htext : c.statementFor sql vars = .ok text) (hf : (f text).Refuses b w c.closedFault) :
    (c.prepare sql vars >>= f).Refuses b w c.closedFault := by
  refine EndsFrom.bind (prepare_endsFrom htext) ?_ ?_
  · rintro fault events ⟨hr, -⟩
    cases hr
  · rintro _ events ⟨⟨⟩, hworld, hlogs⟩
    rw [hworld]
    refine EndsFrom.mono hf ?_
    rintro r later ⟨hr, hworld', hlogs'⟩
    refine ⟨hr, ?_, List.forall_mem_append.2 ⟨hlogs, hlogs'⟩⟩
    rw [b.after_append, hworld, hworld']

theorem fetchScalar_refuses (hclosed : c.driver = none) {sql text : String} {vars : QueryVars}
    (htext : c.statementFor sql vars = .ok text) (params default : Value) :
    (c.fetchScalar b sql params default vars).Refuses b w c.closedFault :=
  prepare_bind_refuses htext ((live_bind_refuses hclosed _).bind _)

/-- A clause that some quoter can write is either written on a closed connection or refused because the
connection is closed, since that is all that can happen to its quoter. -/
theorem count_refuses (hclosed : c.driver = none) {spec : Option WhereSpec} {quote : Quoter}
    {clause : String} (hwritten : SqlBridge.formatWhere spec quote c.markers = .ok clause)
    (table : String) (params : Value) :
    (c.count b table spec params).Refuses b w c.closedFault := by
  have hcompared : (∃ clause', SqlBridge.formatWhere spec (c.quoter b w) c.markers = .ok clause') ∨
      ∃ v type fault, c.quoter b w v type = .error fault ∧
        SqlBridge.formatWhere spec (c.quoter b w) c.markers = .error fault :=
    formatWhere_of_eq_ok hwritten
  obtain ⟨clause', hclause⟩ | ⟨v, type, fault, hquote, hclause⟩ := hcompared
  · refine EndsFrom.bind (endsFrom_observe ⟨hclause, rfl⟩ : (c.formatWhere b spec).EndsFrom b w
      fun r events => r = .ok clause' ∧ events = []) ?_ ?_
    · rintro fault events ⟨hr, -⟩
      cases hr
    · rintro _ _ ⟨⟨⟩, rfl⟩
      exact (live_bind_refuses hclosed _).bind _
  · rw [quoter, live_eq_error hclosed] at hquote
    cases hquote
    refine Refuses.bind (endsFrom_observe ⟨hclause, rfl, by simp⟩ :
      (c.formatWhere b spec).Refuses b w c.closedFault) _

theorem quote_refuses (hclosed : c.driver = none) (v type : Value) :
    (c.quote b v type).Refuses b w c.closedFault := by
  refine endsFrom_observe ⟨?_, rfl, by simp⟩
  rw [live_eq_error hclosed]
  rfl

/-- A template without a brace has no placeholders and resolves to itself. -/
theorem statementFor_of_braceless {sql : String} (hbrace : '{' ∉ sql.toList) (vars : QueryVars) :
    c.statementFor sql vars = .ok sql := by
  rw [statementFor]
  split_ifs
  · rfl
  · have hfill := fill_scan_append hbrace vars []
    rw [List.append_nil] at hfill
    rw [render, substitute, hfill]
    simp [fill, Except.map, Except.mapError]

end Connection

theorem Engine.exists_databaseExists {e : Engine} (hserver : e ≠ .sqlite) (name : String) :
    ∃ q, e.databaseExists name = some q := by
  cases e with
  | sqlite => exact absurd rfl hserver
  | _ => exact ⟨_, rfl⟩

theorem Engine.databaseExists_braceless {e : Engine} {name : String} {q : Query}
    (hquery : e.databaseExists name = some q) : '{' ∉ q.sql.toList := by
  have hsame : some q.sql = (e.databaseExists "").map Query.sql := by
    rw [← Option.map_some, ← hquery]
    cases e <;> rfl
  cases e with
  | sqlite => cases hquery
  | _ =>
    rw [Option.some.inj hsame]
    decide +kernel

theorem Engine.tableExists_braceless (e : Engine) (table database : String) :
    '{' ∉ (e.tableExists table database).sql.toList := by
  unfold tableExists
  -- Line by line: to decode the whole text at once takes the kernel far longer.
  cases e <;> dsimp only <;> simp only [String.toList_append, List.mem_append, not_or] <;>
    decide +kernel

namespace Connection

variable {σ : Type} {b : Backend σ} {c : Connection} {w : σ}

theorem setCharset_refuses (hclosed : c.driver = none) (hserver : c.settings.engine ≠ .sqlite)
    {current wanted : String} (hcurrent : c.settings.charset = some current)
    (hother : sameCharset current wanted = false) :
    (c.setCharset b (some wanted)).Refuses b w c.closedFault := by
  simp only [setCharset, if_neg hserver, hcurrent, hother, Bool.false_eq_true, if_false]
  exact live_bind_refuses hclosed _

theorem databaseExists_refuses (hclosed : c.driver = none) (hserver : c.settings.engine ≠ .sqlite)
    {name : String} (hname : isDatabaseName name = true) :
    (c.databaseExists b name).Refuses b w c.closedFault := by
  obtain ⟨q, hquery⟩ := Engine.exists_databaseExists hserver name
  have htext : c.statementFor q.sql [] = .ok q.sql :=
    statementFor_of_braceless (Engine.databaseExists_braceless hquery) []
  simp only [databaseExists, hquery, hname, Bool.not_true, Bool.false_eq_true, if_false]
  split_ifs
  · exact (fetchScalar_refuses hclosed htext _ _).bind _
  · exact (fetchScalar_refuses hclosed htext _ _).bind _

theorem tableExists_refuses (hclosed : c.driver = none) {table : String}
    (hname : isTableName table = true) (database : Option String) :
    (c.tableExists b table database).Refuses b w c.closedFault := by
  have htext (database : String) :
      c.statementFor (c.settings.engine.tableExists table database).sql [] =
        .ok (c.settings.engine.tableExists table database).sql :=
    statementFor_of_braceless (Engine.tableExists_braceless _ _ _) []
  simp only [tableExists, hname, Bool.not_true, Bool.false_eq_true, if_false]
  split_ifs
  · exact (fetchScalar_refuses hclosed (htext _) _ _).bind _
  · exact (fetchScalar_refuses hclosed (htext _) _ _).bind _

end Connection

namespace Request

variable {σ : Type}

/-- The requests that use the driver connection, if there is need for it. -/
def isHelper : Request → Bool
  | fetchAll _ _ _ _ | fetchRecord _ _ _ _ | fetchScalar _ _ _ _ | execute _ _ _ | count _ _ _
  | quote _ _ | setCharset _ | databaseExists _ | tableExists _ _ => true
  | formatWhere _ | state | enter | exit | close => false

/-- The template of the request resolves, and its clause can be written by a driver that is there. -/
def IsPrepared (c : Connection) : Request → Prop
  | fetchAll sql _ _ vars | fetchRecord sql _ _ vars | fetchScalar sql _ _ vars | execute sql _ vars =>
    ∃ text, c.statementFor sql vars = .ok text
  | count _ spec _ => ∃ quote clause, SqlBridge.formatWhere spec quote c.markers = .ok clause
  | _ => True

/-- The answer to a request that is given ahead of any look at the driver connection: a file has no
charset that could change and no databases beside it, a charset that is there already is not set again,
and what is no name is the name of nothing. -/
def answerAhead? (c : Connection) : Request → Option (Except Fault Bool)
  | setCharset charset =>
    if c.settings.engine = .sqlite then some (.ok true)
    else
      match c.settings.charset, charset with
      | some current, some wanted =>
        if Connection.sameCharset current wanted then some (.ok true) else none
      | _, _ => some (.error (.problem .lacksOperation))
  | databaseExists name =>
    if c.settings.engine = .sqlite ∨ Connection.isDatabaseName name = false then some (.ok false)
    else none
  | tableExists table _ => if Connection.isTableName table = false then some (.ok false) else none
  | _ => none

/-- An answer that is given ahead is all that a request comes to, be the connection open or closed. -/
theorem answer_of_answerAhead? {b : Backend σ} {c : Connection} {request : Request}
    {r : Except Fault Bool} (hahead : request.answerAhead? c = some r) (w : σ) :
    request.answer b c w = ⟨r.map fun a => (.flag a, c), [], w⟩ := by
  cases request with
  | setCharset charset =>
    simp only [answerAhead?] at hahead
    simp only [answer, Connection.setCharset]
    split_ifs at hahead with hfile
    · cases hahead
      rw [if_pos hfile]
      rfl
    · rw [if_neg hfile]
      cases hcurrent : c.settings.charset with
      | none =>
        rw [hcurrent] at hahead
        cases hahead
        rfl
      | some current =>
        cases charset with
        | none =>
          rw [hcurrent] at hahead
          cases hahead
          rfl
        | some wanted =>
          simp only [hcurrent] at hahead
          split_ifs at hahead with hsame
          cases hahead
          simp only [hsame, if_true]
          rfl
  | databaseExists name =>
    simp only [answerAhead?] at hahead
    split_ifs at hahead with hunasked
    cases hahead
    simp only [answer, Connection.databaseExists]
    rcases hunasked with hfile | hname
    · rw [hfile]
      rfl
    · cases c.settings.engine.databaseExists name with
      | none => rfl
      | some q =>
        simp only [hname, Bool.not_false, if_true]
        rfl
  | tableExists table database =>
    simp only [answerAhead?] at hahead
    split_ifs at hahead with hname
    cases hahead
    simp only [answer, Connection.tableExists, hname, Bool.not_false, if_true]
    rfl
  | _ => cases hahead

/-- A closed connection refuses every request that is prepared and has no answer ahead. -/
theorem answer_refuses {b : Backend σ} {c : Connection} {request : Request} {w : σ}
    (hclosed : c.driver = none) (hhelper : request.isHelper = true) (hprepared : request.IsPrepared c)
    (hahead : request.answerAhead? c = none) : (request.answer b c).Refuses b w c.closedFault := by
  cases request with
  | fetchAll sql params style vars =>
    obtain ⟨text, htext⟩ := hprepared
    have hrefuses : (c.fetchAll b sql params style vars).Refuses b w c.closedFault :=
      Connection.prepare_bind_refuses htext ((Connection.fetchRows_refuses hclosed _ _ _).bind _)
    exact hrefuses.bind _
  | fetchRecord sql params style vars =>
    obtain ⟨text, htext⟩ := hprepared
    have hrefuses : (c.fetchRecord b sql params style vars).Refuses b w c.closedFault :=
      Connection.prepare_bind_refuses htext ((Connection.fetchRows_refuses hclosed _ _ _).bind _)
    exact hrefuses.bind _
  | fetchScalar sql params default vars =>
    obtain ⟨text, htext⟩ := hprepared
    exact (Connection.fetchScalar_refuses hclosed htext _ _).bind _
  | execute sql params vars =>
    obtain ⟨text, htext⟩ := hprepared
    have hrefuses : (c.execute b sql params vars).Refuses b w c.closedFault :=
      Connection.prepare_bind_refuses htext (Connection.live_bind_refuses hclosed _)
    exact hrefuses.bind _
  | count table spec params =>
    obtain ⟨quote, clause, hwritten⟩ := hprepared
    exact (Connection.count_refuses hclosed hwritten _ _).bind _
  | quote v type => exact (Connection.quote_refuses hclosed v type).bind _
  | setCharset charset =>
    simp only [answerAhead?] at hahead
    split_ifs at hahead with hfile
    split at hahead
    · next hcurrent =>
      split_ifs at hahead with hsame
      exact (Connection.setCharset_refuses hclosed hfile hcurrent (by simpa using hsame)).bind _
    · cases hahead
  | databaseExists name =>
    simp only [answerAhead?] at hahead
    split_ifs at hahead with hunasked
    rw [not_or, Bool.not_eq_false] at hunasked
    exact (Connection.databaseExists_refuses hclosed hunasked.1 hunasked.2).bind _
  | tableExists table database =>
    simp only [answerAhead?] at hahead
    split_ifs at hahead with hname
    rw [Bool.not_eq_false] at hname
    exact (Connection.tableExists_refuses hclosed hname database).bind _
  | _ => cases hhelper

end Request

end SqlBridge
