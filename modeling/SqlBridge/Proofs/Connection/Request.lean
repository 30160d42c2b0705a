import SqlBridge.Proofs.Connection.Charset

namespace SqlBridge

open SqlBridge.Action

namespace Request

variable {σ : Type} {b : Backend σ}

/-- The text of the caller's own that a request sends, with its placeholders replaced and its limit
added. -/
def callerStatement? (c : Connection) : Request → Option String
  | fetchAll sql _ _ vars | execute sql _ vars => (c.statementFor sql vars).toOption
  | fetchRecord sql _ _ vars | fetchScalar sql _ _ vars =>
    (c.statementFor sql vars).toOption.map limitToOne
  | _ => none

/-- The statements that a request may send, but for the change of a charset. -/
def Sends (c : Connection) (request : Request) (text : String) : Prop :=
  request.callerStatement? c = some text ∨
  (∃ table clause, text = limitToOne (Connection.countStatement table clause)) ∨
  (∃ name q s, c.settings.engine.databaseExists name = some q ∧
    c.statementFor q.sql [] = .ok s ∧ text = limitToOne s) ∨
  ∃ table database s, c.statementFor (c.settings.engine.tableExists table database).sql [] = .ok s ∧
    text = limitToOne s

/-- What a request that leaves the charset alone does: it uses the driver for its own statements, and
the connection is at most closed by it. -/
def LeavesCharset (c : Connection) (request : Request) (r : Except Fault (Answer × Connection))
    (parts : List Interaction) : Prop :=
  c.Uses (request.Sends c) parts ∧
    ∀ answer c', r = .ok (answer, c') → c' = c ∨ c' = { c with driver := none }

theorem leavesCharset_of_uses {α : Type} {x : Action σ Fault α} {c : Connection} {request : Request}
    {answer : α → Answer} {allowed : String → Prop}
    (hx : x.Interacts b fun _ parts => c.Uses allowed parts)
    (hallowed : ∀ text, allowed text → request.Sends c text) :
    (x >>= fun a => (pure (answer a, c) : Action σ Fault (Answer × Connection))).Interacts b
      (request.LeavesCharset c) := by
  refine hx.bind_pure ?_ ?_
  · rintro e parts huses
    exact ⟨huses.mono hallowed, fun _ _ hr => nomatch hr⟩
  · rintro a parts huses
    refine ⟨huses.mono hallowed, ?_⟩
    rintro _ _ ⟨rfl⟩
    exact .inl rfl

theorem leavesCharset_of_close {c : Connection} {request : Request} :
    (c.close b >>= fun c' => (pure (.done, c') : Action σ Fault (Answer × Connection))).Interacts b
      (request.LeavesCharset c) := by
  refine (Connection.close_interacts c).bind_pure ?_ ?_
  · rintro e parts ⟨huses, -⟩
    exact ⟨huses.mono fun _ hfalse => hfalse.elim, fun _ _ hr => nomatch hr⟩
  · rintro c' parts ⟨huses, hclosed⟩
    refine ⟨huses.mono fun _ hfalse => hfalse.elim, ?_⟩
    rintro _ _ ⟨rfl⟩
    exact .inr (hclosed c' rfl)

theorem answer_interacts (c : Connection) (request : Request)
    (hother : ∀ charset, request ≠ .setCharset charset) :
    (request.answer b c).Interacts b (request.LeavesCharset c) := by
  cases request with
  | fetchAll sql params style vars =>
    refine leavesCharset_of_uses (Connection.fetchAll_interacts c sql params style vars) ?_
    intro text htext
    exact .inl (by simp [callerStatement?, htext, Except.toOption])
  | fetchRecord sql params style vars =>
    refine leavesCharset_of_uses (Connection.fetchRecord_interacts c sql params style vars) ?_
    rintro _ ⟨s, hs, rfl⟩
    exact .inl (by simp [callerStatement?, hs, Except.toOption])
  | fetchScalar sql params default vars =>
    refine leavesCharset_of_uses (Connection.fetchScalar_interacts c sql params default vars) ?_
    rintro _ ⟨s, hs, rfl⟩
    exact .inl (by simp [callerStatement?, hs, Except.toOption])
  | execute sql params vars =>
    refine leavesCharset_of_uses (Connection.execute_interacts c sql params vars) ?_
    intro text htext
    exact .inl (by simp [callerStatement?, htext, Except.toOption])
  | count table spec params =>
    refine leavesCharset_of_uses (Connection.count_interacts c table spec params) ?_
    rintro _ ⟨clause, rfl⟩
    exact .inr (.inl ⟨table, clause, rfl⟩)
  | formatWhere spec =>
    exact leavesCharset_of_uses (interacts_observe fun _ => Connection.uses_nil)
      fun _ (hfalse : False) => hfalse.elim
  | quote v type =>
    exact leavesCharset_of_uses (interacts_observe fun _ => Connection.uses_nil)
      fun _ (hfalse : False) => hfalse.elim
  | setCharset charset => exact absurd rfl (hother charset)
  | databaseExists name =>
    refine leavesCharset_of_uses (Connection.databaseExists_interacts c name) ?_
    rintro _ ⟨q, s, hq, hs, rfl⟩
    exact .inr (.inr (.inl ⟨name, q, s, hq, hs, rfl⟩))
  | tableExists table database =>
    refine leavesCharset_of_uses (Connection.tableExists_interacts c table database) ?_
    rintro _ ⟨database, s, hs, rfl⟩
    exact .inr (.inr (.inr ⟨table, database, s, hs, rfl⟩))
  | state =>
    refine interacts_pure ⟨Connection.uses_nil, ?_⟩
    rintro _ _ ⟨rfl⟩
    exact .inl rfl
  | enter =>
    refine interacts_pure ⟨Connection.uses_nil, ?_⟩
    rintro _ _ ⟨rfl⟩
    exact .inl rfl
  | exit => exact leavesCharset_of_close
  | close => exact leavesCharset_of_close

theorem answer_setCharset_interacts (c : Connection) (charset : Option String) :
    ((setCharset charset).answer b c).Interacts b fun r parts =>
      ∃ change, c.CharsetChange charset change parts ∧
        r = change.map fun (changed, c') => (.flag changed, c') := by
  refine Interacts.bind (Connection.setCharset_interacts c charset) ?_ ?_
  · intro e parts hchange
    exact ⟨_, hchange, rfl⟩
  · rintro ⟨changed, c'⟩ parts hchange
    refine interacts_pure ?_
    rw [List.append_nil]
    exact ⟨_, hchange, rfl⟩

end Request

end SqlBridge
