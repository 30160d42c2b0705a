import SqlBridge.Proofs.Connection.Frame
import SqlBridge.Proofs.Session.Effect

namespace SqlBridge

variable {σ : Type} {b : Backend σ}

namespace Session

theorem act_eq_ok {s : Session σ} {place : Nat} {c c' : Connection} {answer : Answer}
    {x : Connection → Action σ Fault (Answer × Connection)} (hc : s.connections[place]? = some c)
    (hrun : (x c s.world).outcome = .ok (answer, c')) :
    s.act place x = (.step (.ok answer) (x c s.world).events,
      { s with world := (x c s.world).world, connections := s.connections.set place c' }) := by
  rw [act]
  simp only [hc, hrun]

theorem act_eq_error {s : Session σ} {place : Nat} {c : Connection} {fault : Fault}
    {x : Connection → Action σ Fault (Answer × Connection)} (hc : s.connections[place]? = some c)
    (hrun : (x c s.world).outcome = .error fault) :
    s.act place x = (.step (.error fault) (x c s.world).events,
      { s with world := (x c s.world).world }) := by
  rw [act]
  simp only [hc, hrun]

end Session

namespace Moment

variable {m : Moment σ} {place : Nat} {c : Connection} {request : Request}

/-- The moment consists in the answer of the connection at a place to a request. Only what is said of
it may be something else: clearing the default connection tells which one it was. -/
inductive Answers (b : Backend σ) (m : Moment σ) (place : Nat) (c : Connection) (request : Request) :
    Prop where
  | answered {answer : Answer} {c' : Connection}
      (hrun : (request.answer b c m.before.world).outcome = .ok (answer, c'))
      (houtcome : m.outcome = .ok answer ∨
        m.step = .clearDefault true ∧ ∃ name, m.outcome = .ok (.connection name))
      (hevents : m.events = (request.answer b c m.before.world).events)
      (hconnections : m.after.connections = m.before.connections.set place c')
  | failed {fault : Fault} (hrun : (request.answer b c m.before.world).outcome = .error fault)
      (houtcome : m.outcome = .error fault)
      (hevents : m.events = (request.answer b c m.before.world).events)
      (hconnections : m.after.connections = m.before.connections)

theorem Answers.events_eq (hanswers : m.Answers b place c request) :
    m.events = (request.answer b c m.before.world).events := by
  cases hanswers with
  | answered _ _ hevents => exact hevents
  | failed _ _ hevents => exact hevents

theorem answers_of_act (hc : m.before.connections[place]? = some c)
    (hdone : (m.before.act place fun c => request.answer b c) = (.step m.outcome m.events, m.after)) :
    m.Answers b place c request := by
  cases hrun : (request.answer b c m.before.world).outcome with
  | ok pair =>
    obtain ⟨answer, c'⟩ := pair
    rw [Session.act_eq_ok hc hrun, Prod.mk.injEq, Entry.step.injEq] at hdone
    obtain ⟨⟨houtcome, hevents⟩, hafter⟩ := hdone
    refine .answered hrun (.inl houtcome.symm) hevents.symm ?_
    rw [← hafter]
  | error fault =>
    rw [Session.act_eq_error hc hrun, Prod.mk.injEq, Entry.step.injEq] at hdone
    obtain ⟨⟨houtcome, hevents⟩, hafter⟩ := hdone
    refine .failed hrun houtcome.symm hevents.symm ?_
    rw [← hafter]

theorem answers_of_clearDefault (hc : m.before.connections[place]? = some c)
    (hslot : m.before.slot = some place) (hstep : m.step = .clearDefault true)
    (hdone : m.before.clearDefault b true = (.step m.outcome m.events, m.after)) :
    m.Answers b place c .close := by
  have hanswer := Request.answer_close (b := b) c m.before.world
  rw [Session.clearDefault, hslot] at hdone
  simp only [if_true, Session.act, hc, Action.bind_pure_apply] at hdone
  cases hrun : (c.close b m.before.world).outcome with
  | ok c' =>
    rw [hrun] at hdone hanswer
    simp only [Except.map, Prod.mk.injEq, Entry.step.injEq] at hdone
    obtain ⟨⟨houtcome, hevents⟩, hafter⟩ := hdone
    refine .answered (by rw [hanswer]; rfl) (.inr ⟨hstep, _, houtcome.symm⟩)
      (by rw [hanswer, hevents]) ?_
    rw [← hafter]
  | error fault =>
    rw [hrun] at hdone hanswer
    simp only [Except.map, Prod.mk.injEq, Entry.step.injEq] at hdone
    obtain ⟨⟨houtcome, hevents⟩, hafter⟩ := hdone
    refine .failed (by rw [hanswer]; rfl) houtcome.symm (by rw [hanswer, hevents]) ?_
    rw [← hafter]

/-- A step that asks a connection for something is the answer of that connection. -/
theorem Done.answers (hm : m.Done b) (hc : m.before.connections[place]? = some c)
    (hasks : m.step.Asks m.before place request) : m.Answers b place c request := by
  have hdone := hm.perform_eq
  generalize hstep : m.step = step at hasks hdone
  cases hasks with
  | named hplace =>
    rw [Session.perform, hplace] at hdone
    exact answers_of_act hc hdone
  | databaseExists hslot =>
    rw [Session.perform, Session.askDefault, hslot] at hdone
    exact answers_of_act hc hdone
  | tableExists hslot =>
    rw [Session.perform, Session.askDefault, hslot] at hdone
    exact answers_of_act hc hdone
  | cleared hslot =>
    rw [Session.perform] at hdone
    exact answers_of_clearDefault hc hslot hstep hdone

/-- A step leaves a connection alone that it does not ask for anything. -/
theorem Done.getElem_eq_of_unasked (hm : m.Done b) (hc : m.before.connections[place]? = some c)
    (hunasked : ∀ request, ¬ m.step.Asks m.before place request) :
    m.after.connections[place]? = some c := by
  have happend (added : List Connection) : (m.before.connections ++ added)[place]? = some c := by
    rw [List.getElem?_append_left (List.getElem?_eq_some_iff.1 hc).1, hc]
  obtain ⟨-, parts, -, heffect⟩ := hm.hasEffect
  cases heffect with
  | silent hconnections => rw [hconnections, hc]
  | handedIn hconnections => rw [hconnections, happend]
  | opened _ hconnections => rw [hconnections, happend]
  | unopened _ hconnections => rw [hconnections, hc]
  | @answered other _ _ request _ _ _ hasks _ _ hconnections =>
    have hother : other ≠ place := by
      rintro rfl
      exact hunasked request hasks
    rw [hconnections, List.getElem?_set_ne hother, hc]
  | failed _ _ _ _ hconnections => rw [hconnections, hc]

/-- What a step does to the connections that are there before it. One that is asked for something is
left as the calls of the step tell; every other one is left alone, and so are all when the step fails,
and the one that is denied a change of its charset. -/
structure Frames (b : Backend σ) (m : Moment σ) : Prop where
  asked : ∀ place c request, m.before.connections[place]? = some c →
    m.step.Asks m.before place request →
      m.after.connections[place]? = some (request.leaves c (m.calls b))
  unasked : ∀ place c, m.before.connections[place]? = some c →
    (∀ request, ¬ m.step.Asks m.before place request) → m.after.connections[place]? = some c
  failed : ∀ (place : Nat) c fault, m.before.connections[place]? = some c → m.outcome = .error fault →
    m.after.connections[place]? = some c
  denied : ∀ place c charset, m.before.connections[place]? = some c →
    m.step.Asks m.before place (.setCharset charset) → m.outcome = .ok (.flag false) →
      m.after.connections[place]? = some c

theorem Answers.getElem_eq (hanswers : m.Answers b place c request)
    (hc : m.before.connections[place]? = some c) :
    m.after.connections[place]? = some (request.leaves c (m.calls b)) := by
  have haccounts := Request.answer_accounts (b := b) (w := m.before.world) c request
  cases hanswers with
  | answered hrun _ hevents hconnections =>
    rw [hrun, ← hevents] at haccounts
    rw [hconnections, List.getElem?_set_self (List.getElem?_eq_some_iff.1 hc).1, haccounts.1]
    rfl
  | failed hrun _ hevents hconnections =>
    rw [hrun, ← hevents] at haccounts
    rw [hconnections, hc]
    exact congrArg some haccounts.symm

theorem Done.frames (hm : m.Done b) : m.Frames b where
  asked place c request hc hasks := (hm.answers hc hasks).getElem_eq hc
  unasked place c hc hunasked := hm.getElem_eq_of_unasked hc hunasked
  failed place c fault hc houtcome := by
    by_cases hasked : ∃ request, m.step.Asks m.before place request
    · obtain ⟨request, hasks⟩ := hasked
      cases hm.answers hc hasks with
      | answered _ houtcome' =>
        rw [houtcome] at houtcome'
        rcases houtcome' with hok | ⟨-, name, hok⟩ <;> cases hok
      | failed _ _ _ hconnections => rw [hconnections, hc]
    · exact hm.getElem_eq_of_unasked hc (not_exists.1 hasked)
  denied place c charset hc hasks houtcome := by
    have haccounts :=
      Request.answer_accounts (b := b) (w := m.before.world) c (.setCharset charset)
    cases hm.answers hc hasks with
    | answered hrun houtcome' _ hconnections =>
      rw [houtcome] at houtcome'
      obtain hok | ⟨-, name, hok⟩ := houtcome'
      · cases hok
        rw [hrun] at haccounts
        rw [hconnections, List.getElem?_set_self (List.getElem?_eq_some_iff.1 hc).1,
          haccounts.2 ⟨charset, rfl⟩ rfl]
      · cases hok
    | failed _ houtcome' =>
      rw [houtcome] at houtcome'
      cases houtcome'

end Moment

namespace Session

variable {s s' : Session σ} {moments : List (Moment σ)}

/-- One step after the other, a connection goes on. -/
theorem Path.exists_continues (hpath : Path b s moments s') {place : Nat} {c : Connection}
    (hc : s.connections[place]? = some c) :
    ∃ c', s'.connections[place]? = some c' ∧ c.Continues c' := by
  induction hpath generalizing c with
  | here => exact ⟨c, hc, .refl c⟩
  | outside _ _ ih => exact ih hc
  | entered _ _ _ ih => exact ih hc
  | left _ ih => exact ih hc
  | @done m _ moments hm _ ih =>
    by_cases hasked : ∃ request, m.step.Asks m.before place request
    · obtain ⟨request, hasks⟩ := hasked
      obtain ⟨c', hc', hcontinues⟩ := ih (hm.frames.asked place c request hc hasks)
      exact ⟨c', hc', (request.continues_leaves ..).trans hcontinues⟩
    · exact ih (hm.frames.unasked place c hc (not_exists.1 hasked))

/-- Whatever is done in a session and whatever the drivers raise: a connection is changed by nothing
but a close that the driver made, which takes the driver connection away, and a change of charset that
the driver made, which the settings record. All else that is said of a connection stays the same for
as long as the session goes on. -/
theorem performAll_frames_connections (b : Backend σ) (s : Session σ) (steps : List (Step σ)) :
    ∃ moments, Path b s moments (s.performAll b steps).2 ∧
      moments.map Moment.result = Entry.allResults (s.performAll b steps).1 ∧
      (∀ m ∈ moments, m.Frames b) ∧
      ∀ (place : Nat) c, (s.connections[place]? = some c ∨
          ∃ m ∈ moments, m.after.connections[place]? = some c) →
        ∃ c', (s.performAll b steps).2.connections[place]? = some c' ∧ c.Continues c' ∧
          c'.dsn = c.dsn ∧ c'.settings.effectivePort = c.settings.effectivePort := by
  obtain ⟨moments, hpath, hresults⟩ := exists_path_performAll b s steps
  refine ⟨moments, hpath, hresults, fun m hm => (hpath.forall_done m hm).frames, ?_⟩
  intro place c hc
  have hpath' : ∃ s₁ later, s₁.connections[place]? = some c ∧
      Path b s₁ later (s.performAll b steps).2 := by
    rcases hc with hc | ⟨m, hm, hc⟩
    · exact ⟨s, moments, hc, hpath⟩
    · obtain ⟨earlier, later, rfl⟩ := List.append_of_mem hm
      exact ⟨m.after, later, hc, hpath.split.2⟩
  obtain ⟨s₁, later, hc, hlater⟩ := hpath'
  obtain ⟨c', hc', hcontinues⟩ := hlater.exists_continues hc
  exact ⟨c', hc', hcontinues, hcontinues.dsn_eq, hcontinues.effectivePort_eq⟩

end Session

end SqlBridge
