import SqlBridge.Proofs.Connection.Liveness
import SqlBridge.Proofs.Session.Frame
import SqlBridge.Proofs.Session.Handles

namespace SqlBridge

variable {σ : Type} {b : Backend σ} {h : Handle}

theorem Request.leaves_driver {request : Request} (hother : request.isClosing = false)
    (c : Connection) (calls : List Call) : (request.leaves c calls).driver = c.driver := by
  cases request with
  | exit => cases hother
  | close => cases hother
  | setCharset charset =>
    cases charset with
    | none => rfl
    | some wanted =>
      rw [leaves]
      split_ifs <;> rfl
  | _ => rfl

/-- How often a driver connection was closed, not counting the attempts that failed. -/
def closeCount (h : Handle) (calls : List Call) : Nat :=
  calls.countP (Call.closes (some h))

theorem closeCount_append (h : Handle) (calls later : List Call) :
    closeCount h (calls ++ later) = closeCount h calls + closeCount h later :=
  List.countP_append

theorem closeCount_driverCalls (h : Handle) (calls : List Call) :
    closeCount h (driverCalls calls) = closeCount h calls := by
  rw [driverCalls, closeCount, List.countP_filter]
  refine List.countP_congr fun call _ => ?_
  obtain ⟨event, reply⟩ := call
  cases event <;> simp [Event.isLog, Call.closes]

theorem closeCount_eq_zero {calls : List Call} (hcalls : ∀ call ∈ calls,
    call.event.handle? ≠ some h ∨ call.event.isClose = false) : closeCount h calls = 0 := by
  refine List.countP_eq_zero.2 fun call hcall hcloses => ?_
  have hevent := Call.event_eq_of_closes hcloses
  have hspared := hcalls call hcall
  rw [hevent] at hspared
  exact hspared.elim (absurd rfl) nofun

/-- The connection at a place has this driver connection, or none. -/
def Session.HasDriver (s : Session σ) (place : Nat) (driver : Option Handle) : Prop :=
  ∃ c, s.connections[place]? = some c ∧ c.driver = driver

namespace Moment

/-- The driver connection belongs to the connection at a place alone: no package hands it out, and no
other connection has it. -/
structure KeepsApart (b : Backend σ) (m : Moment σ) (place : Nat) (h : Handle) : Prop where
  fresh : ∀ call ∈ m.calls b, call.reply ≠ .connected h
  unshared : ∀ other c, m.before.connections[other]? = some c → c.driver = some h → other = place

/-- The step asks the connection at a place to close. -/
def AsksToClose (m : Moment σ) (place : Nat) : Prop :=
  ∃ request, m.step.Asks m.before place request ∧ request.isClosing = true

/-- The connection at a place closes its driver connection and does not have it any longer. -/
structure Closes (b : Backend σ) (m : Moment σ) (place : Nat) (h : Handle) : Prop where
  succeeds : ∃ answer, m.outcome = .ok answer
  calls_eq : driverCalls (m.calls b) = [⟨.close h, .returned⟩]
  after_eq : m.after.connections[place]? =
    m.before.connections[place]?.map ({ · with driver := none })

/-- The driver connection fails to close, as the caller is told, and the connection at the place is what
it was. -/
structure FailsToClose (b : Backend σ) (m : Moment σ) (place : Nat) (h : Handle) (failure : Failure) :
    Prop where
  propagates : m.outcome = .error (.problem (.raised failure))
  raised : b.failure? m.before.world (.close h) = some failure
  calls_eq : m.calls b = [⟨.close h, .raised⟩]
  after_eq : m.after.connections[place]? = m.before.connections[place]?

/-- The connection at a place has its driver connection before the moment. What is asked of it reaches
the driver, and nothing takes the driver connection away but a close. -/
structure IsLive (b : Backend σ) (m : Moment σ) (place : Nat) (h : Handle) : Prop where
  live_before : m.before.HasDriver place (some h)
  reached : ∀ c request, m.before.connections[place]? = some c → m.step.Asks m.before place request →
    request.Reaches b c m.before.world → .cursorOpen h ∈ m.events
  closing : m.AsksToClose place → m.Closes b place h ∨ ∃ failure, m.FailsToClose b place h failure
  kept : ¬ m.AsksToClose place →
    m.after.HasDriver place (some h) ∧ closeCount h (m.calls b) = 0

/-- The moment is past the closing of a driver connection. The connection that had it is closed and
stays so, nothing is done with the driver connection, and to close the connection once more does
nothing at all. -/
structure IsPast (b : Backend σ) (m : Moment σ) (place : Nat) (h : Handle) : Prop where
  closed_before : m.before.HasDriver place none
  closed_after : m.after.HasDriver place none
  untouched : ∀ event ∈ m.events, event.handle? ≠ some h
  idle : m.AsksToClose place → (∃ answer, m.outcome = .ok answer) ∧ m.events = [] ∧
    m.after.connections[place]? = m.before.connections[place]?

variable {m : Moment σ} {place : Nat} {c : Connection}

/-- Asking a connection to close comes to closing it. -/
theorem Done.closing (hm : m.Done b) (hc : m.before.connections[place]? = some c)
    (hasks : m.AsksToClose place) :
    ∃ r, Connection.Closing b m.before.world c r m.events ∧
      match r with
      | .ok c' => (∃ answer, m.outcome = .ok answer) ∧ m.after.connections[place]? = some c'
      | .error fault => m.outcome = .error fault ∧ m.after.connections[place]? = some c := by
  obtain ⟨request, hasks, hclosing⟩ := hasks
  -- To leave the block of a connection is to close it.
  have hanswer : request.answer b c m.before.world = Request.close.answer b c m.before.world := by
    cases request with
    | exit => rfl
    | close => rfl
    | _ => cases hclosing
  rw [Request.answer_close] at hanswer
  obtain ⟨-, hclosing⟩ := Connection.close_endsFrom (b := b) (w := m.before.world) c
  refine ⟨(c.close b m.before.world).outcome, ?_⟩
  cases hm.answers hc hasks with
  | answered hrun houtcome hevents hconnections =>
    rw [hanswer] at hrun hevents
    rw [hevents]
    refine ⟨hclosing, ?_⟩
    cases hclose : (c.close b m.before.world).outcome with
    | error fault =>
      rw [hclose] at hrun
      cases hrun
    | ok c' =>
      rw [hclose] at hrun
      cases hrun
      rw [hconnections, List.getElem?_set_self (List.getElem?_eq_some_iff.1 hc).1]
      refine ⟨?_, rfl⟩
      rcases houtcome with hok | ⟨-, name, hok⟩
      · exact ⟨_, hok⟩
      · exact ⟨_, hok⟩
  | failed hrun houtcome hevents hconnections =>
    rw [hanswer] at hrun hevents
    rw [hevents]
    refine ⟨hclosing, ?_⟩
    cases hclose : (c.close b m.before.world).outcome with
    | ok c' =>
      rw [hclose] at hrun
      cases hrun
    | error fault =>
      rw [hclose] at hrun
      cases hrun
      rw [hconnections]
      exact ⟨houtcome, hc⟩

theorem Closes.hasDriver {driver : Option Handle} (hcloses : m.Closes b place h)
    (hbefore : m.before.HasDriver place driver) : m.after.HasDriver place none := by
  obtain ⟨c, hc, -⟩ := hbefore
  refine ⟨{ c with driver := none }, ?_, rfl⟩
  rw [hcloses.after_eq, hc]
  rfl

theorem Closes.closeCount_eq (hcloses : m.Closes b place h) : closeCount h (m.calls b) = 1 := by
  rw [← closeCount_driverCalls, hcloses.calls_eq]
  simp [closeCount, Call.closes]

theorem FailsToClose.closeCount_eq {failure : Failure} (hfails : m.FailsToClose b place h failure) :
    closeCount h (m.calls b) = 0 := by
  rw [hfails.calls_eq]
  rfl

/-- A driver connection that belongs to a place is left alone when nothing is asked of the connection
there. -/
theorem KeepsApart.untouched (hapart : m.KeepsApart b place h) (hm : m.Done b)
    (hunasked : ∀ c request, m.before.connections[place]? = some c →
      m.step.Asks m.before place request → c.driver ≠ some h) :
    ∀ event ∈ m.events, event.handle? ≠ some h := by
  refine hm.handle?_ne hapart.fresh ?_
  intro other c request hc hasks hdriver
  obtain rfl := hapart.unshared other c hc hdriver
  exact hunasked c request hc hasks hdriver

theorem Done.closes_or_fails (hm : m.Done b) (hopen : m.before.HasDriver place (some h))
    (hasks : m.AsksToClose place) :
    m.Closes b place h ∨ ∃ failure, m.FailsToClose b place h failure := by
  obtain ⟨c, hc, hlive⟩ := hopen
  obtain ⟨r, hclosing, hr⟩ := hm.closing hc hasks
  generalize hevents : m.events = events at hclosing
  cases hclosing with
  | idle hdriver =>
    rw [hlive] at hdriver
    cases hdriver
  | @failed h' failure hdriver hfailure =>
    obtain rfl : h = h' := Option.some.inj (hlive.symm.trans hdriver)
    have hreply := (b.reply_eq_raised_iff m.before.world (.close h)).2 ⟨failure, hfailure⟩
    refine .inr ⟨failure, hr.1, hfailure, ?_, hr.2.trans hc.symm⟩
    rw [calls, hevents, Backend.calls, hreply]
    rfl
  | @closed h' hdriver hreturned =>
    obtain rfl : h = h' := Option.some.inj (hlive.symm.trans hdriver)
    refine .inl ⟨hr.1, ?_, ?_⟩
    · rw [calls, hevents, Backend.calls, b.reply_close_of_failure?_eq_none hreturned]
      rfl
    · rw [hr.2, hc]
      rfl

theorem Done.isLive (hm : m.Done b) (hopen : m.before.HasDriver place (some h))
    (hapart : m.KeepsApart b place h) : m.IsLive b place h where
  live_before := hopen
  reached c request hc hasks hreaches := by
    obtain ⟨c', hc', hdriver⟩ := hopen
    obtain rfl : c' = c := Option.some.inj (hc'.symm.trans hc)
    rw [(hm.answers hc hasks).events_eq]
    exact hreaches.cursorOpen_mem hdriver
  closing hasks := hm.closes_or_fails hopen hasks
  kept hother := by
    obtain ⟨c, hc, hdriver⟩ := hopen
    by_cases hasked : ∃ request, m.step.Asks m.before place request
    · obtain ⟨request, hasks⟩ := hasked
      have hrequest : request.isClosing = false :=
        Bool.eq_false_iff.2 fun hclosing => hother ⟨request, hasks, hclosing⟩
      refine ⟨⟨_, hm.frames.asked place c request hc hasks, ?_⟩, ?_⟩
      · rw [request.leaves_driver hrequest, hdriver]
      · refine closeCount_eq_zero fun call hcall => .inr ?_
        have hevent := event_mem hcall
        rw [(hm.answers hc hasks).events_eq] at hevent
        exact request.answer_closeless c hrequest m.before.world call.event hevent
    · have hunasked := not_exists.1 hasked
      refine ⟨⟨c, hm.getElem_eq_of_unasked hc hunasked, hdriver⟩, closeCount_eq_zero ?_⟩
      intro call hcall
      refine .inl (hapart.untouched hm ?_ call.event (event_mem hcall))
      exact fun _ request _ hasks => absurd hasks (hunasked request)

theorem Done.isPast (hm : m.Done b) (hclosed : m.before.HasDriver place none)
    (hapart : m.KeepsApart b place h) : m.IsPast b place h where
  closed_before := hclosed
  closed_after := by
    obtain ⟨c, hc, hdriver⟩ := hclosed
    by_cases hasked : ∃ request, m.step.Asks m.before place request
    · obtain ⟨request, hasks⟩ := hasked
      refine ⟨_, hm.frames.asked place c request hc hasks, ?_⟩
      rcases (request.continues_leaves c (m.calls b)).driver_eq with hsame | hgone
      · rw [hsame, hdriver]
      · exact hgone
    · exact ⟨c, hm.getElem_eq_of_unasked hc (not_exists.1 hasked), hdriver⟩
  untouched := by
    obtain ⟨c, hc, hdriver⟩ := hclosed
    refine hapart.untouched hm ?_
    intro c' request hc' _ hlive
    obtain rfl : c = c' := Option.some.inj (hc.symm.trans hc')
    rw [hdriver] at hlive
    cases hlive
  idle hasks := by
    obtain ⟨c, hc, hdriver⟩ := hclosed
    obtain ⟨r, hclosing, hr⟩ := hm.closing hc hasks
    generalize hevents : m.events = events at hclosing
    cases hclosing with
    | idle => exact ⟨hr.1, rfl, hr.2.trans hc.symm⟩
    | failed hlive =>
      rw [hdriver] at hlive
      cases hlive
    | closed hlive =>
      rw [hdriver] at hlive
      cases hlive

/-- A moment closes a driver connection at most once, and when it does, then the connection is closed. -/
theorem IsLive.closes_once (hlive : m.IsLive b place h) :
    (m.after.HasDriver place (some h) ∧ closeCount h (m.calls b) = 0) ∨
      (m.after.HasDriver place none ∧ closeCount h (m.calls b) = 1) := by
  by_cases hasks : m.AsksToClose place
  · rcases hlive.closing hasks with hcloses | ⟨failure, hfails⟩
    · exact .inr ⟨hcloses.hasDriver hlive.live_before, hcloses.closeCount_eq⟩
    · refine .inl ⟨?_, hfails.closeCount_eq⟩
      obtain ⟨c, hc, hdriver⟩ := hlive.live_before
      exact ⟨c, hfails.after_eq.trans hc, hdriver⟩
  · exact .inl (hlive.kept hasks)

end Moment

namespace Session

variable {s s' : Session σ} {place : Nat} {moments : List (Moment σ)}

theorem Path.isPast (hpath : Path b s moments s') (hclosed : s.HasDriver place none)
    (hapart : ∀ m ∈ moments, m.KeepsApart b place h) :
    s'.HasDriver place none ∧ ∀ m ∈ moments, m.IsPast b place h := by
  induction hpath with
  | here => exact ⟨hclosed, by simp⟩
  | outside _ _ ih => exact ih hclosed hapart
  | entered _ _ _ ih => exact ih hclosed hapart
  | left _ ih => exact ih hclosed hapart
  | done hm _ ih =>
    obtain ⟨hnow, hlater⟩ := List.forall_mem_cons.1 hapart
    have hpast := hm.isPast hclosed hnow
    obtain ⟨hend, hpasts⟩ := ih hpast.closed_after hlater
    exact ⟨hend, List.forall_mem_cons.2 ⟨hpast, hpasts⟩⟩

theorem closeCount_of_isPast (hpast : ∀ m ∈ moments, m.IsPast b place h) :
    closeCount h (moments.flatMap (Moment.calls b)) = 0 := by
  refine closeCount_eq_zero fun call hcall => .inl ?_
  obtain ⟨m, hm, hcall⟩ := List.mem_flatMap.1 hcall
  exact (hpast m hm).untouched call.event (Moment.event_mem hcall)

theorem Path.closes_once (hpath : Path b s moments s') (hopen : s.HasDriver place (some h))
    (hapart : ∀ m ∈ moments, m.KeepsApart b place h) :
    (s'.HasDriver place (some h) ∧ closeCount h (moments.flatMap (Moment.calls b)) = 0) ∨
      (s'.HasDriver place none ∧ closeCount h (moments.flatMap (Moment.calls b)) = 1) := by
  induction hpath with
  | here => exact .inl ⟨hopen, rfl⟩
  | outside _ _ ih => exact ih hopen hapart
  | entered _ _ _ ih => exact ih hopen hapart
  | left _ ih => exact ih hopen hapart
  | done hm hpath ih =>
    obtain ⟨hnow, hlater⟩ := List.forall_mem_cons.1 hapart
    rw [List.flatMap_cons, closeCount_append]
    rcases (hm.isLive hopen hnow).closes_once with ⟨hstill, hzero⟩ | ⟨hclosed, hone⟩
    · rw [hzero, Nat.zero_add]
      exact ih hstill hlater
    · obtain ⟨hend, hpasts⟩ := hpath.isPast hclosed hlater
      rw [hone, closeCount_of_isPast hpasts]
      exact .inr ⟨hend, rfl⟩

/-- To close a connection is final. As long as its driver connection was not closed, every moment finds
the connection live: what is asked of it reaches the driver, and to close it either closes the driver
connection or fails with what the driver raised and leaves the connection as it was, to be closed again.
When the driver connection was closed, which happens once at most, every later moment is past that.
This holds for a driver connection that no other connection has and that no package hands out a second
time. -/
theorem closing_is_final (hpath : Path b s moments s') (hopen : s.HasDriver place (some h))
    (hapart : ∀ m ∈ moments, m.KeepsApart b place h) :
    (∀ earlier m later, moments = earlier ++ m :: later →
      ((m.IsLive b place h ∧ closeCount h (earlier.flatMap (Moment.calls b)) = 0) ∨
        (m.IsPast b place h ∧ closeCount h (earlier.flatMap (Moment.calls b)) = 1)) ∧
      (m.Closes b place h → ∀ m' ∈ later, m'.IsPast b place h)) ∧
    ((s'.HasDriver place (some h) ∧ closeCount h (moments.flatMap (Moment.calls b)) = 0) ∨
      (s'.HasDriver place none ∧ closeCount h (moments.flatMap (Moment.calls b)) = 1)) := by
  refine ⟨?_, hpath.closes_once hopen hapart⟩
  rintro earlier m later rfl
  obtain ⟨hbefore, hafter⟩ := hpath.split
  have hm := hpath.forall_done m (by simp)
  obtain ⟨hearlier, hrest⟩ := List.forall_mem_append.1 hapart
  obtain ⟨hnow, hlater⟩ := List.forall_mem_cons.1 hrest
  rcases hbefore.closes_once hopen hearlier with ⟨hlive, hzero⟩ | ⟨hclosed, hone⟩
  · refine ⟨.inl ⟨hm.isLive hlive hnow, hzero⟩, fun hcloses => ?_⟩
    exact (hafter.isPast (hcloses.hasDriver hlive) hlater).2
  · have hpast := hm.isPast hclosed hnow
    exact ⟨.inr ⟨hpast, hone⟩, fun _ => (hafter.isPast hpast.closed_after hlater).2⟩

theorem closing_is_final_after_failure :
    let b := { Backend.refusing [] with
      close := fun _ n => if n = 0 then (.error ⟨.os, "busy"⟩, n + 1) else (.ok (), n) }
    ∃ s m₁ m₂ m₃ m₄ s', Path b s [m₁, m₂, m₃, m₄] s' ∧ s.HasDriver 0 (some ⟨0⟩) ∧
      m₁.step = .clearDefault true ∧ m₁.FailsToClose b 0 ⟨0⟩ ⟨.os, "busy"⟩ ∧
      m₂.step = .request "c" (.execute "DELETE FROM t" .null []) ∧ .cursorOpen ⟨0⟩ ∈ m₂.events ∧
      m₃.step = .request "c" .exit ∧ m₃.Closes b 0 ⟨0⟩ ∧
      m₄.step = .request "c" .close ∧ m₄.IsPast b 0 ⟨0⟩ ∧
      closeCount ⟨0⟩ ([m₁, m₂, m₃, m₄].flatMap (Moment.calls b)) = 1 := by
  intro b
  let c : Connection := ⟨{ engine := .sqlite, dbname := "shop", alwaysParse := false }, some ⟨0⟩⟩
  let s₀ : Session Nat := ⟨[c], [("c", 0)], some 0, 0⟩
  let s₁ : Session Nat := ⟨[c], [("c", 0)], none, 1⟩
  let s₂ : Session Nat := ⟨[{ c with driver := none }], [("c", 0)], none, 1⟩
  let m₁ : Moment Nat := ⟨s₀, .clearDefault true, .error (.problem (.raised ⟨.os, "busy"⟩)),
    [.close ⟨0⟩], s₁⟩
  let m₂ : Moment Nat := ⟨s₁, .request "c" (.execute "DELETE FROM t" .null []), .ok (.value (.int 0)),
    [.cursorOpen ⟨0⟩, .log .debug .connection "Executing SQL: DELETE FROM t",
      .execute ⟨0⟩ "DELETE FROM t" none, .cursorClose ⟨0⟩], s₁⟩
  let m₃ : Moment Nat := ⟨s₁, .request "c" .exit, .ok .done,
    [.close ⟨0⟩, .log .info .connection "Closed sqlite connection sqlite:shop"], s₂⟩
  let m₄ : Moment Nat := ⟨s₂, .request "c" .close, .ok .done, [], s₂⟩
  have hm₁ : m₁.Done b := ⟨nofun, rfl⟩
  have hm₂ : m₂.Done b := ⟨nofun, rfl⟩
  have hm₃ : m₃.Done b := ⟨nofun, rfl⟩
  have hm₄ : m₄.Done b := ⟨nofun, rfl⟩
  have hpath : Path b s₀ [m₁, m₂, m₃, m₄] s₂ :=
    .done hm₁ (.done hm₂ (.done hm₃ (.done hm₄ (.here s₂))))
  have hopen : s₀.HasDriver 0 (some ⟨0⟩) := ⟨c, rfl, rfl⟩
  -- There is one connection only, and no package is asked for another one.
  have hapart {m : Moment Nat} (hlone : m.before.connections.length = 1)
      (hfresh : ∀ call ∈ m.calls b, call.reply ≠ .connected ⟨0⟩) : m.KeepsApart b 0 ⟨0⟩ := by
    refine ⟨hfresh, fun other c' hc' _ => ?_⟩
    have hother := (List.getElem?_eq_some_iff.1 hc').1
    omega
  have hmoments : ∀ m ∈ [m₁, m₂, m₃, m₄], m.KeepsApart b 0 ⟨0⟩ :=
    List.forall_mem_cons.2 ⟨hapart rfl (by decide), List.forall_mem_cons.2 ⟨hapart rfl (by decide),
      List.forall_mem_cons.2 ⟨hapart rfl (by decide),
        List.forall_mem_singleton.2 (hapart rfl (by decide))⟩⟩⟩
  obtain ⟨hfinal, hend⟩ := closing_is_final hpath hopen hmoments
  have hlive (earlier : List (Moment Nat)) {later : List (Moment Nat)} {m : Moment Nat}
      (hsplit : [m₁, m₂, m₃, m₄] = earlier ++ m :: later)
      (hnone : closeCount ⟨0⟩ (earlier.flatMap (Moment.calls b)) = 0) : m.IsLive b 0 ⟨0⟩ := by
    rcases (hfinal earlier m later hsplit).1 with ⟨hlive, -⟩ | ⟨-, hone⟩
    · exact hlive
    · rw [hnone] at hone
      cases hone
  have hfails : m₁.FailsToClose b 0 ⟨0⟩ ⟨.os, "busy"⟩ := by
    rcases (hlive [] rfl rfl).closing ⟨.close, .cleared rfl, rfl⟩ with
      ⟨⟨_, hok⟩, -, -⟩ | ⟨failure, hfails⟩
    · cases hok
    · have hfailure := hfails.propagates
      cases hfailure
      exact hfails
  have htext : (Request.execute "DELETE FROM t" .null []).callerStatement? c = some "DELETE FROM t" :=
    rfl
  have hreached : .cursorOpen ⟨0⟩ ∈ m₂.events :=
    (hlive [m₁] rfl rfl).reached c _ rfl (.named rfl) (.statement htext)
  have hcloses : m₃.Closes b 0 ⟨0⟩ := by
    rcases (hlive [m₁, m₂] rfl rfl).closing ⟨.exit, .named rfl, rfl⟩ with
      hcloses | ⟨failure, hfails⟩
    · exact hcloses
    · have hfailure := hfails.propagates
      cases hfailure
  have hpast : m₄.IsPast b 0 ⟨0⟩ := (hfinal [m₁, m₂] m₃ [m₄] rfl).2 hcloses m₄ (List.mem_singleton_self _)
  refine ⟨s₀, m₁, m₂, m₃, m₄, s₂, hpath, hopen, rfl, hfails, rfl, hreached, rfl, hcloses, rfl, hpast, ?_⟩
  rcases hend with ⟨⟨c', hc', hdriver⟩, -⟩ | ⟨-, hone⟩
  · obtain rfl := Option.some.inj hc'
    cases hdriver
  · exact hone

end Session

end SqlBridge
