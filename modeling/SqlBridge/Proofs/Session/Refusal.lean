import SqlBridge.Proofs.Connection.Closed
import SqlBridge.Proofs.Session.Closing

namespace SqlBridge

variable {σ : Type} {b : Backend σ}

theorem Connection.Closing.driver_eq_none {w : σ} {c c' : Connection} {events : List Event}
    (hclosing : Closing b w c (.ok c') events) : c'.driver = none := by
  cases hclosing with
  | idle hdriver => exact hdriver
  | closed => rfl

theorem Connection.Continues.driver_eq_none {c c' : Connection} (hcontinues : c.Continues c')
    (hclosed : c.driver = none) : c'.driver = none :=
  hcontinues.driver_eq.elim (·.trans hclosed) id

namespace Moment

variable {m : Moment σ} {place : Nat} {c : Connection} {request : Request}

/-- What is asked of a place without a connection fails. -/
theorem Done.exists_asked (hm : m.Done b) (hasks : m.step.Asks m.before place request)
    {answer : Answer} (hok : m.outcome = .ok answer) :
    ∃ c, m.before.connections[place]? = some c := by
  refine Option.ne_none_iff_exists'.1 fun hmissing => ?_
  have hdone := congrArg Prod.fst hm.perform_eq
  generalize m.step = step at hasks hdone
  rw [hok] at hdone
  cases hasks with
  | named hplace =>
    rw [Session.perform, hplace] at hdone
    simp [Session.act, hmissing] at hdone
  | databaseExists hslot =>
    simp [Session.perform, Session.askDefault, hslot, Session.act, hmissing] at hdone
  | tableExists hslot =>
    simp [Session.perform, Session.askDefault, hslot, Session.act, hmissing] at hdone
  | cleared hslot =>
    simp [Session.perform, Session.clearDefault, hslot, Session.act, hmissing] at hdone

/-- A helper of a closed connection gives the answer that it has ahead, and is refused if it has none
but is prepared. -/
structure Declines (m : Moment σ) (c : Connection) (request : Request) : Prop where
  ahead : ∀ r, request.answerAhead? c = some r → m.outcome = r.map .flag ∧ m.events = []
  refused : request.answerAhead? c = none → request.IsPrepared c →
    m.outcome = .error (.database ⟨.connection (some "Connection is closed"), some c.info, none⟩) ∧
      ∀ event ∈ m.events, event.isLog = true

theorem Done.outcome_of_helper (hm : m.Done b) (hc : m.before.connections[place]? = some c)
    (hasks : m.step.Asks m.before place request) (hhelper : request.isHelper = true) :
    m.outcome = (request.answer b c m.before.world).outcome.map Prod.fst := by
  cases hm.answers hc hasks with
  | answered hrun houtcome =>
    rw [hrun]
    rcases houtcome with hok | ⟨hclear, -⟩
    · exact hok
    · rw [hclear] at hasks
      cases hasks
      cases hhelper
  | failed hrun houtcome =>
    rw [hrun]
    exact houtcome

theorem Done.declines (hm : m.Done b) (hc : m.before.connections[place]? = some c)
    (hclosed : c.driver = none) (hasks : m.step.Asks m.before place request)
    (hhelper : request.isHelper = true) : m.Declines c request := by
  have houtcome := hm.outcome_of_helper hc hasks hhelper
  have hevents := (hm.answers hc hasks).events_eq
  refine ⟨fun r hahead => ?_, fun hahead hprepared => ?_⟩
  · rw [Request.answer_of_answerAhead? hahead] at houtcome hevents
    refine ⟨houtcome.trans ?_, hevents⟩
    cases r <;> rfl
  · obtain ⟨-, hfault, -, hlogs⟩ := Request.answer_refuses (b := b) (w := m.before.world) hclosed hhelper
      hprepared hahead
    rw [hfault] at houtcome
    rw [← hevents] at hlogs
    exact ⟨houtcome, hlogs⟩

end Moment

namespace Session

variable {s s' : Session σ} {earlier later : List (Moment σ)} {m m' : Moment σ} {place : Nat}

/-- Once a connection was closed, it stays closed and its helpers decline whatever they are asked for.
They refuse all that is prepared, except for what has an answer ahead. -/
theorem helpers_decline_after_close {request : Request}
    (hpath : Path b s (earlier ++ m :: later) s') (hasks : m.AsksToClose place)
    (hsucceeds : ∃ answer, m.outcome = .ok answer) (hlater : m' ∈ later)
    (hasks' : m'.step.Asks m'.before place request) (hhelper : request.isHelper = true) :
    ∃ c, m'.before.connections[place]? = some c ∧ c.driver = none ∧ m'.Declines c request := by
  have hm := hpath.forall_done m (by simp)
  have hm' := hpath.forall_done m' (by simp [hlater])
  obtain ⟨answer, hok⟩ := hsucceeds
  obtain ⟨asked, hasked, -⟩ := id hasks
  obtain ⟨c, hc⟩ := hm.exists_asked hasked hok
  obtain ⟨r, hclosing, hr⟩ := hm.closing hc hasks
  cases r with
  | error fault =>
    rw [hok] at hr
    cases hr.1
  | ok closed =>
    obtain ⟨between, rest, rfl⟩ := List.append_of_mem hlater
    obtain ⟨c', hc', hcontinues⟩ := hpath.split.2.split.1.exists_continues hr.2
    have hclosed := hcontinues.driver_eq_none hclosing.driver_eq_none
    exact ⟨c', hc', hclosed, hm'.declines hc' hclosed hasks' hhelper⟩

theorem helpers_decline_after_close_of_execute :
    let b := Backend.refusing []
    let c : Connection := ⟨{ engine := .mysql, dbname := "shop", alwaysParse := false }, some ⟨0⟩⟩
    ∃ s m₁ m₂ m₃ s', Path b s [m₁, m₂, m₃] s' ∧ m₁.step = .request "c" .exit ∧
      m₂.step = .request "c" (.execute "DELETE FROM orders" .null []) ∧
      m₂.outcome = .error (.database ⟨.connection (some "Connection is closed"), some c.info, none⟩) ∧
      m₃.step = .request "c" (.tableExists "no name" none) ∧ m₃.outcome = .ok (.flag false) := by
  intro b c
  let s₁ : Session Nat := ⟨[c], [("c", 0)], none, 0⟩
  let s₂ : Session Nat := ⟨[{ c with driver := none }], [("c", 0)], none, 0⟩
  let m₁ : Moment Nat := ⟨s₁, .request "c" .exit, .ok .done,
    [.close ⟨0⟩, .log .info .connection "Closed mysql connection mysql:host=;dbname=shop"], s₂⟩
  let m₂ : Moment Nat :=
    ⟨s₂, .request "c" (.execute "DELETE FROM orders" .null []), .error c.closedFault, [], s₂⟩
  let m₃ : Moment Nat := ⟨s₂, .request "c" (.tableExists "no name" none), .ok (.flag false), [], s₂⟩
  have hm₁ : m₁.Done b := ⟨nofun, rfl⟩
  have hm₂ : m₂.Done b := ⟨nofun, rfl⟩
  have hm₃ : m₃.Done b := ⟨nofun, rfl⟩
  have hpath : Path b s₁ ([] ++ m₁ :: [m₂, m₃]) s₂ := .done hm₁ (.done hm₂ (.done hm₃ (.here s₂)))
  have hasks : m₁.AsksToClose 0 := ⟨.exit, .named rfl, rfl⟩
  obtain ⟨c₂, hc₂, -, hexecute⟩ := helpers_decline_after_close hpath hasks ⟨_, rfl⟩
    (show m₂ ∈ [m₂, m₃] by simp) (.named rfl) rfl
  obtain ⟨c₃, hc₃, -, htable⟩ := helpers_decline_after_close hpath hasks ⟨_, rfl⟩
    (show m₃ ∈ [m₂, m₃] by simp) (.named rfl) rfl
  cases hc₂
  cases hc₃
  exact ⟨s₁, m₁, m₂, m₃, s₂, hpath, rfl, rfl, (hexecute.refused rfl ⟨_, rfl⟩).1, rfl,
    (htable.ahead (.ok false) rfl).1⟩

/-- A closed connection still answers that it has the charset it is asked for, and that there is no
database and no table of a name that it does not look up. -/
theorem closed_connection_answers_ahead :
    let draft : Draft := { engine := .engine .pgsql, dbname := "app" }
    let steps : List (Step Nat) := [.connect "c" draft (some ⟨0⟩), .request "c" .close,
      .request "c" (.setCharset (some "utf8")), .request "c" (.databaseExists "no name"),
      .request "c" (.tableExists "1t" none)]
    Entry.allResults ((start 0).performAll (Backend.refusing []) steps).1 = [(.ok .opened, []),
      (.ok .done, [.close ⟨0⟩,
        .log .info .connection "Closed pgsql connection pgsql:host=;dbname=app"]),
      (.ok (.flag true), []), (.ok (.flag false), []), (.ok (.flag false), [])] := by
  rfl

end Session

end SqlBridge
