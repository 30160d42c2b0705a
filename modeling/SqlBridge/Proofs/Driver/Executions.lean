import SqlBridge.Proofs.Driver.Failures
import SqlBridge.Proofs.Driver.Interaction

namespace SqlBridge

open SqlBridge.Action

/-- A statement as a driver is told to execute it. -/
structure Execution where
  handle : Handle
  sql : String
  params : Option Value
deriving Repr

def Event.execution? : Event → Option Execution
  | execute h sql params => some ⟨h, sql, params⟩
  | _ => none

/-- What the drivers are told to execute, in order. -/
def executions (events : List Event) : List Execution :=
  events.filterMap Event.execution?

theorem executions_append (events later : List Event) :
    executions (events ++ later) = executions events ++ executions later :=
  List.filterMap_append

/-- Opening and closing a cursor executes nothing. -/
theorem executions_withOpenCursor (h : Handle) (events : List Event) :
    executions (.cursorOpen h :: (events ++ [.cursorClose h])) = executions events := by
  rw [executions, executions, List.filterMap_cons, List.filterMap_append]
  exact List.append_nil _

theorem executions_eq_nil {events : List Event} (hlogs : ∀ event ∈ events, event.isLog = true) :
    executions events = [] := by
  refine List.filterMap_eq_nil_iff.2 fun event hevent => ?_
  have hlog := hlogs event hevent
  cases event <;> first | rfl | cases hlog

namespace Action

variable {σ ε α β : Type} {b : Backend σ} {w : σ} {sent : List Execution}

/-- Run from the world `w`, the action has these statements executed and no others, however it ends. -/
def Executes (b : Backend σ) (w : σ) (x : Action σ ε α) (sent : List Execution) : Prop :=
  x.EndsFrom b w fun _ events => executions events = sent

/-- However the action is run, no statement is executed. -/
def ExecutesNothing (b : Backend σ) (x : Action σ ε α) : Prop :=
  ∀ w, x.Executes b w []

theorem Executes.bind {x : Action σ ε α} {f : α → Action σ ε β} (hx : x.Executes b w sent)
    (hf : ∀ a, (f a).ExecutesNothing b) : (x >>= f).Executes b w sent := by
  refine EndsFrom.bind hx (fun _ _ hsent => hsent) ?_
  intro a events hsent
  refine EndsFrom.mono (hf a _) ?_
  intro r later hnothing
  rw [executions_append, hsent, hnothing, List.append_nil]

theorem executesNothing_pure (a : α) : (pure a : Action σ ε α).ExecutesNothing b :=
  fun _ => endsFrom_pure rfl

theorem executesNothing_ofExcept (r : Except ε α) : (ofExcept r : Action σ ε α).ExecutesNothing b :=
  fun _ => endsFrom_ofExcept rfl

/-- The failure of an action is all that comes of it and what would have followed. -/
theorem bind_eq_of_error {x : Action σ ε α} {f : α → Action σ ε β} {e : ε} {events : List Event}
    {w' : σ} (hx : x w = ⟨.error e, events, w'⟩) : (x >>= f) w = ⟨.error e, events, w'⟩ := by
  rw [bind_apply, andThen, hx]

theorem executesNothing_fetching (h : Handle) : (b.fetching h).ExecutesNothing b :=
  fun _ => endsFrom_fetching (fun _ _ => rfl) fun _ _ => rfl

/-- A cursor that is opened and closed around some work adds no statement to it. -/
theorem executes_cursor {h : Handle} {body : Action σ Fault α}
    (hopens : (b.openCursor h w).1 = .ok ()) (hbody : ∀ w, body.Executes b w sent) :
    ((liftM (b.cursor h) : Action σ Fault Unit) >>= fun _ =>
      b.withOpenCursor h Fault.problem body).Executes b w sent := by
  have hnone : b.failure? w (.cursorOpen h) = none := by
    rw [Backend.failure?, hopens]
    rfl
  have hcursor : (liftM (b.cursor h) : Action σ Fault Unit).EndsFrom b w fun r events =>
      r = .ok () ∧ events = [.cursorOpen h] := by
    refine EndsFrom.lift (endsFrom_cursor (fun _ => ⟨rfl, rfl⟩) fun failure hfailure => ?_)
    rw [hnone] at hfailure
    cases hfailure
  refine EndsFrom.bind hcursor ?_ ?_
  · rintro fault events ⟨hr, -⟩
    cases hr
  · rintro _ _ ⟨-, rfl⟩
    have hadds {events : List Event} (hsent : executions events = sent) :
        executions ([.cursorOpen h] ++ (events ++ [.cursorClose h])) = sent := by
      rw [List.singleton_append, executions_withOpenCursor, hsent]
    exact EndsFrom.withOpenCursor (hbody _) (fun _ _ hsent _ => hadds hsent)
      fun _ _ _ hsent _ => hadds hsent

/-- Where no cursor opens, nothing is sent. -/
theorem executes_cursor_of_failure {h : Handle} {failure : Failure} {f : Unit → Action σ Fault α}
    (hfails : (b.openCursor h w).1 = .error failure) :
    ((liftM (b.cursor h) : Action σ Fault Unit) >>= f).Executes b w [] := by
  have hraised : b.failure? w (.cursorOpen h) = some failure := by
    rw [Backend.failure?, hfails]
    rfl
  have hcursor : (liftM (b.cursor h) : Action σ Fault Unit).EndsFrom b w fun r events =>
      r = .error (.problem (.raised failure)) ∧ events = [.cursorOpen h] := by
    refine EndsFrom.lift (endsFrom_cursor (fun hnone => ?_) fun _ hsame => ?_)
    · rw [hnone] at hraised
      cases hraised
    · cases hraised.symm.trans hsame
      exact ⟨rfl, rfl⟩
  refine EndsFrom.bind hcursor ?_ ?_
  · rintro fault _ ⟨-, rfl⟩
    exact rfl
  · rintro _ _ ⟨⟨⟩, -⟩

variable {P : Fault → Prop}

/-- However the action is run, every fault that it raises is one of these. -/
def RaisesOnly (P : Fault → Prop) (x : Action σ Fault α) : Prop :=
  ∀ w fault, (x w).outcome = .error fault → P fault

theorem RaisesOnly.bind {x : Action σ Fault α} {f : α → Action σ Fault β} (hx : x.RaisesOnly P)
    (hf : ∀ a, (f a).RaisesOnly P) : (x >>= f).RaisesOnly P := by
  intro w fault hraised
  rw [bind_apply, andThen] at hraised
  rcases hrun : x w with ⟨e | a, events, w'⟩ <;> rw [hrun] at hraised
  · cases hraised
    exact hx w fault (by rw [hrun])
  · exact hf a w' fault hraised

theorem raisesOnly_pure (a : α) : (pure a : Action σ Fault α).RaisesOnly P := by
  rintro w fault ⟨⟩

theorem raisesOnly_ofExcept {r : Except Fault α} (hr : ∀ fault, r = .error fault → P fault) :
    (ofExcept r : Action σ Fault α).RaisesOnly P :=
  fun _ => hr

theorem raisesOnly_observe {f : σ → Except Fault α} (hf : ∀ w fault, f w = .error fault → P fault) :
    (observe f).RaisesOnly P :=
  hf

theorem raisesOnly_lift (hproblem : ∀ p, P (.problem p)) (x : Action σ Problem α) :
    (liftM x : Action σ Fault α).RaisesOnly P := by
  intro w fault hraised
  change (x w).outcome.mapError Fault.problem = .error fault at hraised
  cases hrun : (x w).outcome with
  | ok a =>
    rw [hrun] at hraised
    cases hraised
  | error p =>
    rw [hrun] at hraised
    cases hraised
    exact hproblem p

theorem raisesOnly_rescue {x : Action σ Problem α} {handler : Problem → Action σ Fault α}
    (hproblem : ∀ p, P (.problem p)) (hhandler : ∀ p, (handler p).RaisesOnly P) :
    (x.rescue handler).RaisesOnly P := by
  intro w fault hraised
  rw [rescue] at hraised
  rcases hrun : x w with ⟨p | a, events, w'⟩ <;> rw [hrun] at hraised
  · dsimp only at hraised
    split_ifs at hraised
    · cases hraised
      exact hproblem p
    · exact hhandler p w' fault hraised
  · cases hraised

theorem RaisesOnly.withOpenCursor {x : Action σ Fault α} (hx : x.RaisesOnly P)
    (hproblem : ∀ p, P (.problem p)) (h : Handle) :
    (b.withOpenCursor h Fault.problem x).RaisesOnly P := by
  intro w fault hraised
  rcases hclosing : b.closeCursor h (x w).world with ⟨failure | ⟨⟩, w'⟩
  · rw [b.withOpenCursor_of_failure hclosing] at hraised
    cases hraised
    exact hproblem _
  · rw [b.withOpenCursor_of_closed hclosing] at hraised
    exact hx w fault hraised

end Action

end SqlBridge
