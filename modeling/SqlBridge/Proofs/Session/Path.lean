import SqlBridge.Proofs.Driver.Calls
import SqlBridge.Session

namespace SqlBridge

mutual
/-- What came of the steps in an entry, those inside of a block one by one. -/
def Entry.results : Entry → List (Except Fault Answer × List Event)
  | .step outcome events => [(outcome, events)]
  | .block entries _ _ => Entry.allResults entries

def Entry.allResults : List Entry → List (Except Fault Answer × List Event)
  | [] => []
  | entry :: entries => entry.results ++ Entry.allResults entries
end

/-- A step that has no other steps inside of it. -/
def Step.isSimple {σ : Type} : Step σ → Bool
  | .after _ _ | .withDefault _ _ _ => false
  | _ => true

/-- A step that begins at once and is no block, with the sessions before and after it. -/
structure Moment (σ : Type) where
  before : Session σ
  step : Step σ
  outcome : Except Fault Answer
  events : List Event
  after : Session σ

namespace Moment

variable {σ : Type}

/-- Doing the step in the session before it has this outcome, these events and leads to the session
after it. -/
structure Done (b : Backend σ) (m : Moment σ) : Prop where
  now : ∀ change later, m.step ≠ .after change later
  perform_eq : m.before.perform b m.step = (.step m.outcome m.events, m.after)

def result (m : Moment σ) : Except Fault Answer × List Event :=
  (m.outcome, m.events)

def calls (b : Backend σ) (m : Moment σ) : List Call :=
  b.calls m.before.world m.events

end Moment

namespace Session

variable {σ : Type} {b : Backend σ}

/-- The second session can be reached from the first one through these moments. Between them the
outside world may change, and blocks with a default connection begin and end. -/
inductive Path (b : Backend σ) : Session σ → List (Moment σ) → Session σ → Prop where
  | here (s : Session σ) : Path b s [] s
  | outside {s s' : Session σ} {moments : List (Moment σ)} (change : σ → σ)
      (hlater : Path b { s with world := change s.world } moments s') : Path b s moments s'
  | entered {s s' : Session σ} {moments : List (Moment σ)} {name : String} {place : Nat}
      (hplace : s.place? name = some place) (hfree : s.slot = none)
      (hlater : Path b { s with slot := some place } moments s') : Path b s moments s'
  | left {s s' : Session σ} {moments : List (Moment σ)}
      (hlater : Path b { s with slot := none } moments s') : Path b s moments s'
  | done {m : Moment σ} {s' : Session σ} {moments : List (Moment σ)} (hm : m.Done b)
      (hlater : Path b m.after moments s') : Path b m.before (m :: moments) s'

theorem Path.append {s s' s'' : Session σ} {moments later : List (Moment σ)}
    (hpath : Path b s moments s') (hlater : Path b s' later s'') :
    Path b s (moments ++ later) s'' := by
  induction hpath with
  | here => exact hlater
  | outside change _ ih => exact .outside change (ih hlater)
  | entered hplace hfree _ ih => exact .entered hplace hfree (ih hlater)
  | left _ ih => exact .left (ih hlater)
  | done hm _ ih => exact .done hm (ih hlater)

theorem Path.forall_done {s s' : Session σ} {moments : List (Moment σ)}
    (hpath : Path b s moments s') : ∀ m ∈ moments, m.Done b := by
  induction hpath with
  | here => simp
  | outside _ _ ih => exact ih
  | entered _ _ _ ih => exact ih
  | left _ ih => exact ih
  | done hm _ ih => exact List.forall_mem_cons.2 ⟨hm, ih⟩

/-- A path can be taken apart at any of its moments. -/
theorem Path.split {s s' : Session σ} {earlier later : List (Moment σ)} {m : Moment σ}
    (hpath : Path b s (earlier ++ m :: later) s') :
    Path b s earlier m.before ∧ Path b m.after later s' := by
  generalize hmoments : earlier ++ m :: later = moments at hpath
  induction hpath generalizing earlier with
  | here => exact absurd hmoments (by simp)
  | outside change _ ih =>
    obtain ⟨hearlier, hlater⟩ := ih hmoments
    exact ⟨.outside change hearlier, hlater⟩
  | entered hplace hfree _ ih =>
    obtain ⟨hearlier, hlater⟩ := ih hmoments
    exact ⟨.entered hplace hfree hearlier, hlater⟩
  | left _ ih =>
    obtain ⟨hearlier, hlater⟩ := ih hmoments
    exact ⟨.left hearlier, hlater⟩
  | @done m' _ moments hm hpath ih =>
    cases earlier with
    | nil =>
      obtain ⟨rfl, rfl⟩ := List.cons.inj hmoments
      exact ⟨.here _, hpath⟩
    | cons m'' earlier =>
      obtain ⟨rfl, htail⟩ := List.cons.inj hmoments
      obtain ⟨hearlier, hlater⟩ := ih htail
      exact ⟨.done hm hearlier, hlater⟩

theorem register_eq_ok {s s' : Session σ} {place : Option Nat} {replace : Bool}
    (hregister : s.register place replace = .ok s') :
    (replace = false → s.slot = none) ∧ s' = { s with slot := place } := by
  rw [register] at hregister
  split_ifs at hregister with htaken
  refine ⟨?_, (Except.ok.inj hregister).symm⟩
  rintro rfl
  simpa using htaken

theorem opening_fst_eq_step (s : Session σ) (name : String) (x : Action σ Fault Connection) :
    ∃ outcome events, (s.opening name x).1 = .step outcome events := by
  rw [opening]
  cases (x s.world).outcome with
  | ok c => exact ⟨_, _, rfl⟩
  | error fault => exact ⟨_, _, rfl⟩

theorem act_fst_eq_step (s : Session σ) (place : Nat)
    (x : Connection → Action σ Fault (Answer × Connection)) :
    ∃ outcome events, (s.act place x).1 = .step outcome events := by
  rw [act]
  cases s.connections[place]? with
  | none => exact ⟨_, _, rfl⟩
  | some c =>
    dsimp only
    cases (x c s.world).outcome with
    | ok pair => exact ⟨_, _, rfl⟩
    | error fault => exact ⟨_, _, rfl⟩

theorem initDefault_fst_eq_step (s : Session σ) (name : Option String) (replace : Bool) :
    ∃ outcome events, (s.initDefault name replace).1 = .step outcome events := by
  cases name with
  | none =>
    rw [initDefault]
    cases s.register none replace with
    | ok s' => exact ⟨_, _, rfl⟩
    | error p => exact ⟨_, _, rfl⟩
  | some name =>
    rw [initDefault]
    cases s.place? name with
    | none => exact ⟨_, _, rfl⟩
    | some place =>
      dsimp only
      cases s.register (some place) replace with
      | ok s' => exact ⟨_, _, rfl⟩
      | error p => exact ⟨_, _, rfl⟩

theorem clearDefault_fst_eq_step (s : Session σ) (close : Bool) :
    ∃ outcome events, (s.clearDefault b close).1 = .step outcome events := by
  rw [clearDefault]
  cases s.slot with
  | none => exact ⟨_, _, rfl⟩
  | some place =>
    cases close with
    | false => exact ⟨_, _, rfl⟩
    | true => exact act_fst_eq_step ..

theorem askDefault_fst_eq_step (s : Session σ) (request : Request) :
    ∃ outcome events, (s.askDefault b request).1 = .step outcome events := by
  rw [askDefault]
  cases s.slot with
  | none => exact ⟨_, _, rfl⟩
  | some place => exact act_fst_eq_step ..

theorem perform_fst_eq_step (s : Session σ) {step : Step σ} (hsimple : step.isSimple = true) :
    ∃ outcome events, (s.perform b step).1 = .step outcome events := by
  cases step with
  | after change later => cases hsimple
  | withDefault name body failure => cases hsimple
  | connect name d driver =>
    rw [perform]
    exact opening_fst_eq_step ..
  | connectFromSettings name d driver =>
    rw [perform]
    cases Engine.parse d.engine with
    | error p => exact ⟨_, _, rfl⟩
    | ok e => exact opening_fst_eq_step ..
  | connectFromEnvironment name env files path =>
    rw [perform]
    cases (env.loadSettings files path).1 with
    | error p => exact ⟨_, _, rfl⟩
    | ok settings => exact opening_fst_eq_step ..
  | request name request =>
    rw [perform]
    cases s.place? name with
    | none => exact ⟨_, _, rfl⟩
    | some place => exact act_fst_eq_step ..
  | initDefault name replace =>
    rw [perform]
    exact initDefault_fst_eq_step ..
  | hasDefault =>
    rw [perform]
    exact ⟨_, _, rfl⟩
  | getDefault =>
    rw [perform]
    cases s.getDefault with
    | ok place => exact ⟨_, _, rfl⟩
    | error p => exact ⟨_, _, rfl⟩
  | clearDefault close =>
    rw [perform]
    exact clearDefault_fst_eq_step ..
  | defaultDatabaseExists name =>
    rw [perform]
    exact askDefault_fst_eq_step ..
  | defaultTableExists table database =>
    rw [perform]
    exact askDefault_fst_eq_step ..

theorem exists_path_of_step {s : Session σ} {step : Step σ}
    (hnow : ∀ change later, step ≠ .after change later)
    (hstep : ∃ outcome events, (s.perform b step).1 = .step outcome events) :
    ∃ moments, Path b s moments (s.perform b step).2 ∧
      moments.map Moment.result = (s.perform b step).1.results := by
  obtain ⟨outcome, events, hstep⟩ := hstep
  let m : Moment σ := ⟨s, step, outcome, events, (s.perform b step).2⟩
  have hm : m.Done b := ⟨hnow, Prod.ext hstep rfl⟩
  refine ⟨[m], .done hm (.here _), ?_⟩
  rw [hstep]
  rfl

theorem exists_path_of_isSimple {s : Session σ} {step : Step σ} (hsimple : step.isSimple = true) :
    ∃ moments, Path b s moments (s.perform b step).2 ∧
      moments.map Moment.result = (s.perform b step).1.results := by
  refine exists_path_of_step ?_ (perform_fst_eq_step s hsimple)
  rintro change later rfl
  cases hsimple

mutual
theorem exists_path_perform (b : Backend σ) (s : Session σ) (step : Step σ) :
    ∃ moments, Path b s moments (s.perform b step).2 ∧
      moments.map Moment.result = (s.perform b step).1.results := by
  cases step with
  | after change later =>
    obtain ⟨moments, hpath, hresults⟩ :=
      exists_path_perform b { s with world := change s.world } later
    rw [perform]
    exact ⟨moments, .outside change hpath, hresults⟩
  | withDefault name body failure =>
    cases hplace : s.place? name with
    | none =>
      refine exists_path_of_step (by simp) ?_
      rw [perform, hplace]
      exact ⟨_, _, rfl⟩
    | some place =>
      rw [perform, hplace]
      dsimp only
      cases hregister : s.register (some place) false with
      | error p => exact ⟨[], .here s, rfl⟩
      | ok inside =>
        obtain ⟨hfree, rfl⟩ := register_eq_ok hregister
        obtain ⟨moments, hpath, hresults⟩ :=
          exists_path_performAll b { s with slot := some place } body
        refine ⟨moments, ?_, hresults⟩
        -- Leaving the block is the last move, also when a failure leaves it.
        have hleft := hpath.append (.left (.here _))
        rw [List.append_nil] at hleft
        exact .entered hplace (hfree rfl) hleft
  | _ => exact exists_path_of_isSimple rfl

theorem exists_path_performAll (b : Backend σ) (s : Session σ) (steps : List (Step σ)) :
    ∃ moments, Path b s moments (s.performAll b steps).2 ∧
      moments.map Moment.result = Entry.allResults (s.performAll b steps).1 := by
  cases steps with
  | nil => exact ⟨[], .here s, rfl⟩
  | cons step steps =>
    obtain ⟨moments, hpath, hresults⟩ := exists_path_perform b s step
    obtain ⟨later, hlater, hresults'⟩ := exists_path_performAll b (s.perform b step).2 steps
    refine ⟨moments ++ later, hpath.append hlater, ?_⟩
    rw [List.map_append, hresults, hresults']
    rfl
end

end Session

end SqlBridge
