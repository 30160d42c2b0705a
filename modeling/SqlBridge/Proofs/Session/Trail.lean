import SqlBridge.Proofs.Session.Path

namespace SqlBridge

/-- Something that happens in a session: a step that begins at once and is no block, or the beginning or
the end of a block with a default connection. -/
inductive Deed (σ : Type) where
  | step (step : Step σ) (outcome : Except Fault Answer) (events : List Event)
  | entered (name : String) (place : Nat)
  /-- The block is not entered, and nothing inside of it is done. -/
  | refused (name : String) (fault : Fault)
  | left (raised : Option Fault)

/-- A deed, with the sessions before and after it. -/
structure Turn (σ : Type) where
  before : Session σ
  deed : Deed σ
  after : Session σ

/-- What is reported of a deed. -/
inductive Report where
  | result (outcome : Except Fault Answer) (events : List Event)
  /-- A block began; the name is missing when it was not entered. -/
  | began (entered : Option String)
  | ended (raised : Option Fault)

mutual
/-- The reports in an entry, those inside of a block between its beginning and its end. -/
def Entry.reports : Entry → List Report
  | .step outcome events => [.result outcome events]
  | .block entries entered raised => .began entered :: (Entry.allReports entries ++ [.ended raised])

def Entry.allReports : List Entry → List Report
  | [] => []
  | entry :: entries => entry.reports ++ Entry.allReports entries
end

namespace Turn

variable {σ : Type} {b : Backend σ} {t : Turn σ}

/-- Doing the deed in the session before it leads to the session after it. -/
def Happens (b : Backend σ) (t : Turn σ) : Prop :=
  match t.deed with
  | .step step outcome events => Moment.Done b ⟨t.before, step, outcome, events, t.after⟩
  | .entered name place =>
    t.before.place? name = some place ∧ t.before.register (some place) false = .ok t.after
  | .refused name fault => ∃ place p, t.before.place? name = some place ∧
      t.before.register (some place) false = .error p ∧ fault = .problem p ∧ t.after = t.before
  | .left _ => t.after = { t.before with slot := none }

def reports (t : Turn σ) : List Report :=
  match t.deed with
  | .step _ outcome events => [.result outcome events]
  | .entered _ place => [.began (t.before.nameOf? place)]
  | .refused _ fault => [.began none, .ended (some fault)]
  | .left raised => [.ended raised]

theorem Happens.perform_eq (ht : t.Happens b) {step : Step σ} {outcome : Except Fault Answer}
    {events : List Event} (hdeed : t.deed = .step step outcome events) :
    t.before.perform b step = (.step outcome events, t.after) := by
  obtain ⟨before, deed, after⟩ := t
  cases hdeed
  exact Moment.Done.perform_eq ht

end Turn

namespace Session

variable {σ : Type} {b : Backend σ}

/-- The second session can be reached from the first one through these turns. Between them the outside
world may change. -/
inductive Trail (b : Backend σ) : Session σ → List (Turn σ) → Session σ → Prop where
  | here (s : Session σ) : Trail b s [] s
  | outside {s s' : Session σ} {turns : List (Turn σ)} (change : σ → σ)
      (hlater : Trail b { s with world := change s.world } turns s') : Trail b s turns s'
  | turn {t : Turn σ} {s' : Session σ} {turns : List (Turn σ)} (ht : t.Happens b)
      (hlater : Trail b t.after turns s') : Trail b t.before (t :: turns) s'

theorem Trail.append {s s' s'' : Session σ} {turns later : List (Turn σ)}
    (htrail : Trail b s turns s') (hlater : Trail b s' later s'') :
    Trail b s (turns ++ later) s'' := by
  induction htrail with
  | here => exact hlater
  | outside change _ ih => exact .outside change (ih hlater)
  | turn ht _ ih => exact .turn ht (ih hlater)

theorem Trail.split {s s' : Session σ} {earlier later : List (Turn σ)} {t : Turn σ}
    (htrail : Trail b s (earlier ++ t :: later) s') : Trail b s earlier t.before ∧ t.Happens b := by
  generalize hturns : earlier ++ t :: later = turns at htrail
  induction htrail generalizing earlier with
  | here => exact absurd hturns (by simp)
  | outside change _ ih =>
    obtain ⟨hearlier, ht⟩ := ih hturns
    exact ⟨.outside change hearlier, ht⟩
  | turn ht _ ih =>
    cases earlier with
    | nil =>
      obtain ⟨rfl, -⟩ := List.cons.inj hturns
      exact ⟨.here _, ht⟩
    | cons _ earlier =>
      obtain ⟨rfl, htail⟩ := List.cons.inj hturns
      obtain ⟨hearlier, ht'⟩ := ih htail
      exact ⟨.turn ht hearlier, ht'⟩

theorem exists_trail_of_step {s : Session σ} {step : Step σ}
    (hnow : ∀ change later, step ≠ .after change later)
    (hstep : ∃ outcome events, (s.perform b step).1 = .step outcome events) :
    ∃ turns, Trail b s turns (s.perform b step).2 ∧
      turns.flatMap Turn.reports = (s.perform b step).1.reports := by
  obtain ⟨outcome, events, hstep⟩ := hstep
  let t : Turn σ := ⟨s, .step step outcome events, (s.perform b step).2⟩
  have ht : t.Happens b := ⟨hnow, Prod.ext hstep rfl⟩
  refine ⟨[t], .turn ht (.here _), ?_⟩
  rw [hstep]
  rfl

theorem exists_trail_of_isSimple {s : Session σ} {step : Step σ} (hsimple : step.isSimple = true) :
    ∃ turns, Trail b s turns (s.perform b step).2 ∧
      turns.flatMap Turn.reports = (s.perform b step).1.reports := by
  refine exists_trail_of_step ?_ (perform_fst_eq_step s hsimple)
  rintro change later rfl
  cases hsimple

mutual
theorem exists_trail_perform (b : Backend σ) (s : Session σ) (step : Step σ) :
    ∃ turns, Trail b s turns (s.perform b step).2 ∧
      turns.flatMap Turn.reports = (s.perform b step).1.reports := by
  cases step with
  | after change later =>
    obtain ⟨turns, htrail, hreports⟩ := exists_trail_perform b { s with world := change s.world } later
    rw [perform]
    exact ⟨turns, .outside change htrail, hreports⟩
  | withDefault name body failure =>
    cases hplace : s.place? name with
    | none =>
      refine exists_trail_of_step (by simp) ?_
      rw [perform, hplace]
      exact ⟨_, _, rfl⟩
    | some place =>
      rw [perform, hplace]
      dsimp only
      cases hregister : s.register (some place) false with
      | error p =>
        let t : Turn σ := ⟨s, .refused name (.problem p), s⟩
        have ht : t.Happens b := ⟨place, p, hplace, hregister, rfl, rfl⟩
        exact ⟨[t], .turn ht (.here s), rfl⟩
      | ok inside =>
        obtain ⟨turns, htrail, hreports⟩ := exists_trail_performAll b inside body
        let entering : Turn σ := ⟨s, .entered name place, inside⟩
        let raised : Option Fault := failure.map fun f => .problem (.raised f)
        let leaving : Turn σ := ⟨(inside.performAll b body).2, .left raised,
          { (inside.performAll b body).2 with slot := none }⟩
        have hentering : entering.Happens b := ⟨hplace, hregister⟩
        have hleaving : leaving.Happens b := rfl
        refine ⟨entering :: (turns ++ [leaving]),
          .turn hentering (htrail.append (.turn hleaving (.here _))), ?_⟩
        have hnames : inside.nameOf? place = s.nameOf? place := by
          rw [(register_eq_ok hregister).2]
          rfl
        rw [List.flatMap_cons, List.flatMap_append, hreports, Entry.reports, hnames]
        rfl
  | _ => exact exists_trail_of_isSimple rfl

theorem exists_trail_performAll (b : Backend σ) (s : Session σ) (steps : List (Step σ)) :
    ∃ turns, Trail b s turns (s.performAll b steps).2 ∧
      turns.flatMap Turn.reports = Entry.allReports (s.performAll b steps).1 := by
  cases steps with
  | nil => exact ⟨[], .here s, rfl⟩
  | cons step steps =>
    obtain ⟨turns, htrail, hreports⟩ := exists_trail_perform b s step
    obtain ⟨later, hlater, hreports'⟩ := exists_trail_performAll b (s.perform b step).2 steps
    refine ⟨turns ++ later, htrail.append hlater, ?_⟩
    rw [List.flatMap_append, hreports, hreports']
    rfl
end

end Session

end SqlBridge
