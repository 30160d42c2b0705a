import SqlBridge.Driver.Event
import SqlBridge.Fault

namespace SqlBridge

/-- How an action ended: its outcome, what could be seen of it, and the outside world after it. -/
structure Run (σ ε α : Type) where
  outcome : Except ε α
  events : List Event
  world : σ

/-- Something that is done in an outside world of type `σ` and may fail with an `ε`. -/
def Action (σ ε α : Type) := σ → Run σ ε α

namespace Action

variable {σ ε δ α β : Type}

/-- Two actions in a row; the second is left out when the first one fails. -/
def andThen (x : Action σ ε α) (f : α → Action σ ε β) : Action σ ε β := fun w =>
  match x w with
  | ⟨.ok a, events, w'⟩ =>
    let after := f a w'
    ⟨after.outcome, events ++ after.events, after.world⟩
  | ⟨.error e, events, w'⟩ => ⟨.error e, events, w'⟩

/-- Nothing is done by `pure`, and actions in a row stop at the first failure. -/
instance : Monad (Action σ ε) where
  pure a := fun w => ⟨.ok a, [], w⟩
  bind := andThen

/-- Nothing but the failure `e`. -/
def fail (e : ε) : Action σ ε α := fun w => ⟨.error e, [], w⟩

/-- A result that needs nothing from outside. -/
def ofExcept (r : Except ε α) : Action σ ε α := fun w => ⟨r, [], w⟩

/-- A result that is read off the outside world. -/
def observe (f : σ → Except ε α) : Action σ ε α := fun w => ⟨f w, [], w⟩

/-- Writes one record to the log. -/
def log (level : Level) (logger : Logger) (message : String) : Action σ ε Unit := fun w =>
  ⟨.ok (), [.log level logger message], w⟩

/-- The same action with its failures in other terms. -/
def mapError (f : ε → δ) (x : Action σ ε α) : Action σ δ α := fun w =>
  let run := x w
  ⟨run.outcome.mapError f, run.events, run.world⟩

/-- An action whose problems are faults of the call that it is part of. -/
instance : MonadLift (Action σ Problem) (Action σ Fault) where
  monadLift x := mapError Fault.problem x

/-- Goes on with `next` when the problem is one of those that `expected` tells. -/
def orElseWhen (expected : Problem → Bool) (x next : Action σ Problem α) : Action σ Problem α :=
  fun w =>
    match x w with
    | ⟨.error p, events, w'⟩ =>
      if expected p then
        let after := next w'
        ⟨after.outcome, events ++ after.events, after.world⟩
      else
        ⟨.error p, events, w'⟩
    | run => run

/-- Hands an ordinary problem to `handler`; a fatal one passes. -/
def rescue (x : Action σ Problem α) (handler : Problem → Action σ Fault α) : Action σ Fault α :=
  fun w =>
    match x w with
    | ⟨.ok a, events, w'⟩ => ⟨.ok a, events, w'⟩
    | ⟨.error p, events, w'⟩ =>
      if p.isFatal then
        ⟨.error (.problem p), events, w'⟩
      else
        let after := handler p w'
        ⟨after.outcome, events ++ after.events, after.world⟩

/-- Does `x` and afterwards, however it ended, `last`. A failure of `last` takes the place of what came
    of `x`. -/
def afterwards (x : Action σ ε α) (last : Action σ ε Unit) : Action σ ε α := fun w =>
  let run := x w
  match last run.world with
  | ⟨.ok (), events, w'⟩ => ⟨run.outcome, run.events ++ events, w'⟩
  | ⟨.error e, events, w'⟩ => ⟨.error e, run.events ++ events, w'⟩

theorem bind_apply (x : Action σ ε α) (f : α → Action σ ε β) (w : σ) :
    (x >>= f) w = andThen x f w := rfl

theorem pure_apply (a : α) (w : σ) : (pure a : Action σ ε α) w = ⟨.ok a, [], w⟩ := rfl

private theorem id_map_eq (x : Action σ ε α) : id <$> x = x := by
  funext w
  simp only [Functor.map, andThen]
  rcases x w with ⟨_ | a, events, w'⟩ <;> simp [Function.comp]

private theorem bind_assoc_eq {γ : Type} (x : Action σ ε α) (f : α → Action σ ε β)
    (g : β → Action σ ε γ) : x >>= f >>= g = x >>= fun a => f a >>= g := by
  funext w
  simp only [bind, andThen]
  rcases x w with ⟨_ | a, events, w'⟩
  · rfl
  · dsimp only
    rcases f a w' with ⟨_ | b, events', w''⟩ <;> simp

instance : LawfulMonad (Action σ ε) :=
  LawfulMonad.mk' _ id_map_eq (fun _ _ => by funext w; simp [bind, andThen, pure]) bind_assoc_eq

end Action

end SqlBridge
