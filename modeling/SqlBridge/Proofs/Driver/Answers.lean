import Mathlib
import SqlBridge.Driver
import SqlBridge.Connection.Rows

namespace SqlBridge

/-- Run from the world `w`, the driver opens a cursor, executes the statement, hands out its rows and
closes the cursor. A statement that is answered without columns has none. -/
inductive Backend.Answers {σ : Type} (b : Backend σ) (h : Handle) (w : σ) (sql : String)
    (sent : Option Value) : ResultSet → Prop where
  | intro {w₁ w₂ w₃ w₄ : σ} {answered : Answered} {rows : List (List Value)}
      (hopened : b.openCursor h w = (.ok (), w₁))
      (hexecuted : b.execute h sql sent w₁ = (.ok answered, w₂))
      (hfetched : b.fetchAll h w₂ = (.ok rows, w₃))
      (hclosed : b.closeCursor h w₃ = (.ok (), w₄)) :
      Backend.Answers b h w sql sent ⟨answered.columns.getD [], rows⟩

namespace Action

variable {σ ε α β : Type} {w w₁ w₂ : σ} {a : α}

/-- Run from the world `w`, the action ends well with `a` and leaves the world `w'`. -/
def Yields (w : σ) (x : Action σ ε α) (a : α) (w' : σ) : Prop :=
  ∃ events, x w = ⟨.ok a, events, w'⟩

theorem Yields.outcome_eq {x : Action σ ε α} (hx : x.Yields w a w₁) : (x w).outcome = .ok a := by
  obtain ⟨events, hrun⟩ := hx
  rw [hrun]

theorem yields_pure : (pure a : Action σ ε α).Yields w a w :=
  ⟨[], rfl⟩

theorem yields_ofExcept {r : Except ε α} (hr : r = .ok a) : (ofExcept r).Yields w a w :=
  ⟨[], by rw [hr]; rfl⟩

theorem yields_log {level : Level} {logger : Logger} {message : String} :
    (log level logger message : Action σ ε Unit).Yields w () w :=
  ⟨_, rfl⟩

theorem yields_call {event : Event} {f : σ → Except Failure α × σ} (hf : f w = (.ok a, w₁)) :
    (Backend.call event f).Yields w a w₁ := by
  refine ⟨[event], ?_⟩
  rw [Backend.call, hf]
  rfl

theorem Yields.bind {x : Action σ ε α} {f : α → Action σ ε β} {a' : β} (hx : x.Yields w a w₁)
    (hf : (f a).Yields w₁ a' w₂) : (x >>= f).Yields w a' w₂ := by
  obtain ⟨events, hrun⟩ := hx
  obtain ⟨later, hlater⟩ := hf
  refine ⟨events ++ later, ?_⟩
  rw [bind_apply, andThen, hrun]
  dsimp only
  rw [hlater]

theorem Yields.map {x : Action σ ε α} (hx : x.Yields w a w₁) (f : α → β) :
    (x >>= fun a => (pure (f a) : Action σ ε β)).Yields w (f a) w₁ :=
  hx.bind yields_pure

theorem Yields.lift {x : Action σ Problem α} (hx : x.Yields w a w₁) :
    (liftM x : Action σ Fault α).Yields w a w₁ := by
  obtain ⟨events, hrun⟩ := hx
  refine ⟨events, ?_⟩
  change mapError Fault.problem x w = _
  rw [mapError, hrun]
  rfl

theorem Yields.rescue {x : Action σ Problem α} (hx : x.Yields w a w₁)
    (handler : Problem → Action σ Fault α) : (x.rescue handler).Yields w a w₁ := by
  obtain ⟨events, hrun⟩ := hx
  refine ⟨events, ?_⟩
  rw [Action.rescue, hrun]

theorem Yields.withOpenCursor {x : Action σ ε α} (hx : x.Yields w a w₁) {b : Backend σ} {h : Handle}
    (raise : Problem → ε) (hclosed : b.closeCursor h w₁ = (.ok (), w₂)) :
    (b.withOpenCursor h raise x).Yields w a w₂ := by
  obtain ⟨events, hrun⟩ := hx
  refine ⟨events ++ [.cursorClose h], ?_⟩
  rw [b.withOpenCursor_of_closed (by rw [hrun, hclosed]), hrun]

end Action

end SqlBridge
