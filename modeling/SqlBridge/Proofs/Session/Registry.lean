import SqlBridge.Proofs.Connection.Frame
import SqlBridge.Proofs.Connection.Liveness
import SqlBridge.Proofs.Session.Trail

namespace SqlBridge

namespace Session

variable {σ : Type} {b : Backend σ}

theorem eq_of_step_eq {s s' : Session σ} {outcome outcome' : Except Fault Answer} {events events' : List Event}
    (hdone : (Entry.step outcome events, s) = (Entry.step outcome' events', s')) :
    outcome' = outcome ∧ events' = events ∧ s' = s := by
  cases hdone
  exact ⟨rfl, rfl, rfl⟩

end Session

namespace Turn

variable {σ : Type} {b : Backend σ} {t : Turn σ}

theorem Happens.clearDefault (ht : t.Happens b) {close : Bool} {outcome : Except Fault Answer}
    {events : List Event} (hdeed : t.deed = .step (.clearDefault close) outcome events) :
    (close = false ∨ t.before.slot = none →
      outcome = .ok (.connection (t.before.slot.bind t.before.nameOf?)) ∧
        events = [] ∧ t.after = { t.before with slot := none }) ∧
    ∀ place c, close = true → t.before.slot = some place → t.before.connections[place]? = some c →
      let run := c.close b t.before.world
      events = run.events ∧
        outcome = run.outcome.map (fun _ => .connection (t.before.nameOf? place)) ∧
        t.after.connections = match run.outcome with
          | .ok c' => t.before.connections.set place c'
          | .error _ => t.before.connections := by
  have hdone := ht.perform_eq hdeed
  rw [Session.perform, Session.clearDefault] at hdone
  refine ⟨fun hidle => ?_, ?_⟩
  · cases hslot : t.before.slot with
    | none =>
      simp only [hslot] at hdone
      exact Session.eq_of_step_eq hdone
    | some place =>
      obtain rfl : close = false := hidle.resolve_right (by simp [hslot])
      simp only [hslot] at hdone
      exact Session.eq_of_step_eq hdone
  · rintro place c rfl hslot hc run
    simp only [hslot, if_true, Session.act, hc, Action.bind_pure_apply] at hdone
    cases hrun : run.outcome with
    | ok c' =>
      simp only [run] at hrun
      simp only [hrun, Except.map] at hdone
      obtain ⟨houtcome, hevents, hafter⟩ := Session.eq_of_step_eq hdone
      exact ⟨hevents, houtcome, congrArg Session.connections hafter⟩
    | error fault =>
      simp only [run] at hrun
      simp only [hrun, Except.map] at hdone
      obtain ⟨houtcome, hevents, hafter⟩ := Session.eq_of_step_eq hdone
      exact ⟨hevents, houtcome, by rw [hafter]⟩

end Turn

namespace Session

variable {σ : Type} {b : Backend σ}

example :
    let busy : Failure := ⟨.os, "busy"⟩
    let failed : Failure := ⟨.runtime, "body failed"⟩
    let b := { Backend.refusing [] with close := fun _ n => (.error busy, n) }
    let c : Connection := ⟨{ engine := .sqlite, dbname := "shop" }, some ⟨0⟩⟩
    let s : Session Nat := ⟨[c, c], [("a", 0), ("b", 1)], none, 0⟩
    (s.performAll b [.withDefault "a" [.initDefault (some "b") true, .withDefault "a" [.getDefault] none,
        .clearDefault true, .getDefault] (some failed), .hasDefault]).1 =
      [.block [.step (.ok (.connection (some "b"))) [], .block [] none (some (.problem .defaultTaken)),
          .step (.error (.problem (.raised busy))) [.close ⟨0⟩], .step (.error (.problem .noDefault)) []]
          (some "a") (some (.problem (.raised failed))), .step (.ok (.flag false)) []] :=
  rfl

end Session

end SqlBridge
