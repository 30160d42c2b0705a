import SqlBridge.Proofs.Session.Effect

namespace SqlBridge

/-- The driver connection with an open cursor after a call, given the one before it. There is no such
state after a call that may not be made then: while a cursor is open only that cursor is used, and
nothing is used that is not open. -/
def cursorStep (opened : Option Handle) (call : Call) : Option (Option Handle) :=
  match call.event with
  | .cursorOpen h =>
    if opened = none then some (if call.reply = .returned then some h else none) else none
  | .execute h _ _ | .fetch h => if opened = some h then some opened else none
  | .cursorClose h => if opened = some h then some none else none
  | .connect _ _ | .autocommit _ | .close _ => if opened = none then some none else none
  | .log _ _ _ => some opened

theorem foldlM_cursorStep_driverCalls (opened : Option Handle) (calls : List Call) :
    (driverCalls calls).foldlM cursorStep opened = calls.foldlM cursorStep opened := by
  induction calls generalizing opened with
  | nil => rfl
  | cons call calls ih =>
    obtain ⟨event, reply⟩ := call
    cases event with
    | log level logger message =>
      have hsilent : cursorStep opened ⟨.log level logger message, reply⟩ = some opened := rfl
      rw [List.foldlM_cons, hsilent]
      exact ih opened
    | _ =>
      rw [List.foldlM_cons]
      exact bind_congr ih

theorem foldlM_cursorStep_work (h : Handle) (work : CursorWork) :
    (work.calls h).foldlM cursorStep (some h) = some (some h) := by
  cases work <;> simp [CursorWork.calls, cursorStep]

theorem Interaction.foldlM_cursorStep (part : Interaction) :
    part.calls.foldlM cursorStep none = some none := by
  cases part with
  | cursor h work closing =>
    have hopened : cursorStep none ⟨.cursorOpen h, .returned⟩ = some (some h) := by
      simp [cursorStep]
    have hclosed : cursorStep (some h) ⟨.cursorClose h, closing⟩ = some none := by
      simp [cursorStep]
    simp [Interaction.calls, List.foldlM_append, hopened, hclosed, foldlM_cursorStep_work]
  | connect package arguments reply => rfl
  | autocommit h reply => rfl
  | refusal h => rfl
  | close h reply => rfl

theorem foldlM_cursorStep_interactions (parts : List Interaction) :
    (parts.flatMap Interaction.calls).foldlM cursorStep none = some none := by
  induction parts with
  | nil => rfl
  | cons part parts ih =>
    rw [List.flatMap_cons, List.foldlM_append, part.foldlM_cursorStep]
    exact ih

theorem MadeOf.foldlM_cursorStep {parts : List Interaction} {calls : List Call}
    (hcalls : MadeOf parts calls) : calls.foldlM cursorStep none = some none := by
  rw [← foldlM_cursorStep_driverCalls, hcalls, foldlM_cursorStep_interactions]

/-- Whatever is done in a session and whatever the drivers answer: the calls of every step are whole
interactions, one after the other, so that each cursor that was opened is closed again before the step
is over, be it that closing it raises, and no cursor is used after that. The calls account for the outside world that a step leaves,
hence they are all that it did. -/
theorem Session.performAll_completes_cursors {σ : Type} (b : Backend σ) (s : Session σ)
    (steps : List (Step σ)) :
    ∃ moments, Path b s moments (s.performAll b steps).2 ∧
      moments.map Moment.result = Entry.allResults (s.performAll b steps).1 ∧
      ∀ m ∈ moments, m.after.world = b.after m.before.world m.events ∧
        (∃ parts, MadeOf parts (m.calls b)) ∧
        (m.calls b).foldlM cursorStep none = some none := by
  obtain ⟨moments, hpath, hresults⟩ := exists_path_performAll b s steps
  refine ⟨moments, hpath, hresults, ?_⟩
  intro m hm
  obtain ⟨hworld, parts, hparts, -⟩ := (hpath.forall_done m hm).hasEffect
  exact ⟨hworld, ⟨parts, hparts⟩, hparts.foldlM_cursorStep⟩

end SqlBridge
