import SqlBridge.Proofs.Driver.Calls

namespace SqlBridge

/-- The failure that an answer consists of, if it is one. -/
def failureOf {α : Type} : Except Failure α → Option Failure
  | .ok _ => none
  | .error failure => some failure

theorem Reply.ofExcept_eq_raised_iff {α : Type} (r : Except Failure α) :
    ofExcept r = .raised ↔ ∃ failure, failureOf r = some failure := by
  cases r <;> simp [ofExcept, failureOf]

namespace Event

/-- The statement that is executed, if one is. -/
def statement? : Event → Option String
  | execute _ sql _ => some sql
  | _ => none

def isConnect : Event → Bool
  | connect _ _ => true
  | _ => false

def isClose : Event → Bool
  | close _ => true
  | _ => false

end Event

/-- The statements that are executed, in order. -/
def executedStatements (events : List Event) : List String :=
  events.filterMap Event.statement?

theorem executedStatements_withOpenCursor (h : Handle) (events : List Event) :
    executedStatements (.cursorOpen h :: (events ++ [.cursorClose h])) = executedStatements events := by
  rw [executedStatements, executedStatements, List.filterMap_cons, List.filterMap_append]
  exact List.append_nil _

theorem executedStatements_append (events later : List Event) :
    executedStatements (events ++ later) = executedStatements events ++ executedStatements later :=
  List.filterMap_append ..

namespace Backend

variable {σ α : Type} (b : Backend σ)

/-- The failure that a call raises when it is made in the world `w`, if it raises one. -/
def failure? (w : σ) : Event → Option Failure
  | .connect package arguments => failureOf (b.connect package arguments w).1
  | .autocommit h => failureOf (b.setAutocommit h w).1
  | .cursorOpen h => failureOf (b.openCursor h w).1
  | .execute h sql params => failureOf (b.execute h sql params w).1
  | .fetch h => failureOf (b.fetchAll h w).1
  | .cursorClose h => failureOf (b.closeCursor h w).1
  | .close h => failureOf (b.close h w).1
  | .log _ _ _ => none

/-- The failures that the calls of a run raised that began in the world `w`, each with its call. -/
def failures (w : σ) : List Event → List (Event × Failure)
  | [] => []
  | event :: events =>
    ((b.failure? w event).map (event, ·)).toList ++ failures (b.reply w event).2 events

theorem failures_append (w : σ) (events later : List Event) :
    b.failures w (events ++ later) = b.failures w events ++ b.failures (b.after w events) later := by
  induction events generalizing w with
  | nil => rfl
  | cons event events ih =>
    rw [List.cons_append, failures, ih, ← List.append_assoc]
    rfl

theorem failures_singleton (w : σ) (event : Event) :
    b.failures w [event] = ((b.failure? w event).map (event, ·)).toList :=
  List.append_nil _

/-- The failures of work with an open cursor are those of the work, and that of closing the cursor. -/
theorem failures_withOpenCursor {w : σ} {h : Handle} (hopened : b.failure? w (.cursorOpen h) = none)
    (events : List Event) : b.failures w (.cursorOpen h :: (events ++ [.cursorClose h])) =
      b.failures (b.after w [.cursorOpen h]) events ++
        ((b.failure? (b.after (b.after w [.cursorOpen h]) events) (.cursorClose h)).map
          (.cursorClose h, ·)).toList := by
  rw [failures, hopened, b.failures_append, b.failures_singleton]
  rfl

theorem mem_of_mem_failures {w : σ} {events : List Event} {event : Event} {failure : Failure}
    (hmem : (event, failure) ∈ b.failures w events) : event ∈ events := by
  induction events generalizing w with
  | nil => cases hmem
  | cons first events ih =>
    rcases List.mem_append.1 hmem with hfirst | hlater
    · obtain ⟨_, -, hcall⟩ := Option.map_eq_some_iff.1 (Option.mem_toList.1 hfirst)
      cases hcall
      exact List.mem_cons_self ..
    · exact List.mem_cons_of_mem _ (ih hlater)

theorem map_event_calls (w : σ) (events : List Event) :
    (b.calls w events).map Call.event = events := by
  induction events generalizing w with
  | nil => rfl
  | cons event events ih => rw [calls, List.map_cons, ih]

/-- A call raises a failure exactly when nothing else comes of it. -/
theorem reply_eq_raised_iff (w : σ) (event : Event) :
    (b.reply w event).1 = .raised ↔ ∃ failure, b.failure? w event = some failure := by
  cases event with
  | connect package arguments =>
    rw [reply, failure?]
    rcases b.connect package arguments w with ⟨_ | h, w'⟩ <;> simp [failureOf]
  | log level logger message => simp [reply, failure?]
  | _ => exact Reply.ofExcept_eq_raised_iff _

theorem reply_close_of_failure?_eq_none {w : σ} {h : Handle}
    (hreturned : b.failure? w (.close h) = none) : (b.reply w (.close h)).1 = .returned := by
  rw [failure?] at hreturned
  rw [reply]
  cases hanswer : (b.close h w).1 with
  | ok _ => rfl
  | error failure =>
    rw [hanswer] at hreturned
    cases hreturned

end Backend

namespace Action

variable {σ ε δ α β : Type} {b : Backend σ} {w : σ}

theorem endsFrom_pure {a : α} {Q : Except ε α → List Event → Prop} (hok : Q (.ok a) []) :
    (pure a : Action σ ε α).EndsFrom b w Q :=
  ⟨rfl, hok⟩

theorem endsFrom_fail {e : ε} {Q : Except ε α → List Event → Prop} (herror : Q (.error e) []) :
    (fail e : Action σ ε α).EndsFrom b w Q :=
  ⟨rfl, herror⟩

theorem endsFrom_ofExcept {r : Except ε α} {Q : Except ε α → List Event → Prop} (hr : Q r []) :
    (ofExcept r : Action σ ε α).EndsFrom b w Q :=
  ⟨rfl, hr⟩

theorem endsFrom_observe {f : σ → Except ε α} {Q : Except ε α → List Event → Prop}
    (hf : Q (f w) []) : (observe f).EndsFrom b w Q :=
  ⟨rfl, hf⟩

theorem EndsFrom.mapError {x : Action σ ε α} {f : ε → δ} {Q : Except δ α → List Event → Prop}
    (hx : x.EndsFrom b w fun r events => Q (r.mapError f) events) : (x.mapError f).EndsFrom b w Q :=
  hx

theorem EndsFrom.lift {x : Action σ Problem α} {Q : Except Fault α → List Event → Prop}
    (hx : x.EndsFrom b w fun r events => Q (r.mapError .problem) events) :
    (liftM x : Action σ Fault α).EndsFrom b w Q :=
  hx

/-- A log record leaves the world alone, so that what follows it is run from there. -/
theorem EndsFrom.log_bind {level : Level} {logger : Logger} {message : String}
    {f : Unit → Action σ ε β} {R : Except ε β → List Event → Prop}
    (hf : (f ()).EndsFrom b w fun r later => R r (.log level logger message :: later)) :
    (log level logger message >>= f).EndsFrom b w R :=
  hf

theorem EndsFrom.ofExcept_bind {r : Except ε α} {f : α → Action σ ε β}
    {R : Except ε β → List Event → Prop} (herror : ∀ e, r = .error e → R (.error e) [])
    (hok : ∀ a, r = .ok a → (f a).EndsFrom b w R) : (ofExcept r >>= f).EndsFrom b w R := by
  cases r with
  | error e => exact ⟨rfl, herror e rfl⟩
  | ok a => exact hok a rfl

/-- Whether a package can be loaded is read off the world, which is left alone. -/
theorem EndsFrom.available_bind {package : Package} {f : Bool → Action σ ε β}
    {R : Except ε β → List Event → Prop} (hf : (f (b.installed package w)).EndsFrom b w R) :
    (b.available package >>= f).EndsFrom b w R :=
  hf

/-- A call ends with the failure that it raises, and with an answer when it raises none. -/
theorem endsFrom_call {event : Event} {f : σ → Except Failure α × σ}
    {Q : Except Problem α → List Event → Prop} (hworld : (b.reply w event).2 = (f w).2)
    (hfailure : b.failure? w event = failureOf (f w).1)
    (hok : ∀ a, (f w).1 = .ok a → b.failure? w event = none → Q (.ok a) [event])
    (hraised : ∀ failure, b.failure? w event = some failure →
      Q (.error (.raised failure)) [event]) : (Backend.call event f).EndsFrom b w Q := by
  refine ⟨hworld.symm, ?_⟩
  change Q ((f w).1.mapError .raised) [event]
  cases hanswer : (f w).1 with
  | error failure =>
    rw [hanswer] at hfailure
    exact hraised failure hfailure
  | ok a =>
    rw [hanswer] at hfailure
    exact hok a hanswer hfailure

theorem endsFrom_cursor {h : Handle} {Q : Except Problem Unit → List Event → Prop}
    (hok : b.failure? w (.cursorOpen h) = none → Q (.ok ()) [.cursorOpen h])
    (hraised : ∀ failure, b.failure? w (.cursorOpen h) = some failure →
      Q (.error (.raised failure)) [.cursorOpen h]) : (b.cursor h).EndsFrom b w Q :=
  endsFrom_call rfl rfl (fun _ _ => hok) hraised

theorem endsFrom_executing {h : Handle} {sql : String} {params : Value}
    {Q : Except Problem Answered → List Event → Prop} {sent : Option Value}
    (hsent : sent = if params.truthy then some params else none)
    (hok : ∀ answered, b.failure? w (.execute h sql sent) = none →
      Q (.ok answered) [.execute h sql sent])
    (hraised : ∀ failure, b.failure? w (.execute h sql sent) = some failure →
      Q (.error (.raised failure)) [.execute h sql sent]) : (b.executing h sql params).EndsFrom b w Q := by
  subst hsent
  exact endsFrom_call rfl rfl (fun answered _ => hok answered) hraised

theorem endsFrom_fetching {h : Handle} {Q : Except Problem (List (List Value)) → List Event → Prop}
    (hok : ∀ rows, b.failure? w (.fetch h) = none → Q (.ok rows) [.fetch h])
    (hraised : ∀ failure, b.failure? w (.fetch h) = some failure →
      Q (.error (.raised failure)) [.fetch h]) : (b.fetching h).EndsFrom b w Q :=
  endsFrom_call rfl rfl (fun rows _ => hok rows) hraised

theorem endsFrom_closing {h : Handle} {Q : Except Problem Unit → List Event → Prop}
    (hok : b.failure? w (.close h) = none → Q (.ok ()) [.close h])
    (hraised : ∀ failure, b.failure? w (.close h) = some failure →
      Q (.error (.raised failure)) [.close h]) : (b.closing h).EndsFrom b w Q :=
  endsFrom_call rfl rfl (fun _ _ => hok) hraised

theorem endsFrom_autocommitting {h : Handle} {Q : Except Problem Unit → List Event → Prop}
    (hok : b.failure? w (.autocommit h) = none → Q (.ok ()) [.autocommit h])
    (hraised : ∀ failure, b.failure? w (.autocommit h) = some failure →
      Q (.error (.raised failure)) [.autocommit h]) : (b.autocommitting h).EndsFrom b w Q :=
  endsFrom_call rfl rfl (fun _ _ => hok) hraised

theorem endsFrom_closingCursor {h : Handle} {Q : Except Problem Unit → List Event → Prop}
    (hok : b.failure? w (.cursorClose h) = none → Q (.ok ()) [.cursorClose h])
    (hraised : ∀ failure, b.failure? w (.cursorClose h) = some failure →
      Q (.error (.raised failure)) [.cursorClose h]) : (b.closingCursor h).EndsFrom b w Q :=
  endsFrom_call rfl rfl (fun _ _ => hok) hraised

/-- Work with an open cursor ends as the work does when the cursor closes, and with the failure to
close it when it does not. -/
theorem EndsFrom.withOpenCursor {x : Action σ ε α} {h : Handle} {raise : Problem → ε}
    {Q R : Except ε α → List Event → Prop} (hx : x.EndsFrom b w Q)
    (hclosed : ∀ r events, Q r events → b.failure? (b.after w events) (.cursorClose h) = none →
      R r (events ++ [.cursorClose h]))
    (hraised : ∀ r events failure, Q r events →
      b.failure? (b.after w events) (.cursorClose h) = some failure →
        R (.error (raise (.raised failure))) (events ++ [.cursorClose h])) :
    (b.withOpenCursor h raise x).EndsFrom b w R := by
  refine EndsFrom.afterwards hx fun r events hQ => EndsFrom.mapError (endsFrom_closingCursor ?_ ?_)
  · intro hnone
    exact ⟨fun _ => hclosed r events hQ hnone, by rintro e ⟨⟩⟩
  · intro failure hfailure
    refine ⟨by rintro ⟨⟩, ?_⟩
    rintro e ⟨⟩
    exact hraised r events failure hQ hfailure

/-- A cursor is opened, or the failure to open it is raised. -/
theorem cursor_endsFrom (h : Handle) : (liftM (b.cursor h) : Action σ Fault Unit).EndsFrom b w
    fun r events => events = [.cursorOpen h] ∧
      ((r = .ok () ∧ b.failure? w (.cursorOpen h) = none) ∨
        ∃ failure, r = .error (.problem (.raised failure)) ∧
          b.failure? w (.cursorOpen h) = some failure) :=
  EndsFrom.lift (endsFrom_cursor (fun hnone => ⟨rfl, .inl ⟨rfl, hnone⟩⟩)
    fun failure hfailure => ⟨rfl, .inr ⟨failure, rfl, hfailure⟩⟩)

/-- A driver connection is closed, or the failure to close it is raised. -/
theorem closing_endsFrom (h : Handle) : (liftM (b.closing h) : Action σ Fault Unit).EndsFrom b w
    fun r events => events = [.close h] ∧
      ((r = .ok () ∧ b.failure? w (.close h) = none) ∨
        ∃ failure, r = .error (.problem (.raised failure)) ∧
          b.failure? w (.close h) = some failure) :=
  EndsFrom.lift (endsFrom_closing (fun hnone => ⟨rfl, .inl ⟨rfl, hnone⟩⟩)
    fun failure hfailure => ⟨rfl, .inr ⟨failure, rfl, hfailure⟩⟩)

theorem endsFrom_connecting {package : Package} {arguments : ConnectArguments}
    {Q : Except Problem Handle → List Event → Prop}
    (hok : ∀ h, (b.reply w (.connect package arguments)).1 = .connected h →
      Q (.ok h) [.connect package arguments])
    (hraised : ∀ failure, b.failure? w (.connect package arguments) = some failure →
      Q (.error (.raised failure)) [.connect package arguments]) :
    (b.connecting package arguments).EndsFrom b w Q := by
  refine endsFrom_call ?_ rfl ?_ hraised
  · rw [Backend.reply]
    rcases b.connect package arguments w with ⟨_ | h, w'⟩ <;> rfl
  · intro h hanswer _
    refine hok h ?_
    rw [Backend.reply]
    rcases hrun : b.connect package arguments w with ⟨_ | h', w'⟩
    · rw [hrun] at hanswer
      cases hanswer
    · rw [hrun] at hanswer
      cases hanswer
      rfl

end Action

end SqlBridge
