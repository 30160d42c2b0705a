import Mathlib
import SqlBridge.Driver

namespace SqlBridge

/-- What came of a call on a driver or on a package. -/
inductive Reply where
  | returned
  | raised
  /-- A package handed out a driver connection. -/
  | connected (h : Handle)
deriving DecidableEq, Repr

/-- Something that can be seen of a run, with what came of it. -/
structure Call where
  event : Event
  reply : Reply
deriving Repr

def Reply.ofExcept {α : Type} : Except Failure α → Reply
  | .ok _ => .returned
  | .error _ => .raised

namespace Backend

variable {σ ε α : Type} (b : Backend σ)

/-- What comes of a call that is made in the world `w`, and the world after it. -/
def reply (w : σ) : Event → Reply × σ
  | .connect package arguments =>
    match b.connect package arguments w with
    | (.ok h, w') => (.connected h, w')
    | (.error _, w') => (.raised, w')
  | .autocommit h => (.ofExcept (b.setAutocommit h w).1, (b.setAutocommit h w).2)
  | .cursorOpen h => (.ofExcept (b.openCursor h w).1, (b.openCursor h w).2)
  | .execute h sql params =>
    (.ofExcept (b.execute h sql params w).1, (b.execute h sql params w).2)
  | .fetch h => (.ofExcept (b.fetchAll h w).1, (b.fetchAll h w).2)
  | .cursorClose h => (.ofExcept (b.closeCursor h w).1, (b.closeCursor h w).2)
  | .close h => (.ofExcept (b.close h w).1, (b.close h w).2)
  | .log _ _ _ => (.returned, w)

/-- The calls of a run that began in the world `w`: its events with what came of each. -/
def calls (w : σ) : List Event → List Call
  | [] => []
  | event :: events => ⟨event, (b.reply w event).1⟩ :: calls (b.reply w event).2 events

/-- The world after calls that were begun in the world `w`. -/
def after (w : σ) : List Event → σ
  | [] => w
  | event :: events => after (b.reply w event).2 events

theorem after_append (w : σ) (events later : List Event) :
    b.after w (events ++ later) = b.after (b.after w events) later := by
  induction events generalizing w with
  | nil => rfl
  | cons event events ih => exact ih _

theorem calls_append (w : σ) (events later : List Event) :
    b.calls w (events ++ later) = b.calls w events ++ b.calls (b.after w events) later := by
  induction events generalizing w with
  | nil => rfl
  | cons event events ih =>
    rw [List.cons_append, calls, ih]
    rfl

/-- Where the calls of a run fall into two parts, so do its events. -/
theorem calls_eq_append {w : σ} {events : List Event} {earlier later : List Call}
    (hcalls : b.calls w events = earlier ++ later) : ∃ first rest, events = first ++ rest ∧
      b.calls w first = earlier ∧ b.calls (b.after w first) rest = later := by
  induction earlier generalizing w events with
  | nil => exact ⟨[], events, rfl, rfl, hcalls⟩
  | cons call earlier ih =>
    cases events with
    | nil => cases hcalls
    | cons event events =>
      obtain ⟨hcall, hrest⟩ := List.cons.inj hcalls
      obtain ⟨first, rest, rfl, rfl, hlater⟩ := ih hrest
      exact ⟨event :: first, rest, rfl, by rw [← hcall]; rfl, hlater⟩

/-- Packages that are all there and hand out the driver connections 0, 1, 2 and so on. These answer
every statement, but for the refused ones, without a row. -/
def refusing (refused : List String) : Backend Nat where
  installed _ _ := true
  connect _ _ n := (.ok ⟨n⟩, n + 1)
  setAutocommit _ n := (.ok (), n)
  openCursor _ n := (.ok (), n)
  execute _ sql _ n :=
    if sql ∈ refused then (.error ⟨.driver, "refused"⟩, n) else (.ok ⟨none, .int 0⟩, n)
  fetchAll _ n := (.ok [], n)
  closeCursor _ n := (.ok (), n)
  close _ n := (.ok (), n)
  isPsycopg2 _ _ := false
  escape _ v _ := v.shown
  literal _ v _ := v.shown
  adapt _ v _ := ⟨false, fun _ => .text v.shown⟩

end Backend

namespace Action

variable {σ ε δ α β : Type} {b : Backend σ}

/-- Run from the world `w`, the action ends so that its events account for the world that it leaves,
and `Q` holds of its outcome and of these events. -/
def EndsFrom (b : Backend σ) (w : σ) (x : Action σ ε α) (Q : Except ε α → List Event → Prop) : Prop :=
  (x w).world = b.after w (x w).events ∧ Q (x w).outcome (x w).events

section EndsFrom

variable {w : σ}

theorem EndsFrom.mono {x : Action σ ε α} {Q R : Except ε α → List Event → Prop}
    (hx : x.EndsFrom b w Q) (himp : ∀ r events, Q r events → R r events) : x.EndsFrom b w R :=
  ⟨hx.1, himp _ _ hx.2⟩

theorem EndsFrom.and {x : Action σ ε α} {Q R : Except ε α → List Event → Prop}
    (hQ : x.EndsFrom b w Q) (hR : x.EndsFrom b w R) :
    x.EndsFrom b w fun r events => Q r events ∧ R r events :=
  ⟨hQ.1, hQ.2, hR.2⟩

theorem EndsFrom.bind {x : Action σ ε α} {f : α → Action σ ε β}
    {Q : Except ε α → List Event → Prop} {R : Except ε β → List Event → Prop}
    (hx : x.EndsFrom b w Q) (herror : ∀ e events, Q (.error e) events → R (.error e) events)
    (hok : ∀ a events, Q (.ok a) events →
      (f a).EndsFrom b (b.after w events) fun r later => R r (events ++ later)) :
    (x >>= f).EndsFrom b w R := by
  obtain ⟨hworld, hQ⟩ := hx
  rw [EndsFrom, bind_apply, andThen]
  cases hrun : x w with
  | mk outcome events w' =>
    rw [hrun] at hworld hQ
    obtain rfl : w' = b.after w events := hworld
    cases outcome with
    | error e => exact ⟨rfl, herror e _ hQ⟩
    | ok a =>
      obtain ⟨hworld', hR⟩ := hok a _ hQ
      refine ⟨?_, hR⟩
      rw [hworld', b.after_append]

theorem EndsFrom.rescue {x : Action σ Problem α} {handler : Problem → Action σ Fault α}
    {Q : Except Problem α → List Event → Prop} {R : Except Fault α → List Event → Prop}
    (hx : x.EndsFrom b w Q) (hok : ∀ a events, Q (.ok a) events → R (.ok a) events)
    (hfatal : ∀ p events, p.isFatal = true → Q (.error p) events → R (.error (.problem p)) events)
    (hhandled : ∀ p events, p.isFatal = false → Q (.error p) events →
      (handler p).EndsFrom b (b.after w events) fun r later => R r (events ++ later)) :
    (x.rescue handler).EndsFrom b w R := by
  obtain ⟨hworld, hQ⟩ := hx
  rw [EndsFrom, Action.rescue]
  cases hrun : x w with
  | mk outcome events w' =>
    rw [hrun] at hworld hQ
    obtain rfl : w' = b.after w events := hworld
    cases outcome with
    | ok a => exact ⟨rfl, hok a _ hQ⟩
    | error p =>
      cases hp : p.isFatal with
      | true =>
        simp only [hp, if_true]
        exact ⟨trivial, hfatal p _ hp hQ⟩
      | false =>
        simp only [hp, Bool.false_eq_true, if_false]
        obtain ⟨hworld', hR⟩ := hhandled p _ hp hQ
        refine ⟨?_, hR⟩
        rw [hworld', b.after_append]

theorem EndsFrom.orElseWhen {x next : Action σ Problem α} {expected : Problem → Bool}
    {Q R : Except Problem α → List Event → Prop} (hx : x.EndsFrom b w Q)
    (hok : ∀ a events, Q (.ok a) events → R (.ok a) events)
    (hother : ∀ p events, expected p = false → Q (.error p) events → R (.error p) events)
    (hnext : ∀ p events, expected p = true → Q (.error p) events →
      next.EndsFrom b (b.after w events) fun r later => R r (events ++ later)) :
    (Action.orElseWhen expected x next).EndsFrom b w R := by
  obtain ⟨hworld, hQ⟩ := hx
  rw [EndsFrom, Action.orElseWhen]
  cases hrun : x w with
  | mk outcome events w' =>
    rw [hrun] at hworld hQ
    obtain rfl : w' = b.after w events := hworld
    cases outcome with
    | ok a => exact ⟨rfl, hok a _ hQ⟩
    | error p =>
      cases hp : expected p with
      | true =>
        simp only [hp, if_true]
        obtain ⟨hworld', hR⟩ := hnext p _ hp hQ
        refine ⟨?_, hR⟩
        rw [hworld', b.after_append]
      | false =>
        simp only [hp, Bool.false_eq_true, if_false]
        exact ⟨trivial, hother p _ hp hQ⟩

theorem EndsFrom.afterwards {x : Action σ ε α} {last : Action σ ε Unit}
    {Q R : Except ε α → List Event → Prop} (hx : x.EndsFrom b w Q)
    (hlast : ∀ r events, Q r events → last.EndsFrom b (b.after w events) fun ending later =>
      (ending = .ok () → R r (events ++ later)) ∧
        ∀ e, ending = .error e → R (.error e) (events ++ later)) :
    (x.afterwards last).EndsFrom b w R := by
  obtain ⟨hworld, hQ⟩ := hx
  obtain ⟨hworld', hR⟩ := hlast _ _ hQ
  rw [← hworld] at hworld' hR
  rw [EndsFrom, Action.afterwards]
  rcases hrun : last (x w).world with ⟨e | ⟨⟩, later, w'⟩
  all_goals
    rw [hrun] at hworld' hR
    rw [hworld] at hworld'
    dsimp only at hworld' hR ⊢
    refine ⟨by rw [hworld', b.after_append], ?_⟩
  · exact hR.2 e rfl
  · exact hR.1 rfl

end EndsFrom

/-- However the action is run, its events account for the world that it leaves, and `Q` holds of its
outcome and of the calls that it made. -/
def Ends (b : Backend σ) (x : Action σ ε α) (Q : Except ε α → List Call → Prop) : Prop :=
  ∀ w, (x w).world = b.after w (x w).events ∧ Q (x w).outcome (b.calls w (x w).events)

theorem Ends.mono {x : Action σ ε α} {Q R : Except ε α → List Call → Prop} (hx : x.Ends b Q)
    (himp : ∀ r calls, Q r calls → R r calls) : x.Ends b R :=
  fun w => ⟨(hx w).1, himp _ _ (hx w).2⟩

theorem ends_iff_endsFrom {x : Action σ ε α} {Q : Except ε α → List Call → Prop} :
    x.Ends b Q ↔ ∀ w, x.EndsFrom b w fun r events => Q r (b.calls w events) := Iff.rfl

theorem ends_pure {a : α} {Q : Except ε α → List Call → Prop} (hok : Q (.ok a) []) :
    (pure a : Action σ ε α).Ends b Q :=
  fun _ => ⟨rfl, hok⟩

theorem ends_fail {e : ε} {Q : Except ε α → List Call → Prop} (herror : Q (.error e) []) :
    (fail e : Action σ ε α).Ends b Q :=
  fun _ => ⟨rfl, herror⟩

theorem ends_ofExcept {r : Except ε α} {Q : Except ε α → List Call → Prop} (hr : Q r []) :
    (ofExcept r : Action σ ε α).Ends b Q :=
  fun _ => ⟨rfl, hr⟩

theorem ends_observe {f : σ → Except ε α} {Q : Except ε α → List Call → Prop}
    (hf : ∀ w, Q (f w) []) : (observe f).Ends b Q :=
  fun w => ⟨rfl, hf w⟩

theorem ends_log {level : Level} {logger : Logger} {message : String}
    {Q : Except ε Unit → List Call → Prop}
    (hok : Q (.ok ()) [⟨.log level logger message, .returned⟩]) :
    (log level logger message : Action σ ε Unit).Ends b Q :=
  fun _ => ⟨rfl, hok⟩

theorem Ends.bind {x : Action σ ε α} {f : α → Action σ ε β} {Q : Except ε α → List Call → Prop}
    {R : Except ε β → List Call → Prop} (hx : x.Ends b Q)
    (herror : ∀ e calls, Q (.error e) calls → R (.error e) calls)
    (hok : ∀ a calls, Q (.ok a) calls → (f a).Ends b fun r later => R r (calls ++ later)) :
    (x >>= f).Ends b R := by
  refine ends_iff_endsFrom.2 fun w => ?_
  refine EndsFrom.bind (ends_iff_endsFrom.1 hx w) (fun e events hQ => herror e _ hQ) ?_
  intro a events hQ
  refine EndsFrom.mono (ends_iff_endsFrom.1 (hok a _ hQ) _) ?_
  intro r later hR
  rwa [b.calls_append]

theorem Ends.mapError {x : Action σ ε α} {f : ε → δ} {Q : Except δ α → List Call → Prop}
    (hx : x.Ends b fun r calls => Q (r.mapError f) calls) : (x.mapError f).Ends b Q :=
  hx

theorem Ends.lift {x : Action σ Problem α} {Q : Except Fault α → List Call → Prop}
    (hx : x.Ends b fun r calls => Q (r.mapError .problem) calls) :
    (liftM x : Action σ Fault α).Ends b Q :=
  hx

theorem Ends.rescue {x : Action σ Problem α} {handler : Problem → Action σ Fault α}
    {Q : Except Problem α → List Call → Prop} {R : Except Fault α → List Call → Prop}
    (hx : x.Ends b Q) (hok : ∀ a calls, Q (.ok a) calls → R (.ok a) calls)
    (hfatal : ∀ p calls, p.isFatal = true → Q (.error p) calls → R (.error (.problem p)) calls)
    (hhandled : ∀ p calls, p.isFatal = false → Q (.error p) calls →
      (handler p).Ends b fun r later => R r (calls ++ later)) :
    (x.rescue handler).Ends b R := by
  refine ends_iff_endsFrom.2 fun w => ?_
  refine EndsFrom.rescue (ends_iff_endsFrom.1 hx w) (fun a events hQ => hok a _ hQ)
    (fun p events hp hQ => hfatal p _ hp hQ) ?_
  intro p events hp hQ
  refine EndsFrom.mono (ends_iff_endsFrom.1 (hhandled p _ hp hQ) _) ?_
  intro r later hR
  rwa [b.calls_append]

theorem Ends.orElseWhen {x next : Action σ Problem α} {expected : Problem → Bool}
    {Q R : Except Problem α → List Call → Prop} (hx : x.Ends b Q)
    (hok : ∀ a calls, Q (.ok a) calls → R (.ok a) calls)
    (hother : ∀ p calls, expected p = false → Q (.error p) calls → R (.error p) calls)
    (hnext : ∀ p calls, expected p = true → Q (.error p) calls →
      next.Ends b fun r later => R r (calls ++ later)) :
    (Action.orElseWhen expected x next).Ends b R := by
  refine ends_iff_endsFrom.2 fun w => ?_
  refine EndsFrom.orElseWhen (ends_iff_endsFrom.1 hx w) (fun a events hQ => hok a _ hQ)
    (fun p events hp hQ => hother p _ hp hQ) ?_
  intro p events hp hQ
  refine EndsFrom.mono (ends_iff_endsFrom.1 (hnext p _ hp hQ) _) ?_
  intro r later hR
  rwa [b.calls_append]

theorem ends_call {event : Event} {f : σ → Except Failure α × σ}
    {Q : Except Problem α → List Call → Prop}
    (hreply : ∀ w, b.reply w event = (.ofExcept (f w).1, (f w).2))
    (hok : ∀ a, Q (.ok a) [⟨event, .returned⟩])
    (hraised : ∀ failure, Q (.error (.raised failure)) [⟨event, .raised⟩]) :
    (Backend.call event f).Ends b Q := by
  intro w
  refine ⟨?_, ?_⟩
  · change (f w).2 = (b.reply w event).2
    rw [hreply]
  · change Q ((f w).1.mapError .raised) [⟨event, (b.reply w event).1⟩]
    rw [hreply]
    cases (f w).1 with
    | error failure => exact hraised failure
    | ok a => exact hok a

theorem ends_cursor {h : Handle} {Q : Except Problem Unit → List Call → Prop}
    (hok : Q (.ok ()) [⟨.cursorOpen h, .returned⟩])
    (hraised : ∀ failure, Q (.error (.raised failure)) [⟨.cursorOpen h, .raised⟩]) :
    (b.cursor h).Ends b Q :=
  ends_call (fun _ => rfl) (fun _ => hok) hraised

theorem ends_executing {h : Handle} {sql : String} {params : Value}
    {Q : Except Problem Answered → List Call → Prop}
    (hok : ∀ answered, Q (.ok answered)
      [⟨.execute h sql (if params.truthy then some params else none), .returned⟩])
    (hraised : ∀ failure, Q (.error (.raised failure))
      [⟨.execute h sql (if params.truthy then some params else none), .raised⟩]) :
    (b.executing h sql params).Ends b Q :=
  ends_call (fun _ => rfl) hok hraised

theorem ends_fetching {h : Handle} {Q : Except Problem (List (List Value)) → List Call → Prop}
    (hok : ∀ rows, Q (.ok rows) [⟨.fetch h, .returned⟩])
    (hraised : ∀ failure, Q (.error (.raised failure)) [⟨.fetch h, .raised⟩]) :
    (b.fetching h).Ends b Q :=
  ends_call (fun _ => rfl) hok hraised

theorem ends_closing {h : Handle} {Q : Except Problem Unit → List Call → Prop}
    (hok : Q (.ok ()) [⟨.close h, .returned⟩])
    (hraised : ∀ failure, Q (.error (.raised failure)) [⟨.close h, .raised⟩]) :
    (b.closing h).Ends b Q :=
  ends_call (fun _ => rfl) (fun _ => hok) hraised

theorem ends_connecting {package : Package} {arguments : ConnectArguments}
    {Q : Except Problem Handle → List Call → Prop}
    (hok : ∀ h, Q (.ok h) [⟨.connect package arguments, .connected h⟩])
    (hraised : ∀ failure, Q (.error (.raised failure)) [⟨.connect package arguments, .raised⟩]) :
    (b.connecting package arguments).Ends b Q := by
  intro w
  simp only [Backend.connecting, Backend.call, Backend.after, Backend.calls, Backend.reply]
  rcases b.connect package arguments w with ⟨_ | h, w'⟩
  · exact ⟨rfl, hraised _⟩
  · exact ⟨rfl, hok h⟩

theorem ends_autocommitting {h : Handle} {Q : Except Problem Unit → List Call → Prop}
    (hok : Q (.ok ()) [⟨.autocommit h, .returned⟩])
    (hraised : ∀ failure, Q (.error (.raised failure)) [⟨.autocommit h, .raised⟩]) :
    (b.autocommitting h).Ends b Q :=
  ends_call (fun _ => rfl) (fun _ => hok) hraised

theorem ends_closingCursor {h : Handle} {Q : Except Problem Unit → List Call → Prop}
    (hok : Q (.ok ()) [⟨.cursorClose h, .returned⟩])
    (hraised : ∀ failure, Q (.error (.raised failure)) [⟨.cursorClose h, .raised⟩]) :
    (b.closingCursor h).Ends b Q :=
  ends_call (fun _ => rfl) (fun _ => hok) hraised

/-- Work with an open cursor ends as the work does, or with the failure to close the cursor. -/
theorem Ends.withOpenCursor {x : Action σ ε α} {h : Handle} {raise : Problem → ε}
    {Q : Except ε α → List Call → Prop}
    (hx : x.Ends b fun r calls => Q r (calls ++ [⟨.cursorClose h, .returned⟩]) ∧
      ∀ failure, Q (.error (raise (.raised failure))) (calls ++ [⟨.cursorClose h, .raised⟩])) :
    (b.withOpenCursor h raise x).Ends b Q := by
  have hclosing : ((b.closingCursor h).mapError raise).Ends b fun r calls =>
      (r = .ok () ∧ calls = [⟨.cursorClose h, .returned⟩]) ∨
      ∃ failure, r = .error (raise (.raised failure)) ∧ calls = [⟨.cursorClose h, .raised⟩] :=
    Ends.mapError (ends_closingCursor (.inl ⟨rfl, rfl⟩) fun failure => .inr ⟨failure, rfl, rfl⟩)
  refine ends_iff_endsFrom.2 fun w => ?_
  refine EndsFrom.afterwards (ends_iff_endsFrom.1 hx w) ?_
  rintro r events ⟨hclosed, hraised⟩
  refine EndsFrom.mono (ends_iff_endsFrom.1 hclosing _) ?_
  rintro ending later (⟨rfl, hcalls⟩ | ⟨failure, rfl, hcalls⟩)
  · refine ⟨fun _ => ?_, by rintro e ⟨⟩⟩
    rwa [b.calls_append, hcalls]
  · refine ⟨by rintro ⟨⟩, ?_⟩
    rintro e ⟨⟩
    rw [b.calls_append, hcalls]
    exact hraised failure

end Action

end SqlBridge
