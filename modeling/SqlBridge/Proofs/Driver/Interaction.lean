import SqlBridge.Proofs.Driver.Calls

namespace SqlBridge

/-- What is done with a cursor between its opening and its closing. Rows are fetched only of a
statement that was executed without a failure. -/
inductive CursorWork where
  | nothing
  | executed (sql : String) (params : Option Value) (reply : Reply)
  | fetched (sql : String) (params : Option Value) (reply : Reply)

/-- A piece of work with a driver that is not taken apart: the uses of one cursor, from its opening
to its closing, are one piece. -/
inductive Interaction where
  | connect (package : Package) (arguments : ConnectArguments) (reply : Reply)
  | autocommit (h : Handle) (reply : Reply)
  /-- A cursor was asked for, and the driver raised a failure. -/
  | refusal (h : Handle)
  | cursor (h : Handle) (work : CursorWork) (closing : Reply)
  | close (h : Handle) (reply : Reply)

namespace CursorWork

def calls (h : Handle) : CursorWork → List Call
  | nothing => []
  | executed sql params reply => [⟨.execute h sql params, reply⟩]
  | fetched sql params reply => [⟨.execute h sql params, .returned⟩, ⟨.fetch h, reply⟩]

/-- The statement that is executed, if one is. -/
def statement? : CursorWork → Option String
  | nothing => none
  | executed sql _ _ | fetched sql _ _ => some sql

end CursorWork

/-- The calls that an interaction consists of. -/
def Interaction.calls : Interaction → List Call
  | connect package arguments reply => [⟨.connect package arguments, reply⟩]
  | autocommit h reply => [⟨.autocommit h, reply⟩]
  | refusal h => [⟨.cursorOpen h, .raised⟩]
  | cursor h work closing => ⟨.cursorOpen h, .returned⟩ :: (work.calls h ++ [⟨.cursorClose h, closing⟩])
  | close h reply => [⟨.close h, reply⟩]

def Event.isLog : Event → Bool
  | log _ _ _ => true
  | _ => false

/-- The calls on drivers and packages among all that can be seen of a run. -/
def driverCalls (calls : List Call) : List Call :=
  calls.filter fun call => !call.event.isLog

/-- The calls are those of the interactions, one after the other, with log records between them. -/
def MadeOf (parts : List Interaction) (calls : List Call) : Prop :=
  driverCalls calls = parts.flatMap Interaction.calls

theorem driverCalls_append (calls later : List Call) :
    driverCalls (calls ++ later) = driverCalls calls ++ driverCalls later :=
  List.filter_append ..

theorem MadeOf.append {parts parts' : List Interaction} {calls later : List Call}
    (hcalls : MadeOf parts calls) (hlater : MadeOf parts' later) :
    MadeOf (parts ++ parts') (calls ++ later) := by
  rw [MadeOf, driverCalls_append, hcalls, hlater, List.flatMap_append]

theorem MadeOf.exists_part {parts : List Interaction} {calls : List Call} {call : Call}
    (hcalls : MadeOf parts calls) (hmem : call ∈ calls) (hlog : call.event.isLog = false) :
    ∃ part ∈ parts, call ∈ part.calls := by
  have hdriver : call ∈ driverCalls calls := by
    rw [driverCalls, List.mem_filter, hlog]
    exact ⟨hmem, rfl⟩
  rw [hcalls] at hdriver
  exact List.mem_flatMap.1 hdriver

theorem MadeOf.mem_calls {parts : List Interaction} {calls : List Call} {part : Interaction}
    {call : Call} (hcalls : MadeOf parts calls) (hpart : part ∈ parts) (hcall : call ∈ part.calls) :
    call ∈ calls := by
  refine List.mem_of_mem_filter (p := fun call => !call.event.isLog) ?_
  rw [← driverCalls, hcalls]
  exact List.mem_flatMap.2 ⟨part, hpart, hcall⟩

theorem Backend.reply_of_isLog {σ : Type} (b : Backend σ) {w : σ} {events : List Event} {call : Call}
    (hmem : call ∈ b.calls w events) (hlog : call.event.isLog = true) : call.reply = .returned := by
  induction events generalizing w with
  | nil => cases hmem
  | cons event events ih =>
    rcases List.mem_cons.1 hmem with rfl | hmem
    · cases event <;> first | rfl | cases hlog
    · exact ih hmem

namespace Action

variable {σ ε α β : Type} {b : Backend σ}

/-- However the action is run, the calls that it makes are those of interactions for which, together
with its outcome, `Q` holds. -/
def Interacts (b : Backend σ) (x : Action σ ε α) (Q : Except ε α → List Interaction → Prop) : Prop :=
  x.Ends b fun r calls => ∃ parts, MadeOf parts calls ∧ Q r parts

theorem Interacts.mono {x : Action σ ε α} {Q R : Except ε α → List Interaction → Prop}
    (hx : x.Interacts b Q) (himp : ∀ r parts, Q r parts → R r parts) : x.Interacts b R := by
  refine Ends.mono hx ?_
  rintro r calls ⟨parts, hparts, hQ⟩
  exact ⟨parts, hparts, himp r parts hQ⟩

theorem interacts_pure {a : α} {Q : Except ε α → List Interaction → Prop} (hok : Q (.ok a) []) :
    (pure a : Action σ ε α).Interacts b Q :=
  ends_pure ⟨[], rfl, hok⟩

theorem interacts_fail {e : ε} {Q : Except ε α → List Interaction → Prop}
    (herror : Q (.error e) []) : (fail e : Action σ ε α).Interacts b Q :=
  ends_fail ⟨[], rfl, herror⟩

theorem interacts_ofExcept {r : Except ε α} {Q : Except ε α → List Interaction → Prop}
    (hr : Q r []) : (ofExcept r : Action σ ε α).Interacts b Q :=
  ends_ofExcept ⟨[], rfl, hr⟩

theorem interacts_observe {f : σ → Except ε α} {Q : Except ε α → List Interaction → Prop}
    (hf : ∀ w, Q (f w) []) : (observe f).Interacts b Q :=
  ends_observe fun w => ⟨[], rfl, hf w⟩

theorem interacts_log {level : Level} {logger : Logger} {message : String}
    {Q : Except ε Unit → List Interaction → Prop} (hok : Q (.ok ()) []) :
    (log level logger message : Action σ ε Unit).Interacts b Q :=
  ends_log ⟨[], rfl, hok⟩

theorem interacts_connecting {package : Package} {arguments : ConnectArguments}
    {Q : Except Problem Handle → List Interaction → Prop}
    (hok : ∀ h, Q (.ok h) [.connect package arguments (.connected h)])
    (hraised : ∀ failure, Q (.error (.raised failure)) [.connect package arguments .raised]) :
    (b.connecting package arguments).Interacts b Q :=
  ends_connecting (fun h => ⟨[.connect package arguments (.connected h)], rfl, hok h⟩)
    fun failure => ⟨[.connect package arguments .raised], rfl, hraised failure⟩

theorem interacts_autocommitting {h : Handle} {Q : Except Problem Unit → List Interaction → Prop}
    (hok : Q (.ok ()) [.autocommit h .returned])
    (hraised : ∀ failure, Q (.error (.raised failure)) [.autocommit h .raised]) :
    (b.autocommitting h).Interacts b Q :=
  ends_autocommitting ⟨[.autocommit h .returned], rfl, hok⟩
    fun failure => ⟨[.autocommit h .raised], rfl, hraised failure⟩

theorem interacts_closing {h : Handle} {Q : Except Problem Unit → List Interaction → Prop}
    (hok : Q (.ok ()) [.close h .returned])
    (hraised : ∀ failure, Q (.error (.raised failure)) [.close h .raised]) :
    (b.closing h).Interacts b Q :=
  ends_closing ⟨[.close h .returned], rfl, hok⟩
    fun failure => ⟨[.close h .raised], rfl, hraised failure⟩

theorem Interacts.bind {x : Action σ ε α} {f : α → Action σ ε β}
    {Q : Except ε α → List Interaction → Prop} {R : Except ε β → List Interaction → Prop}
    (hx : x.Interacts b Q) (herror : ∀ e parts, Q (.error e) parts → R (.error e) parts)
    (hok : ∀ a parts, Q (.ok a) parts → (f a).Interacts b fun r later => R r (parts ++ later)) :
    (x >>= f).Interacts b R := by
  refine Ends.bind hx ?_ ?_
  · rintro e calls ⟨parts, hparts, hQ⟩
    exact ⟨parts, hparts, herror e parts hQ⟩
  · rintro a calls ⟨parts, hparts, hQ⟩
    refine Ends.mono (hok a parts hQ) ?_
    rintro r later ⟨parts', hparts', hR⟩
    exact ⟨parts ++ parts', hparts.append hparts', hR⟩

theorem Interacts.bind_ofExcept {x : Action σ ε α} {f : α → Except ε β}
    {Q : Except ε α → List Interaction → Prop} {R : Except ε β → List Interaction → Prop}
    (hx : x.Interacts b Q) (herror : ∀ e parts, Q (.error e) parts → R (.error e) parts)
    (hok : ∀ a parts, Q (.ok a) parts → R (f a) parts) :
    (x >>= fun a => ofExcept (f a)).Interacts b R := by
  refine hx.bind herror ?_
  intro a parts hQ
  refine interacts_ofExcept ?_
  rw [List.append_nil]
  exact hok a parts hQ

theorem Interacts.bind_pure {x : Action σ ε α} {f : α → β}
    {Q : Except ε α → List Interaction → Prop} {R : Except ε β → List Interaction → Prop}
    (hx : x.Interacts b Q) (herror : ∀ e parts, Q (.error e) parts → R (.error e) parts)
    (hok : ∀ a parts, Q (.ok a) parts → R (.ok (f a)) parts) :
    (x >>= fun a => pure (f a)).Interacts b R :=
  hx.bind_ofExcept (f := fun a => .ok (f a)) herror hok

theorem Interacts.log_bind {level : Level} {logger : Logger} {message : String}
    {f : Unit → Action σ ε β} {R : Except ε β → List Interaction → Prop}
    (hf : (f ()).Interacts b R) : (log level logger message >>= f).Interacts b R := by
  refine Interacts.bind (interacts_log (Q := fun r parts => r = .ok () ∧ parts = []) ⟨rfl, rfl⟩) ?_ ?_
  · rintro e parts ⟨hr, -⟩
    cases hr
  · rintro _ _ ⟨-, rfl⟩
    exact hf

theorem Interacts.ofExcept_bind {r : Except ε α} {f : α → Action σ ε β}
    {R : Except ε β → List Interaction → Prop} (herror : ∀ e, r = .error e → R (.error e) [])
    (hok : ∀ a, r = .ok a → (f a).Interacts b R) : (ofExcept r >>= f).Interacts b R := by
  refine Interacts.bind (interacts_ofExcept (Q := fun r' parts => r = r' ∧ parts = []) ⟨rfl, rfl⟩)
    ?_ ?_
  · rintro e _ ⟨hr, rfl⟩
    exact herror e hr
  · rintro a _ ⟨hr, rfl⟩
    exact hok a hr

theorem Interacts.lift {x : Action σ Problem α} {Q : Except Fault α → List Interaction → Prop}
    (hx : x.Interacts b fun r parts => Q (r.mapError .problem) parts) :
    (liftM x : Action σ Fault α).Interacts b Q :=
  Ends.lift hx

theorem Interacts.rescue {x : Action σ Problem α} {handler : Problem → Action σ Fault α}
    {Q : Except Problem α → List Interaction → Prop}
    {R : Except Fault α → List Interaction → Prop} (hx : x.Interacts b Q)
    (hok : ∀ a parts, Q (.ok a) parts → R (.ok a) parts)
    (hfatal : ∀ p parts, p.isFatal = true → Q (.error p) parts → R (.error (.problem p)) parts)
    (hhandled : ∀ p parts, p.isFatal = false → Q (.error p) parts →
      (handler p).Interacts b fun r later => R r (parts ++ later)) :
    (x.rescue handler).Interacts b R := by
  refine Ends.rescue hx ?_ ?_ ?_
  · rintro a calls ⟨parts, hparts, hQ⟩
    exact ⟨parts, hparts, hok a parts hQ⟩
  · rintro p calls hp ⟨parts, hparts, hQ⟩
    exact ⟨parts, hparts, hfatal p parts hp hQ⟩
  · rintro p calls hp ⟨parts, hparts, hQ⟩
    refine Ends.mono (hhandled p parts hp hQ) ?_
    rintro r later ⟨parts', hparts', hR⟩
    exact ⟨parts ++ parts', hparts.append hparts', hR⟩

theorem Interacts.orElseWhen {x next : Action σ Problem α} {expected : Problem → Bool}
    {Q R : Except Problem α → List Interaction → Prop} (hx : x.Interacts b Q)
    (hok : ∀ a parts, Q (.ok a) parts → R (.ok a) parts)
    (hother : ∀ p parts, expected p = false → Q (.error p) parts → R (.error p) parts)
    (hnext : ∀ p parts, expected p = true → Q (.error p) parts →
      next.Interacts b fun r later => R r (parts ++ later)) :
    (Action.orElseWhen expected x next).Interacts b R := by
  refine Ends.orElseWhen hx ?_ ?_ ?_
  · rintro a calls ⟨parts, hparts, hQ⟩
    exact ⟨parts, hparts, hok a parts hQ⟩
  · rintro p calls hp ⟨parts, hparts, hQ⟩
    exact ⟨parts, hparts, hother p parts hp hQ⟩
  · rintro p calls hp ⟨parts, hparts, hQ⟩
    refine Ends.mono (hnext p parts hp hQ) ?_
    rintro r later ⟨parts', hparts', hR⟩
    exact ⟨parts ++ parts', hparts.append hparts', hR⟩

/-- A cursor that is asked for in the terms of `raise`, worked with and closed again. -/
theorem interacts_cursor {h : Handle} {body : Action σ ε α} (raise : Problem → ε)
    {opening : Action σ ε Unit} {Q : Except ε α → List Interaction → Prop}
    (hopening : opening = (b.cursor h).mapError raise)
    (hrefused : ∀ failure, Q (.error (raise (.raised failure))) [.refusal h])
    (hbody : body.Ends b fun r calls => ∃ work, driverCalls calls = work.calls h ∧
      Q r [.cursor h work .returned] ∧
        ∀ failure, Q (.error (raise (.raised failure))) [.cursor h work .raised]) :
    (opening >>= fun _ => b.withOpenCursor h raise body).Interacts b Q := by
  subst hopening
  have hcursor : ((b.cursor h).mapError raise).Ends b fun r calls =>
      (r = .ok () ∧ calls = [⟨.cursorOpen h, .returned⟩]) ∨
      ∃ failure, r = .error (raise (.raised failure)) ∧ calls = [⟨.cursorOpen h, .raised⟩] :=
    Ends.mapError (ends_cursor (.inl ⟨rfl, rfl⟩) fun failure => .inr ⟨failure, rfl, rfl⟩)
  refine Ends.bind hcursor ?_ ?_
  · rintro e calls (⟨hok, -⟩ | ⟨failure, hraised, rfl⟩)
    · cases hok
    · cases hraised
      exact ⟨[.refusal h], rfl, hrefused failure⟩
  · rintro a calls (⟨-, rfl⟩ | ⟨failure, hraised, -⟩)
    · refine Ends.withOpenCursor (Ends.mono hbody ?_)
      rintro r later ⟨work, hwork, hclosed, hraised⟩
      have hmade (closing : Reply) : MadeOf [.cursor h work closing]
          ([⟨.cursorOpen h, .returned⟩] ++ (later ++ [⟨.cursorClose h, closing⟩])) := by
        rw [MadeOf, driverCalls_append, driverCalls_append, hwork]
        simp [driverCalls, Event.isLog, Interaction.calls]
      exact ⟨⟨_, hmade .returned, hclosed⟩, fun failure => ⟨_, hmade .raised, hraised failure⟩⟩
    · cases hraised

end Action

end SqlBridge
