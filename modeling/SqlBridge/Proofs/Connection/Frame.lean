import SqlBridge.Proofs.Connection.Request
import SqlBridge.Proofs.Driver.Failures

namespace SqlBridge

open SqlBridge.Action

theorem Action.bind_pure_apply {σ ε α β : Type} (x : Action σ ε α) (f : α → β) (w : σ) :
    (x >>= fun a => pure (f a)) w = ⟨(x w).outcome.map f, (x w).events, (x w).world⟩ := by
  rw [bind_apply, andThen]
  rcases x w with ⟨_ | a, events, w'⟩
  · rfl
  · simp [pure_apply, Except.map]

namespace Call

/-- A driver connection was closed, as it was told to be. -/
def closes (driver : Option Handle) (call : Call) : Bool :=
  match call.event, call.reply with
  | .close h, .returned => driver == some h
  | _, _ => false

/-- A driver connection executed a statement, as it was told to. -/
def executes (driver : Option Handle) (statement : Option String) (call : Call) : Bool :=
  match call.event, call.reply with
  | .execute h sql _, .returned => driver == some h && statement == some sql
  | _, _ => false

/-- The cursor of a driver connection was closed, as it was told to be. -/
def closesCursor (driver : Option Handle) (call : Call) : Bool :=
  match call.event, call.reply with
  | .cursorClose h, .returned => driver == some h
  | _, _ => false

theorem event_eq_of_closes {h : Handle} {call : Call} (hcloses : call.closes (some h) = true) :
    call.event = .close h := by
  obtain ⟨event, reply⟩ := call
  cases event with
  | close h' =>
    cases reply with
    | returned =>
      obtain rfl : h = h' := Option.some.inj (eq_of_beq hcloses)
      rfl
    | _ => cases hcloses
  | _ => cases hcloses

theorem executes_of_isLog {driver : Option Handle} {statement : Option String} {call : Call}
    (hlog : call.event.isLog = true) : call.executes driver statement = false := by
  obtain ⟨event, reply⟩ := call
  cases event <;> first | rfl | cases hlog

theorem closesCursor_of_isLog {driver : Option Handle} {call : Call}
    (hlog : call.event.isLog = true) : call.closesCursor driver = false := by
  obtain ⟨event, reply⟩ := call
  cases event <;> first | rfl | cases hlog

end Call

/-- What a driver did is told by the interactions alone. -/
theorem MadeOf.any_eq {parts : List Interaction} {calls : List Call} {p : Call → Bool}
    (hcalls : MadeOf parts calls) (hp : ∀ call : Call, call.event.isLog = true → p call = false) :
    calls.any p = (parts.flatMap Interaction.calls).any p := by
  rw [← hcalls, driverCalls, List.any_filter]
  refine List.any_congr rfl fun call => ?_
  cases hlog : call.event.isLog with
  | false => rfl
  | true => exact hp call hlog

namespace Connection

variable {σ : Type} {b : Backend σ} {c : Connection} {w : σ}

/-- What closing a connection comes to, when it is begun in the world `w`. -/
inductive Closing (b : Backend σ) (w : σ) (c : Connection) :
    Except Fault Connection → List Event → Prop where
  | idle (hdriver : c.driver = none) : Closing b w c (.ok c) []
  | failed {h : Handle} {failure : Failure} (hdriver : c.driver = some h)
      (hfailure : b.failure? w (.close h) = some failure) :
      Closing b w c (.error (.problem (.raised failure))) [.close h]
  | closed {h : Handle} (hdriver : c.driver = some h) (hreturned : b.failure? w (.close h) = none) :
      Closing b w c (.ok { c with driver := none })
        [.close h, .log .info .connection ("Closed " ++ c.settings.engine.name ++ " connection " ++ c.dsn)]

theorem close_endsFrom (c : Connection) : (c.close b).EndsFrom b w (Closing b w c) := by
  unfold close
  cases hdriver : c.driver with
  | none => exact endsFrom_pure (.idle hdriver)
  | some h =>
    refine EndsFrom.bind (closing_endsFrom h) ?_ ?_
    · rintro _ _ ⟨rfl, ⟨⟨⟩, -⟩ | ⟨failure, ⟨⟩, hfailure⟩⟩
      exact .failed hdriver hfailure
    · rintro _ _ ⟨rfl, ⟨-, hreturned⟩ | ⟨_, ⟨⟩, -⟩⟩
      exact EndsFrom.log_bind (endsFrom_pure (.closed hdriver hreturned))

theorem closes_close (b : Backend σ) (w : σ) (h : Handle) :
    Call.closes (some h) ⟨.close h, (b.reply w (.close h)).1⟩ =
      (b.failure? w (.close h)).isNone := by
  rw [Backend.reply, Backend.failure?]
  cases (b.close h w).1 with
  | error failure => rfl
  | ok _ => exact beq_self_eq_true (some h)

theorem Closing.any_closes_of_error {fault : Fault} {events : List Event}
    (hclosing : Closing b w c (.error fault) events) :
    (b.calls w events).any (Call.closes c.driver) = false := by
  cases hclosing with
  | failed hdriver hfailure => simp [Backend.calls, hdriver, closes_close, hfailure]

theorem Closing.eq_of_ok {c' : Connection} {events : List Event}
    (hclosing : Closing b w c (.ok c') events) :
    c' = if (b.calls w events).any (Call.closes c.driver) then { c with driver := none } else c := by
  cases hclosing with
  | idle hdriver => rfl
  | closed hdriver hreturned => simp [Backend.calls, hdriver, closes_close, hreturned]

/-- What is left of a connection later on: the settings are the same but for the charset, and the
driver connection is the same until it is gone. -/
structure Continues (c c' : Connection) : Prop where
  settings_eq : c'.settings = { c.settings with charset := c'.settings.charset }
  driver_eq : c'.driver = c.driver ∨ c'.driver = none

namespace Continues

variable {c' c'' : Connection}

theorem refl (c : Connection) : c.Continues c :=
  ⟨rfl, .inl rfl⟩

theorem trans (hfirst : c.Continues c') (hsecond : c'.Continues c'') : c.Continues c'' := by
  refine ⟨?_, ?_⟩
  · rw [hsecond.settings_eq, hfirst.settings_eq]
  · rcases hsecond.driver_eq with hsame | hgone
    · rw [hsame]
      exact hfirst.driver_eq
    · exact .inr hgone

theorem dsn_eq (hcontinues : c.Continues c') : c'.dsn = c.dsn := by
  rw [dsn, hcontinues.settings_eq]
  rfl

theorem effectivePort_eq (hcontinues : c.Continues c') :
    c'.settings.effectivePort = c.settings.effectivePort := by
  rw [hcontinues.settings_eq]
  rfl

end Continues

end Connection

namespace Request

variable {σ : Type} {b : Backend σ} {c : Connection} {w : σ}

/-- What a request leaves of a connection. One to close it takes its driver connection away when the
driver closed that, one for a charset puts the charset into its settings when the driver executed the
statement and closed the cursor for it, and no other leaves a trace. -/
def leaves (c : Connection) (request : Request) (calls : List Call) : Connection :=
  match request with
  | .exit | .close => if calls.any (Call.closes c.driver) then { c with driver := none } else c
  | .setCharset (some charset) =>
    if calls.any (Call.executes c.driver (c.settings.engine.charsetStatement charset)) ∧
        calls.any (Call.closesCursor c.driver) then
      { c with settings := { c.settings with charset := some charset } }
    else c
  | _ => c

theorem continues_leaves (c : Connection) (request : Request) (calls : List Call) :
    c.Continues (request.leaves c calls) := by
  unfold leaves
  split
  · split_ifs
    · exact ⟨rfl, .inr rfl⟩
    · exact .refl c
  · split_ifs
    · exact ⟨rfl, .inr rfl⟩
    · exact .refl c
  · split_ifs
    · exact ⟨rfl, .inl rfl⟩
    · exact .refl c
  · exact .refl c

/-- The answer to a request comes with what the calls leave of the connection. After a fault, and after
a change of charset that is denied, that is the connection as it was. -/
def Accounts (c : Connection) (request : Request) (r : Except Fault (Answer × Connection))
    (calls : List Call) : Prop :=
  match r with
  | .ok (answer, c') => c' = request.leaves c calls ∧
      ((∃ charset, request = .setCharset charset) → answer = .flag false → c' = c)
  | .error _ => request.leaves c calls = c

/-- A request that asks the connection for something and hands it back. -/
theorem accounts_of_bind_pure {α : Type} {request : Request} {x : Action σ Fault α} {f : α → Answer}
    {calls : List Call} (hleaves : request.leaves c calls = c)
    (hcharset : ∀ charset, request ≠ .setCharset charset) :
    request.Accounts c ((x >>= fun a => (pure (f a, c) : Action σ Fault (Answer × Connection))) w).outcome
      calls := by
  rw [bind_pure_apply]
  cases (x w).outcome with
  | error fault => exact hleaves
  | ok a => exact ⟨hleaves.symm, fun ⟨charset, heq⟩ => absurd heq (hcharset charset)⟩

theorem answer_close (c : Connection) (w : σ) : close.answer b c w =
    ⟨(c.close b w).outcome.map (Answer.done, ·), (c.close b w).events, (c.close b w).world⟩ :=
  bind_pure_apply ..

theorem accounts_of_close {request : Request} (hclose : request = .exit ∨ request = .close) :
    (c.close b >>= fun c' => (pure (.done, c') : Action σ Fault (Answer × Connection))).EndsFrom b w
      fun r events => request.Accounts c r (b.calls w events) := by
  have hleaves (calls : List Call) : request.leaves c calls =
      if calls.any (Call.closes c.driver) then { c with driver := none } else c := by
    rcases hclose with rfl | rfl <;> rfl
  have hcharset {P : Prop} (hset : ∃ charset, request = .setCharset charset) : P := by
    obtain ⟨charset, rfl⟩ := hset
    rcases hclose with heq | heq <;> cases heq
  refine EndsFrom.bind (Connection.close_endsFrom c) ?_ ?_
  · intro fault events hclosing
    change request.leaves c (b.calls w events) = c
    rw [hleaves, hclosing.any_closes_of_error, if_neg (by simp)]
  · intro c' events hclosing
    refine endsFrom_pure ⟨?_, hcharset⟩
    rw [List.append_nil, hleaves]
    exact hclosing.eq_of_ok

theorem accounts_of_charsetChange {charset : Option String}
    {change : Except Fault (Bool × Connection)} {parts : List Interaction} {calls : List Call}
    (hchange : c.CharsetChange charset change parts) (hparts : MadeOf parts calls) :
    (setCharset charset).Accounts c (change.map fun (changed, c') => (.flag changed, c')) calls := by
  have hexecutes (statement : Option String) : calls.any (Call.executes c.driver statement) =
      (parts.flatMap Interaction.calls).any (Call.executes c.driver statement) :=
    hparts.any_eq fun _ => Call.executes_of_isLog
  have hclosesCursor : calls.any (Call.closesCursor c.driver) =
      (parts.flatMap Interaction.calls).any (Call.closesCursor c.driver) :=
    hparts.any_eq fun _ => Call.closesCursor_of_isLog
  have hkept (hnone : ∀ statement,
      (parts.flatMap Interaction.calls).any (Call.executes c.driver statement) = false) :
      (setCharset charset).leaves c calls = c := by
    cases charset with
    | none => rfl
    | some wanted => rw [leaves, hexecutes, hnone, if_neg (by simp)]
  cases hchange with
  | unneeded => exact ⟨(hkept fun _ => rfl).symm, fun _ _ => rfl⟩
  | untyped => exact hkept fun _ => rfl
  | closed => exact hkept fun _ => rfl
  | refused => exact hkept fun _ => rfl
  | invalid => exact ⟨(hkept fun _ => rfl).symm, fun _ _ => rfl⟩
  | failed => exact ⟨(hkept fun _ => rfl).symm, fun _ _ => rfl⟩
  | interrupted => exact hkept fun _ => rfl
  | unclosed _ hcharset hwork =>
    change (setCharset charset).leaves c calls = c
    rw [hcharset, leaves, hclosesCursor, if_neg]
    cases hwork <;> simp [Interaction.calls, CursorWork.calls, Call.closesCursor]
  | changed hdriver _ hcharset _ _ hstatement =>
    refine ⟨?_, by rintro _ ⟨⟩⟩
    rw [hcharset, leaves, hexecutes, hclosesCursor, hstatement, hdriver, if_pos]
    simp [Interaction.calls, CursorWork.calls, Call.executes, Call.closesCursor]

theorem answer_accounts (c : Connection) (request : Request) :
    request.Accounts c (request.answer b c w).outcome
      (b.calls w (request.answer b c w).events) := by
  cases request with
  | exit => exact (accounts_of_close (.inl rfl)).2
  | close => exact (accounts_of_close (.inr rfl)).2
  | setCharset charset =>
    obtain ⟨-, parts, hparts, change, hchange, hr⟩ := answer_setCharset_interacts (b := b) c charset w
    rw [hr]
    exact accounts_of_charsetChange hchange hparts
  | state => exact ⟨rfl, fun ⟨_, heq⟩ => nomatch heq⟩
  | enter => exact ⟨rfl, fun ⟨_, heq⟩ => nomatch heq⟩
  | _ => exact accounts_of_bind_pure rfl nofun

end Request

end SqlBridge
