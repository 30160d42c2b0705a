import SqlBridge.Proofs.Charset.Accepted
import SqlBridge.Proofs.Driver.Failures

namespace SqlBridge

namespace Call

/-- The driver connection that a package handed out, if it did. -/
def handedOut? (call : Call) : Option Handle :=
  match call.event, call.reply with
  | .connect _ _, .connected h => some h
  | _, _ => none

/-- The statement that is sent: the one that is executed, or the one that a package is asked to run as
soon as it is connected. -/
def sentStatement? (call : Call) : Option String :=
  match call.event with
  | .execute _ sql _ => some sql
  | .connect _ arguments => arguments.initCommand?
  | _ => none

/-- The call is made to no driver connection, and none is handed out. -/
def Fruitless (call : Call) : Prop :=
  call.event.handle? = none ∧ call.handedOut? = none

/-- The call neither asks for a driver connection nor closes one. -/
def Keeps (call : Call) : Prop :=
  call.event.isConnect = false ∧ call.event.isClose = false

variable {call : Call}

theorem Keeps.handedOut?_eq (hkeeps : call.Keeps) : call.handedOut? = none := by
  obtain ⟨event, reply⟩ := call
  cases event with
  | connect package arguments => cases hkeeps.1
  | _ => rfl

theorem Fruitless.isClose_eq (hfruitless : call.Fruitless) : call.event.isClose = false := by
  obtain ⟨event, reply⟩ := call
  cases event with
  | close h => cases hfruitless.1
  | _ => rfl

end Call

/-- The driver connections that packages handed out, in order. -/
def handedOut (calls : List Call) : List Handle :=
  calls.filterMap Call.handedOut?

/-- The statements that were sent, in order. -/
def sentStatements (calls : List Call) : List String :=
  calls.filterMap Call.sentStatement?

/-- The statement that gives a new session its charset, if there is one to give and a server to give
it to. -/
def Settings.charsetStatement? (s : Settings) : Option String :=
  s.charset.bind fun charset => if charset = "" then none else s.engine.charsetStatement charset

/-- Every package is asked for autocommit in its own way: by a keyword of the connect call, or by an
assignment that is the next thing done after it. -/
inductive RequestsAutocommit (h : Handle) : Package → ConnectArguments → List Call → Prop where
  | keyword {package : Package} {arguments : ConnectArguments} {later : List Call}
      (hpackage : package = .psycopg ∨ package = .pymysql)
      (hkeyword : arguments.keywords.lookup "autocommit" = some (.bool true)) :
      RequestsAutocommit h package arguments later
  | assignment {arguments : ConnectArguments} {later : List Call} :
      RequestsAutocommit h .psycopg2 arguments (⟨.autocommit h, .returned⟩ :: later)
  | isolation {arguments : ConnectArguments} {later : List Call}
      (hkeyword : arguments.keywords.lookup "isolation_level" = some .null) :
      RequestsAutocommit h .sqlite3 arguments later

/-- psycopg2 handed out a driver connection, after attempts that brought none, and the assignment that
was to switch it to autocommit raised a failure. That was the last thing that was done. -/
inductive Unswitched (h : Handle) : List Call → Prop where
  | intro {arguments : ConnectArguments} {earlier : List Call}
      (hearlier : ∀ call ∈ earlier, call.Fruitless) :
      Unswitched h
        (earlier ++ [⟨.connect .psycopg2 arguments, .connected h⟩, ⟨.autocommit h, .raised⟩])

/-- What psycopg2 grants for autocommit: it can be set whenever no transaction is in progress, hence
on a connection that was handed out just now. -/
def Backend.SwitchesAutocommit {σ : Type} (b : Backend σ) : Prop :=
  ∀ (arguments : ConnectArguments) (w : σ) (h : Handle) (w' : σ),
    b.connect .psycopg2 arguments w = (.ok h, w') → (b.setAutocommit h w').1 = .ok ()

/-- By the end of these calls it is known that psycopg cannot be loaded: it is not there, or it raised
an error about loading when it was asked to connect. -/
def LoadFails {σ : Type} (b : Backend σ) (w : σ) (events : List Event) : Prop :=
  b.installed .psycopg w = false ∨ ∃ arguments failure,
    (Event.connect .psycopg arguments, failure) ∈ b.failures w events ∧ failure.kind = .loading

/-- Only after psycopg could not be loaded is psycopg2 asked to connect. -/
def FallsBack {σ : Type} (b : Backend σ) (w : σ) (events : List Event) : Prop :=
  ∀ earlier arguments later, events = earlier ++ .connect .psycopg2 arguments :: later →
    LoadFails b w earlier

/-- A fatal failure was raised by a call of the run. -/
def FatallyFails {σ : Type} (b : Backend σ) (w : σ) (events : List Event) : Prop :=
  ∃ call ∈ b.failures w events, call.2.kind = .fatal

theorem FatallyFails.after {σ : Type} {b : Backend σ} {w : σ} {later : List Event}
    (earlier : List Event) (hfails : FatallyFails b (b.after w earlier) later) :
    FatallyFails b w (earlier ++ later) := by
  obtain ⟨call, hcall, hkind⟩ := hfails
  refine ⟨call, ?_, hkind⟩
  rw [b.failures_append]
  exact List.mem_append_right _ hcall

theorem fatallyFails_of_getLast? {σ : Type} {b : Backend σ} {w : σ} {events : List Event}
    {event : Event} {failure : Failure}
    (hlast : (b.failures w events).getLast? = some (event, failure))
    (hfatal : (Problem.raised failure).isFatal = true) : FatallyFails b w events :=
  ⟨_, List.mem_of_getLast? hlast, by simpa [Problem.isFatal] using hfatal⟩

section Fallback

variable {σ : Type} {b : Backend σ} {w : σ} {events later : List Event}

theorem LoadFails.append (hfails : LoadFails b w events) (later : List Event) :
    LoadFails b w (events ++ later) := by
  refine hfails.imp_right ?_
  rintro ⟨arguments, failure, hmem, hkind⟩
  refine ⟨arguments, failure, ?_, hkind⟩
  rw [b.failures_append]
  exact List.mem_append_left _ hmem

theorem fallsBack_of_unused (hunused : ∀ arguments, .connect .psycopg2 arguments ∉ events) :
    FallsBack b w events := by
  rintro earlier arguments later rfl
  exact absurd (List.mem_append_right _ (List.mem_cons_self ..)) (hunused arguments)

/-- An event of the whole run was seen in its first part, or after all of that. -/
theorem split_append_cases {event : Event} {earlier rest : List Event}
    (hsplit : events ++ later = earlier ++ event :: rest) :
    (∃ between, events = earlier ++ event :: between) ∨
      ∃ between, earlier = events ++ between ∧ event ∈ later := by
  rcases List.append_eq_append_iff.1 hsplit with ⟨between, hearlier, hlater⟩ | ⟨between, hevents, hrest⟩
  · refine .inr ⟨between, hearlier, ?_⟩
    rw [hlater]
    exact List.mem_append_right _ (List.mem_cons_self ..)
  · cases between with
    | nil =>
      rw [List.append_nil] at hevents
      rw [List.nil_append] at hrest
      refine .inr ⟨[], by rw [hevents, List.append_nil], ?_⟩
      rw [← hrest]
      exact List.mem_cons_self ..
    | cons event' between =>
      obtain ⟨rfl, -⟩ := List.cons.inj hrest
      exact .inl ⟨between, hevents⟩

theorem FallsBack.append (hback : FallsBack b w events)
    (hunused : ∀ arguments, .connect .psycopg2 arguments ∉ later) :
    FallsBack b w (events ++ later) := by
  intro earlier arguments rest hsplit
  rcases split_append_cases hsplit with ⟨between, hevents⟩ | ⟨between, -, hmem⟩
  · exact hback earlier arguments between hevents
  · exact absurd hmem (hunused arguments)

/-- What is done once psycopg cannot be loaded may use psycopg2. -/
theorem LoadFails.fallsBack (hfails : LoadFails b w events)
    (hunused : ∀ arguments, .connect .psycopg2 arguments ∉ events) (later : List Event) :
    FallsBack b w (events ++ later) := by
  intro earlier arguments rest hsplit
  rcases split_append_cases hsplit with ⟨between, rfl⟩ | ⟨between, rfl, -⟩
  · exact absurd (List.mem_append_right _ (List.mem_cons_self ..)) (hunused arguments)
  · exact hfails.append between

end Fallback

/-- One driver connection was handed out, by the last connect call, and is still open. So far these
statements were sent. -/
inductive Held (h : Handle) (statements : List String) : List Call → Prop where
  | intro {package : Package} {arguments : ConnectArguments} {earlier later : List Call}
      (hearlier : ∀ call ∈ earlier, call.Fruitless) (hlater : ∀ call ∈ later, call.Keeps)
      (hautocommit : RequestsAutocommit h package arguments later)
      (hsent : sentStatements (earlier ++ ⟨.connect package arguments, .connected h⟩ :: later) =
        statements) :
      Held h statements (earlier ++ ⟨.connect package arguments, .connected h⟩ :: later)

section Held

variable {s : Settings} {h : Handle} {statements : List String} {calls : List Call}

theorem sentStatements_append (calls later : List Call) :
    sentStatements (calls ++ later) = sentStatements calls ++ sentStatements later :=
  List.filterMap_append ..

theorem sentStatements_singleton (call : Call) :
    sentStatements [call] = call.sentStatement?.toList := by
  rw [sentStatements, List.filterMap_cons]
  cases call.sentStatement? <;> rfl

theorem handedOut_append (calls later : List Call) :
    handedOut (calls ++ later) = handedOut calls ++ handedOut later :=
  List.filterMap_append ..

theorem handedOut_eq_nil (hcalls : ∀ call ∈ calls, call.handedOut? = none) : handedOut calls = [] :=
  List.filterMap_eq_nil_iff.2 hcalls

theorem RequestsAutocommit.append {package : Package} {arguments : ConnectArguments}
    (hrequests : RequestsAutocommit h package arguments calls) (later : List Call) :
    RequestsAutocommit h package arguments (calls ++ later) := by
  cases hrequests with
  | keyword hpackage hkeyword => exact .keyword hpackage hkeyword
  | assignment => exact .assignment
  | isolation hkeyword => exact .isolation hkeyword

theorem Held.append (hheld : Held h statements calls) {later : List Call}
    (hlater : ∀ call ∈ later, call.Keeps) :
    Held h (statements ++ sentStatements later) (calls ++ later) := by
  cases hheld with
  | intro hearlier hkeeps hautocommit hsent =>
    rw [List.append_assoc, List.cons_append]
    refine .intro hearlier (List.forall_mem_append.2 ⟨hkeeps, hlater⟩) (hautocommit.append later) ?_
    rw [← hsent, ← sentStatements_append, List.append_assoc, List.cons_append]

theorem Held.log (hheld : Held h statements calls) {level : Level} {logger : Logger}
    {message : String} : Held h statements (calls ++ [⟨.log level logger message, .returned⟩]) := by
  have hlogged := hheld.append (List.forall_mem_singleton.2
    (⟨rfl, rfl⟩ : Call.Keeps ⟨.log level logger message, .returned⟩))
  rwa [sentStatements_singleton, Call.sentStatement?, Option.toList_none, List.append_nil] at hlogged

/-- Calls that brought nothing may come before. -/
theorem Held.after_fruitless {earlier : List Call} (hheld : Held h statements calls)
    (hearlier : ∀ call ∈ earlier, call.Fruitless) :
    Held h (sentStatements earlier ++ statements) (earlier ++ calls) := by
  cases hheld with
  | intro hearlier' hkeeps hautocommit hsent =>
    rw [← List.append_assoc]
    refine .intro (List.forall_mem_append.2 ⟨hearlier, hearlier'⟩) hkeeps hautocommit ?_
    rw [← hsent, ← sentStatements_append, List.append_assoc]

theorem Held.handedOut_eq (hheld : Held h statements calls) : handedOut calls = [h] := by
  cases hheld with
  | @intro package arguments earlier later hearlier hkeeps hautocommit hsent =>
    have hnone : handedOut earlier = [] := handedOut_eq_nil fun call hcall => (hearlier call hcall).2
    have hnone' : handedOut later = [] :=
      handedOut_eq_nil fun call hcall => (hkeeps call hcall).handedOut?_eq
    rw [handedOut_append, hnone, List.nil_append]
    exact congrArg (h :: ·) hnone'

theorem Held.unclosed (hheld : Held h statements calls) :
    ∀ call ∈ calls, call.event.isClose = false := by
  cases hheld with
  | intro hearlier hkeeps hautocommit hsent =>
    refine List.forall_mem_append.2 ⟨fun call hcall => (hearlier call hcall).isClose_eq, ?_⟩
    exact List.forall_mem_cons.2 ⟨rfl, fun call hcall => (hkeeps call hcall).2⟩

namespace Unswitched

theorem after_fruitless {earlier : List Call} (hcalls : Unswitched h calls)
    (hearlier : ∀ call ∈ earlier, call.Fruitless) : Unswitched h (earlier ++ calls) := by
  cases hcalls with
  | intro hearlier' =>
    rw [← List.append_assoc]
    exact .intro (List.forall_mem_append.2 ⟨hearlier, hearlier'⟩)

theorem handedOut_eq (hcalls : Unswitched h calls) : handedOut calls = [h] := by
  cases hcalls with
  | intro hearlier =>
    rw [handedOut_append, handedOut_eq_nil fun call hcall => (hearlier call hcall).2]
    rfl

theorem unclosed (hcalls : Unswitched h calls) : ∀ call ∈ calls, call.event.isClose = false := by
  cases hcalls with
  | intro hearlier =>
    refine List.forall_mem_append.2 ⟨fun call hcall => (hearlier call hcall).isClose_eq, ?_⟩
    exact List.forall_mem_cons.2 ⟨rfl, List.forall_mem_singleton.2 rfl⟩

end Unswitched

/-- No driver connection is left behind by a package that keeps to what it grants for autocommit. -/
theorem Backend.SwitchesAutocommit.not_unswitched {σ : Type} {b : Backend σ}
    (hswitches : b.SwitchesAutocommit) (w : σ) (events : List Event) :
    ¬Unswitched h (b.calls w events) := by
  intro hcalls
  generalize hrun : b.calls w events = calls at hcalls
  cases hcalls with
  | @intro arguments earlier hearlier =>
    obtain ⟨first, rest, rfl, -, hrest⟩ := b.calls_eq_append hrun
    cases rest with
    | nil => cases hrest
    | cons connecting rest =>
      obtain ⟨hconnecting, hrest⟩ := List.cons.inj hrest
      obtain ⟨rfl, hconnected⟩ := Call.mk.inj hconnecting
      cases rest with
      | nil => cases hrest
      | cons switching rest =>
        obtain ⟨rfl, hraised⟩ := Call.mk.inj (List.cons.inj hrest).1
        rcases hanswer : b.connect .psycopg2 arguments (b.after w first) with ⟨failure | h', w'⟩
        · simp [Backend.reply, hanswer] at hconnected
        · obtain rfl : h' = h := by simpa [Backend.reply, hanswer] using hconnected
          have hreturned := hswitches arguments _ _ _ hanswer
          simp [Backend.reply, hanswer, hreturned, Reply.ofExcept] at hraised

end Held

end SqlBridge
