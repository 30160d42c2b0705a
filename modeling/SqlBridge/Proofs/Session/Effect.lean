import SqlBridge.Proofs.Connection.Opening
import SqlBridge.Proofs.Connection.Request
import SqlBridge.Proofs.Session.Path

namespace SqlBridge

open SqlBridge.Action

/-- The step asks this of the connection at a place. Without naming a connection only the default one
is asked, whether a database or a table exists, or to close. -/
inductive Step.Asks {σ : Type} (s : Session σ) (place : Nat) : Step σ → Request → Prop where
  | named {name : String} {request : Request} (hplace : s.place? name = some place) :
      Asks s place (.request name request) request
  | databaseExists {name : String} (hslot : s.slot = some place) :
      Asks s place (.defaultDatabaseExists name) (.databaseExists name)
  | tableExists {table : String} {database : Option String} (hslot : s.slot = some place) :
      Asks s place (.defaultTableExists table database) (.tableExists table database)
  | cleared (hslot : s.slot = some place) : Asks s place (.clearDefault true) .close

/-- What a request can come to. -/
def Request.Effect (c : Connection) (request : Request) (r : Except Fault (Answer × Connection))
    (parts : List Interaction) : Prop :=
  match request with
  | .setCharset charset => ∃ change, c.CharsetChange charset change parts ∧
      r = change.map fun (changed, c') => (.flag changed, c')
  | _ => request.LeavesCharset c r parts

theorem Request.Effect.uses {c : Connection} {request : Request}
    {r : Except Fault (Answer × Connection)} {parts : List Interaction}
    (heffect : request.Effect c r parts) : c.Uses (fun _ => True) parts := by
  cases request with
  | setCharset charset =>
    obtain ⟨change, hchange, -⟩ := heffect
    exact hchange.uses
  | _ => exact heffect.1.mono fun _ _ => trivial

/-- Everything that a step can do to the connections of a session, and what it does with drivers. -/
inductive Session.Effect {σ : Type} (s : Session σ) (step : Step σ) (outcome : Except Fault Answer)
    (s' : Session σ) : List Interaction → Prop where
  | silent (hconnections : s'.connections = s.connections) : Effect s step outcome s' []
  | handedIn {settings : Settings} {h : Handle}
      (hconnections : s'.connections = s.connections ++ [⟨settings, some h⟩]) :
      Effect s step outcome s' []
  | opened {settings : Settings} {h : Handle} {parts : List Interaction}
      (hopening : Connection.Opening settings (.ok h) parts)
      (hconnections : s'.connections = s.connections ++ [⟨settings, some h⟩]) :
      Effect s step outcome s' parts
  | unopened {settings : Settings} {fault : Fault} {parts : List Interaction}
      (hopening : Connection.Opening settings (.error fault) parts)
      (hconnections : s'.connections = s.connections) : Effect s step outcome s' parts
  | answered {place : Nat} {c c' : Connection} {request : Request} {answer : Answer}
      {parts : List Interaction} (hconnection : s.connections[place]? = some c)
      (hasks : step.Asks s place request)
      (houtcome : outcome = .ok answer ∨ step = .clearDefault true)
      (hrequest : request.Effect c (.ok (answer, c')) parts)
      (hconnections : s'.connections = s.connections.set place c') :
      Effect s step outcome s' parts
  | failed {place : Nat} {c : Connection} {request : Request} {fault : Fault}
      {parts : List Interaction} (hconnection : s.connections[place]? = some c)
      (hasks : step.Asks s place request) (houtcome : outcome = .error fault)
      (hrequest : request.Effect c (.error fault) parts)
      (hconnections : s'.connections = s.connections) : Effect s step outcome s' parts

namespace Session

variable {σ : Type} {b : Backend σ}

theorem request_interacts (c : Connection) (request : Request) :
    (request.answer b c).Interacts b (request.Effect c) := by
  cases request with
  | setCharset charset => exact Request.answer_setCharset_interacts c charset
  | _ => exact Request.answer_interacts c _ (by simp)

/-- The events of a step, as interactions that have an effect. -/
def HasEffect (b : Backend σ) (s : Session σ) (step : Step σ) (outcome : Except Fault Answer)
    (events : List Event) (s' : Session σ) : Prop :=
  s'.world = b.after s.world events ∧
    ∃ parts, MadeOf parts (b.calls s.world events) ∧ Effect s step outcome s' parts

theorem hasEffect_silent {s s' : Session σ} {step : Step σ} {outcome : Except Fault Answer}
    (hworld : s'.world = s.world) (hconnections : s'.connections = s.connections) :
    HasEffect b s step outcome [] s' :=
  ⟨hworld, [], rfl, .silent hconnections⟩

theorem opening_eq_ok {s : Session σ} {name : String} {x : Action σ Fault Connection}
    {c : Connection} (hrun : (x s.world).outcome = .ok c) :
    s.opening name x = (.step (.ok .opened) (x s.world).events,
      { s with world := (x s.world).world }.add name c) := by
  rw [opening, hrun]

theorem opening_eq_error {s : Session σ} {name : String} {x : Action σ Fault Connection}
    {fault : Fault} (hrun : (x s.world).outcome = .error fault) :
    s.opening name x = (.step (.error fault) (x s.world).events,
      { s with world := (x s.world).world }) := by
  rw [opening, hrun]

theorem opening_hasEffect {s s' : Session σ} {step : Step σ} {name : String} {d : Draft}
    {driver : Option Handle} {outcome : Except Fault Answer} {events : List Event}
    (hdone : s.opening name (Connection.create b d driver) = (.step outcome events, s')) :
    HasEffect b s step outcome events s' := by
  obtain ⟨hworld, parts, hparts, hcreate⟩ := Connection.create_interacts (b := b) d driver s.world
  cases hrun : (Connection.create b d driver s.world).outcome with
  | ok c =>
    rw [opening_eq_ok hrun] at hdone
    cases hdone
    rw [hrun] at hcreate
    refine ⟨hworld, parts, hparts, ?_⟩
    rcases hcreate with ⟨fault, -, hr, -⟩ | ⟨settings, -, ⟨h, -, hr, rfl⟩ | ⟨-, opened, hopening, hr⟩⟩
    · cases hr
    · cases hr
      exact .handedIn rfl
    · cases opened with
      | error fault => cases hr
      | ok h =>
        cases hr
        exact .opened hopening rfl
  | error fault =>
    rw [opening_eq_error hrun] at hdone
    cases hdone
    rw [hrun] at hcreate
    refine ⟨hworld, parts, hparts, ?_⟩
    rcases hcreate with ⟨fault', -, -, rfl⟩ | ⟨settings, -, ⟨h, -, hr, -⟩ | ⟨-, opened, hopening, hr⟩⟩
    · exact .silent rfl
    · cases hr
    · cases opened with
      | error fault' => exact .unopened hopening rfl
      | ok h => cases hr

theorem act_hasEffect {s s' : Session σ} {slot : Option Nat} {step : Step σ} {place : Nat}
    {request : Request} {x : Connection → Action σ Fault (Answer × Connection)}
    {outcome : Except Fault Answer} {events : List Event} (hasks : step.Asks s place request)
    (hx : ∀ c, (x c).Interacts b fun r parts => ∃ r', request.Effect c r' parts ∧
      r'.map Prod.snd = r.map Prod.snd ∧ (r' = r ∨ step = .clearDefault true))
    (hdone : { s with slot := slot }.act place x = (.step outcome events, s')) :
    HasEffect b s step outcome events s' := by
  rw [act] at hdone
  cases hconnection : s.connections[place]? with
  | none =>
    simp only [hconnection] at hdone
    cases hdone
    exact hasEffect_silent rfl rfl
  | some c =>
    obtain ⟨hworld, parts, hparts, r, hrequest, hsame, houtcome⟩ := hx c s.world
    simp only [hconnection] at hdone
    cases hrun : (x c s.world).outcome with
    | ok pair =>
      obtain ⟨answer, c'⟩ := pair
      simp only [hrun] at hdone
      cases hdone
      rw [hrun] at hsame
      cases r with
      | error fault => cases hsame
      | ok pair =>
        obtain ⟨answer', c''⟩ := pair
        cases hsame
        refine ⟨hworld, parts, hparts, .answered hconnection hasks ?_ hrequest rfl⟩
        refine houtcome.imp_left fun hr => ?_
        rw [hrun] at hr
        cases hr
        rfl
    | error fault =>
      simp only [hrun] at hdone
      cases hdone
      rw [hrun] at hsame
      cases r with
      | ok pair => cases hsame
      | error fault' =>
        cases hsame
        exact ⟨hworld, parts, hparts, .failed hconnection hasks rfl hrequest rfl⟩

theorem answer_hasEffect {s s' : Session σ} {step : Step σ} {place : Nat} {request : Request}
    {outcome : Except Fault Answer} {events : List Event} (hasks : step.Asks s place request)
    (hdone : (s.act place fun c => request.answer b c) = (.step outcome events, s')) :
    HasEffect b s step outcome events s' :=
  act_hasEffect hasks (fun c => (request_interacts c request).mono fun r _ heffect =>
    ⟨r, heffect, rfl, .inl rfl⟩) hdone

theorem clearDefault_hasEffect {s s' : Session σ} {close : Bool} {outcome : Except Fault Answer}
    {events : List Event} (hdone : s.clearDefault b close = (.step outcome events, s')) :
    HasEffect b s (.clearDefault close) outcome events s' := by
  rw [clearDefault] at hdone
  cases hslot : s.slot with
  | none =>
    simp only [hslot] at hdone
    cases hdone
    exact hasEffect_silent rfl rfl
  | some place =>
    cases close with
    | false =>
      simp only [hslot, Bool.false_eq_true, if_false] at hdone
      cases hdone
      exact hasEffect_silent rfl rfl
    | true =>
      simp only [hslot, if_true] at hdone
      refine act_hasEffect (.cleared hslot) (fun c => ?_) hdone
      refine (Connection.close_interacts c).bind_pure ?_ ?_
      · rintro fault parts ⟨huses, -⟩
        exact ⟨.error fault, ⟨huses.mono fun _ hfalse => hfalse.elim, by simp⟩, rfl, .inr rfl⟩
      · rintro c' parts ⟨huses, hclosed⟩
        refine ⟨.ok (.done, c'), ⟨huses.mono fun _ hfalse => hfalse.elim, ?_⟩, rfl, .inr rfl⟩
        rintro _ _ ⟨rfl⟩
        exact .inr (hclosed c' rfl)

theorem askDefault_hasEffect {s s' : Session σ} {step : Step σ} {request : Request}
    {outcome : Except Fault Answer} {events : List Event}
    (hasks : ∀ place, s.slot = some place → step.Asks s place request)
    (hdone : s.askDefault b request = (.step outcome events, s')) :
    HasEffect b s step outcome events s' := by
  rw [askDefault] at hdone
  cases hslot : s.slot with
  | none =>
    simp only [hslot] at hdone
    cases hdone
    exact hasEffect_silent rfl rfl
  | some place =>
    simp only [hslot] at hdone
    exact answer_hasEffect (hasks place hslot) hdone

theorem initDefault_hasEffect {s s' : Session σ} {step : Step σ} {name : Option String}
    {replace : Bool} {outcome : Except Fault Answer} {events : List Event}
    (hdone : s.initDefault name replace = (.step outcome events, s')) :
    HasEffect b s step outcome events s' := by
  cases name with
  | none =>
    rw [initDefault] at hdone
    split at hdone
    · next hregister =>
      cases hdone
      rw [(register_eq_ok hregister).2]
      exact hasEffect_silent rfl rfl
    · cases hdone
      exact hasEffect_silent rfl rfl
  | some name =>
    rw [initDefault] at hdone
    split at hdone
    · cases hdone
      exact hasEffect_silent rfl rfl
    · split at hdone
      · next hregister =>
        cases hdone
        rw [(register_eq_ok hregister).2]
        exact hasEffect_silent rfl rfl
      · cases hdone
        exact hasEffect_silent rfl rfl

/-- What a step that begins at once does is one of the effects that a step can have. -/
theorem perform_hasEffect {s s' : Session σ} {step : Step σ} {outcome : Except Fault Answer}
    {events : List Event} (hnow : ∀ change later, step ≠ .after change later)
    (hdone : s.perform b step = (.step outcome events, s')) :
    HasEffect b s step outcome events s' := by
  cases step with
  | after change later => exact absurd rfl (hnow change later)
  | connect name d driver =>
    rw [perform] at hdone
    exact opening_hasEffect hdone
  | connectFromSettings name d driver =>
    rw [perform] at hdone
    split at hdone
    · cases hdone
      exact hasEffect_silent rfl rfl
    · exact opening_hasEffect hdone
  | connectFromEnvironment name env files path =>
    rw [perform] at hdone
    split at hdone
    · cases hdone
      exact hasEffect_silent rfl rfl
    · exact opening_hasEffect hdone
  | request name request =>
    rw [perform] at hdone
    split at hdone
    · cases hdone
      exact hasEffect_silent rfl rfl
    · next place hplace => exact answer_hasEffect (.named hplace) hdone
  | initDefault name replace =>
    rw [perform] at hdone
    exact initDefault_hasEffect hdone
  | hasDefault =>
    rw [perform] at hdone
    cases hdone
    exact hasEffect_silent rfl rfl
  | getDefault =>
    rw [perform] at hdone
    split at hdone <;> cases hdone <;> exact hasEffect_silent rfl rfl
  | clearDefault close =>
    rw [perform] at hdone
    exact clearDefault_hasEffect hdone
  | defaultDatabaseExists name =>
    rw [perform] at hdone
    exact askDefault_hasEffect (fun _ hslot => .databaseExists hslot) hdone
  | defaultTableExists table database =>
    rw [perform] at hdone
    exact askDefault_hasEffect (fun _ hslot => .tableExists hslot) hdone
  | withDefault name body failure =>
    rw [perform] at hdone
    split at hdone
    · cases hdone
      exact hasEffect_silent rfl rfl
    · split at hdone <;> cases hdone

end Session

theorem Moment.Done.hasEffect {σ : Type} {b : Backend σ} {m : Moment σ} (hm : m.Done b) :
    Session.HasEffect b m.before m.step m.outcome m.events m.after :=
  Session.perform_hasEffect hm.now hm.perform_eq

end SqlBridge
