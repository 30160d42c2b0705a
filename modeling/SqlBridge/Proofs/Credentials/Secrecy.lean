import SqlBridge.Proofs.Credentials.Requests
import SqlBridge.Proofs.Driver.Interaction
import SqlBridge.Proofs.Session.Path

namespace SqlBridge

mutual
/-- What came of a step, as far as it may tell of credentials. -/
def Entry.redacted : Entry → Entry
  | .step outcome events => .step (outcome.map Answer.redacted) (events.map Event.redacted)
  | .block entries entered raised => .block (Entry.allRedacted entries) entered raised

def Entry.allRedacted : List Entry → List Entry
  | [] => []
  | entry :: entries => entry.redacted :: Entry.allRedacted entries
end

mutual
theorem Entry.results_redacted (entry : Entry) :
    entry.redacted.results =
      entry.results.map (Prod.map (Except.map Answer.redacted) (List.map Event.redacted)) := by
  cases entry with
  | step outcome events => rfl
  | block entries entered raised =>
    rw [redacted, results, results]
    exact Entry.allResults_redacted entries

theorem Entry.allResults_redacted (entries : List Entry) :
    Entry.allResults (Entry.allRedacted entries) =
      (Entry.allResults entries).map
        (Prod.map (Except.map Answer.redacted) (List.map Event.redacted)) := by
  cases entries with
  | nil => rfl
  | cons entry entries =>
    rw [allRedacted, allResults, allResults, List.map_append, Entry.results_redacted entry,
      Entry.allResults_redacted entries]
end

/-- The log records of every step. -/
def Entry.logs (entries : List Entry) : List (List Event) :=
  (Entry.allResults entries).map fun result => result.2.filter Event.isLog

theorem filter_isLog_redacted (events : List Event) :
    (events.map Event.redacted).filter Event.isLog = events.filter Event.isLog := by
  induction events with
  | nil => rfl
  | cons event events ih =>
    cases event with
    | log level logger message => exact congrArg (List.cons _) ih
    | _ => exact ih

theorem Entry.logs_redacted (entries : List Entry) :
    Entry.logs (Entry.allRedacted entries) = Entry.logs entries := by
  rw [logs, logs, Entry.allResults_redacted, List.map_map]
  refine List.map_congr_left fun result _ => ?_
  exact filter_isLog_redacted result.2

namespace Action

variable {σ ε α β : Type}

theorem redacted_map_apply (f : α → β) (x : Action σ ε α) (w : σ) :
    (f <$> x).redacted w =
      ⟨(x w).outcome.map f, (x w).events.map Event.redacted, (x w).world⟩ := by
  simp only [redacted, map_eq_pure_bind, bind_apply, andThen, pure_apply]
  rcases x w with ⟨_ | a, events, w'⟩ <;> simp [Except.map]

end Action

namespace Session

variable {σ : Type} {b : Backend σ}

def redacted (s : Session σ) : Session σ :=
  { s with connections := s.connections.map Connection.redacted }

theorem redacted_add (s : Session σ) (name : String) (c : Connection) :
    (s.add name c).redacted = s.redacted.add name c.redacted := by
  simp [add, redacted]

theorem redacted_register (s : Session σ) (place : Option Nat) (replace : Bool) :
    s.redacted.register place replace = (s.register place replace).map redacted := by
  have hslot : s.redacted.slot = s.slot := rfl
  rw [register, register, hslot]
  split_ifs <;> rfl

/-- What came of a step and the session after it, without credentials. -/
def redactedResult (result : Entry × Session σ) : Entry × Session σ :=
  (result.1.redacted, result.2.redacted)

theorem opening_redacted (s : Session σ) (name : String) (x : Action σ Fault Connection) :
    redactedResult (s.opening name x) =
      s.redacted.opening name (Connection.redacted <$> x).redacted := by
  have hworld : s.redacted.world = s.world := rfl
  rw [opening, opening, Action.redacted_map_apply, hworld]
  rcases x s.world with ⟨_ | c, events, w⟩
  · rfl
  · change (_, Session.redacted (Session.add _ name c)) = _
    rw [redacted_add]
    rfl

theorem create_alike (hblind : b.Blind) {s₁ s₂ : Session σ} {d₁ d₂ : Draft} (name : String)
    (driver : Option Handle) (hs : s₁.redacted = s₂.redacted) (hd : d₁.redacted = d₂.redacted) :
    redactedResult (s₁.opening name (Connection.create b d₁ driver)) =
      redactedResult (s₂.opening name (Connection.create b d₂ driver)) := by
  rw [opening_redacted, opening_redacted, Connection.create_redacted hblind,
    Connection.create_redacted hblind, hs, hd]

theorem act_redacted (s : Session σ) (place : Nat)
    {x : Connection → Action σ Fault (Answer × Connection)}
    (hx : ∀ c, (Prod.map Answer.redacted Connection.redacted <$> x c).redacted = x c.redacted) :
    redactedResult (s.act place x) = s.redacted.act place x := by
  have hconnection : s.redacted.connections[place]? =
      s.connections[place]?.map Connection.redacted := List.getElem?_map ..
  have hworld : s.redacted.world = s.world := rfl
  rw [act, act, hconnection, hworld]
  cases s.connections[place]? with
  | none => rfl
  | some c =>
    rw [Option.map_some]
    dsimp only
    rw [← hx c, Action.redacted_map_apply]
    rcases x c s.world with ⟨fault | ⟨answer, c'⟩, events, w⟩
    · rfl
    · simp [redactedResult, redacted, Entry.redacted, Except.map, List.map_set]

theorem answer_redacted (s : Session σ) (place : Nat) (request : Request) :
    redactedResult (s.act place fun c => request.answer b c) =
      s.redacted.act place fun c => request.answer b c :=
  act_redacted s place fun c => Request.answer_redacted c request

theorem clearDefault_redacted (s : Session σ) (close : Bool) :
    redactedResult (s.clearDefault b close) = s.redacted.clearDefault b close := by
  have hslot : s.redacted.slot = s.slot := rfl
  rw [clearDefault, clearDefault, hslot]
  cases s.slot with
  | none => rfl
  | some place =>
    cases close with
    | false => rfl
    | true =>
      refine act_redacted { s with slot := none } place fun c => ?_
      rw [← Connection.close_redacted]
      simp [Answer.redacted]

theorem askDefault_redacted (s : Session σ) (request : Request) :
    redactedResult (s.askDefault b request) = s.redacted.askDefault b request := by
  have hslot : s.redacted.slot = s.slot := rfl
  rw [askDefault, askDefault, hslot]
  cases s.slot with
  | none => rfl
  | some place => exact answer_redacted s place request

theorem initDefault_redacted (s : Session σ) (name : Option String) (replace : Bool) :
    redactedResult (s.initDefault name replace) = s.redacted.initDefault name replace := by
  cases name with
  | none =>
    rw [initDefault, initDefault, redacted_register]
    cases s.register none replace <;> rfl
  | some name =>
    have hplace : s.redacted.place? name = s.place? name := rfl
    rw [initDefault, initDefault, hplace]
    cases s.place? name with
    | none => rfl
    | some place =>
      dsimp only
      rw [redacted_register]
      cases s.register (some place) replace <;> rfl

end Session

/-! ## Steps that differ in credentials -/

/-- Settings that were loaded in two ways are alike, or loading failed in the same way. -/
inductive Settings.LoadsAlike : Except Problem Settings → Except Problem Settings → Prop where
  | loaded {s₁ s₂ : Settings} (hsettings : s₁.Alike s₂) : LoadsAlike (.ok s₁) (.ok s₂)
  | failed (p : Problem) : LoadsAlike (.error p) (.error p)

theorem Settings.LoadsAlike.refl (loaded : Except Problem Settings) : LoadsAlike loaded loaded := by
  cases loaded with
  | error p => exact .failed p
  | ok s => exact .loaded (SettingsOf.alike_iff_redacted_eq.2 rfl)

mutual
/-- The steps differ in the credentials with which connections are opened, and in nothing else. -/
inductive Step.Alike {σ : Type} : Step σ → Step σ → Prop where
  | same {step : Step σ} (hsimple : step.isSimple = true) : Step.Alike step step
  | after {step₁ step₂ : Step σ} (change : σ → σ) (hstep : Step.Alike step₁ step₂) :
      Step.Alike (.after change step₁) (.after change step₂)
  | connect {d₁ d₂ : Draft} (name : String) (driver : Option Handle) (hdraft : d₁.Alike d₂) :
      Step.Alike (.connect name d₁ driver) (.connect name d₂ driver)
  | connectFromSettings {d₁ d₂ : Draft} (name : String) (driver : Option Handle)
      (hdraft : d₁.Alike d₂) :
      Step.Alike (.connectFromSettings name d₁ driver) (.connectFromSettings name d₂ driver)
  | connectFromEnvironment {env₁ env₂ : Environment} {files₁ files₂ : Files} {path₁ path₂ : String}
      (name : String) (hload : Settings.LoadsAlike (env₁.loadSettings files₁ path₁).1
        (env₂.loadSettings files₂ path₂).1) :
      Step.Alike (.connectFromEnvironment name env₁ files₁ path₁)
        (.connectFromEnvironment name env₂ files₂ path₂)
  | withDefault {body₁ body₂ : List (Step σ)} (name : String) (failure : Option Failure)
      (hbody : Step.AllAlike body₁ body₂) :
      Step.Alike (.withDefault name body₁ failure) (.withDefault name body₂ failure)

inductive Step.AllAlike {σ : Type} : List (Step σ) → List (Step σ) → Prop where
  | nil : Step.AllAlike [] []
  | cons {step₁ step₂ : Step σ} {steps₁ steps₂ : List (Step σ)} (hstep : Step.Alike step₁ step₂)
      (hsteps : Step.AllAlike steps₁ steps₂) :
      Step.AllAlike (step₁ :: steps₁) (step₂ :: steps₂)
end

namespace Session

variable {σ : Type} {b : Backend σ}

theorem connectFromSettings_alike (hblind : b.Blind) {s₁ s₂ : Session σ} {d₁ d₂ : Draft}
    (name : String) (driver : Option Handle) (hs : s₁.redacted = s₂.redacted)
    (hd : d₁.redacted = d₂.redacted) :
    redactedResult (s₁.perform b (.connectFromSettings name d₁ driver)) =
      redactedResult (s₂.perform b (.connectFromSettings name d₂ driver)) := by
  have hengine : d₁.engine = d₂.engine := (congrArg (fun d : Draft => d.engine) hd :)
  rw [perform, perform, hengine]
  cases Engine.parse d₂.engine with
  | error p => exact congrArg (Prod.mk _) hs
  | ok e =>
    refine create_alike hblind name driver hs ?_
    rw [← SettingsOf.redacted_withEngine, hd, SettingsOf.redacted_withEngine]

theorem connectFromEnvironment_alike (hblind : b.Blind) {s₁ s₂ : Session σ}
    {env₁ env₂ : Environment} {files₁ files₂ : Files} {path₁ path₂ : String} (name : String)
    (hs : s₁.redacted = s₂.redacted)
    (hload : Settings.LoadsAlike (env₁.loadSettings files₁ path₁).1
      (env₂.loadSettings files₂ path₂).1) :
    redactedResult (s₁.perform b (.connectFromEnvironment name env₁ files₁ path₁)) =
      redactedResult (s₂.perform b (.connectFromEnvironment name env₂ files₂ path₂)) := by
  rw [perform, perform]
  generalize (env₁.loadSettings files₁ path₁).1 = loaded₁ at hload ⊢
  generalize (env₂.loadSettings files₂ path₂).1 = loaded₂ at hload ⊢
  cases hload with
  | loaded hsettings =>
    refine create_alike hblind name none hs ?_
    exact congrArg Settings.draft (SettingsOf.alike_iff_redacted_eq.1 hsettings)
  | failed p => exact congrArg (Prod.mk _) hs

theorem perform_alike_of_isSimple (hblind : b.Blind) {s₁ s₂ : Session σ} {step : Step σ}
    (hsimple : step.isSimple = true) (hs : s₁.redacted = s₂.redacted) :
    redactedResult (s₁.perform b step) = redactedResult (s₂.perform b step) := by
  -- A step that opens no connection can be done without the credentials in the session.
  have hredacted (hstep : ∀ s : Session σ,
      redactedResult (s.perform b step) = s.redacted.perform b step) :
      redactedResult (s₁.perform b step) = redactedResult (s₂.perform b step) := by
    rw [hstep, hstep, hs]
  cases step with
  | after change later => cases hsimple
  | withDefault name body failure => cases hsimple
  | connect name d driver =>
    rw [perform, perform]
    exact create_alike hblind name driver hs rfl
  | connectFromSettings name d driver => exact connectFromSettings_alike hblind name driver hs rfl
  | connectFromEnvironment name env files path =>
    exact connectFromEnvironment_alike hblind name hs (.refl _)
  | request name request =>
    refine hredacted fun s => ?_
    have hplace : s.redacted.place? name = s.place? name := rfl
    rw [perform, perform, hplace]
    cases s.place? name with
    | none => rfl
    | some place => exact answer_redacted s place request
  | initDefault name replace =>
    refine hredacted fun s => ?_
    rw [perform, perform]
    exact initDefault_redacted s name replace
  | hasDefault =>
    refine hredacted fun s => ?_
    rw [perform, perform]
    rfl
  | getDefault =>
    refine hredacted fun s => ?_
    have hdefault : s.redacted.getDefault = s.getDefault := rfl
    rw [perform, perform, hdefault]
    cases s.getDefault <;> rfl
  | clearDefault close =>
    refine hredacted fun s => ?_
    rw [perform, perform]
    exact clearDefault_redacted s close
  | defaultDatabaseExists name =>
    refine hredacted fun s => ?_
    rw [perform, perform]
    exact askDefault_redacted s _
  | defaultTableExists table database =>
    refine hredacted fun s => ?_
    rw [perform, perform]
    exact askDefault_redacted s _

mutual
theorem perform_alike (hblind : b.Blind) {s₁ s₂ : Session σ} {step₁ step₂ : Step σ}
    (hstep : Step.Alike step₁ step₂) (hs : s₁.redacted = s₂.redacted) :
    redactedResult (s₁.perform b step₁) = redactedResult (s₂.perform b step₂) := by
  cases hstep with
  | same hsimple => exact perform_alike_of_isSimple hblind hsimple hs
  | after change hstep =>
    rw [perform, perform]
    exact perform_alike hblind hstep
      (congrArg (fun s : Session σ => { s with world := change s.world }) hs)
  | connect name driver hdraft =>
    rw [perform, perform]
    exact create_alike hblind name driver hs (SettingsOf.alike_iff_redacted_eq.1 hdraft)
  | connectFromSettings name driver hdraft =>
    exact connectFromSettings_alike hblind name driver hs (SettingsOf.alike_iff_redacted_eq.1 hdraft)
  | connectFromEnvironment name hload => exact connectFromEnvironment_alike hblind name hs hload
  | @withDefault body₁ body₂ name failure hbody =>
    have hplace : s₁.place? name = s₂.place? name :=
      (congrArg (fun s : Session σ => s.place? name) hs :)
    have hslot : s₁.slot = s₂.slot := (congrArg (fun s : Session σ => s.slot) hs :)
    rw [perform, perform, hplace]
    cases s₂.place? name with
    | none => exact congrArg (Prod.mk _) hs
    | some place =>
      dsimp only
      rw [register, register, hslot]
      split_ifs
      · exact congrArg (Prod.mk _) hs
      · have hinside : Session.redacted { s₁ with slot := some place } =
            Session.redacted { s₂ with slot := some place } :=
          congrArg (fun s : Session σ => { s with slot := some place }) hs
        have hname := congrArg (fun s : Session σ => s.nameOf? place) hs
        obtain ⟨hentries, hafter⟩ := performAll_alike hblind hbody hinside
        refine Prod.ext ?_ (congrArg (fun s : Session σ => { s with slot := none }) hafter)
        change Entry.block (Entry.allRedacted _) _ _ = Entry.block (Entry.allRedacted _) _ _
        rw [hentries]
        exact congrArg (fun entered => Entry.block _ entered _) hname

theorem performAll_alike (hblind : b.Blind) {s₁ s₂ : Session σ} {steps₁ steps₂ : List (Step σ)}
    (hsteps : Step.AllAlike steps₁ steps₂) (hs : s₁.redacted = s₂.redacted) :
    Entry.allRedacted (s₁.performAll b steps₁).1 = Entry.allRedacted (s₂.performAll b steps₂).1 ∧
      (s₁.performAll b steps₁).2.redacted = (s₂.performAll b steps₂).2.redacted := by
  cases hsteps with
  | nil => exact ⟨rfl, hs⟩
  | @cons step₁ step₂ steps₁ steps₂ hstep hsteps =>
    have hfirst := perform_alike hblind hstep hs
    obtain ⟨hentries, hafter⟩ := performAll_alike hblind hsteps (congrArg Prod.snd hfirst)
    refine ⟨?_, hafter⟩
    rw [performAll, performAll]
    exact congrArg₂ List.cons (congrArg Prod.fst hfirst) hentries
end

/-- User names and passwords are kept to the connect calls. When two runs differ in them alone, where
neither is empty in one run and not in the other, and the packages answer alike, then every step has
the same outcome and leaves the same log records, and what can be seen of it differs in the user and
password keywords of connect calls at most; an answer that is the state of a connection differs in
the credentials of its settings. No connection tells them by its data source name, by what an error
may tell of it or in a line, and settings in a line do not depend on the password. -/
theorem performAll_conceals_credentials (hblind : b.Blind) {s₁ s₂ : Session σ}
    {steps₁ steps₂ : List (Step σ)} (hs : s₁.redacted = s₂.redacted)
    (hsteps : Step.AllAlike steps₁ steps₂) :
    Entry.allRedacted (s₁.performAll b steps₁).1 = Entry.allRedacted (s₂.performAll b steps₂).1 ∧
    Entry.logs (s₁.performAll b steps₁).1 = Entry.logs (s₂.performAll b steps₂).1 ∧
    (s₁.performAll b steps₁).2.redacted = (s₂.performAll b steps₂).2.redacted ∧
    (∀ (place : Nat) (c₁ c₂ : Connection), (s₁.performAll b steps₁).2.connections[place]? = some c₁ →
      (s₂.performAll b steps₂).2.connections[place]? = some c₂ →
        c₁.dsn = c₂.dsn ∧ c₁.info = c₂.info ∧ c₁.summary = c₂.summary) ∧
    ∀ (d : Draft) (password : String), Draft.summary { d with password := password } = d.summary := by
  obtain ⟨hentries, hafter⟩ := performAll_alike hblind hsteps hs
  refine ⟨hentries, ?_, hafter, ?_, fun _ _ => rfl⟩
  · rw [← Entry.logs_redacted, hentries, Entry.logs_redacted]
  · intro place c₁ c₂ hc₁ hc₂
    have hredacted : c₁.redacted = c₂.redacted := by
      have hconnections := congrArg (fun s : Session σ => s.connections[place]?) hafter
      simpa [redacted, hc₁, hc₂] using hconnections
    refine ⟨?_, ?_, ?_⟩
    · rw [← c₁.redacted_dsn, hredacted, c₂.redacted_dsn]
    · rw [← c₁.redacted_info, hredacted, c₂.redacted_info]
    · rw [← c₁.redacted_summary, hredacted, c₂.redacted_summary]

theorem performAll_conceals_credentials_of_failure :
    let b := Backend.refusing ["DROP TABLE t"]
    let steps (username password : String) : List (Step Nat) :=
      [.connect "c" (Draft.server .pgsql "db" "shop" username password) none,
        .request "c" (.execute "DROP TABLE t" .null []), .request "c" .state]
    let run₁ := (start 0).performAll b (steps "ada" "secret")
    let run₂ := (start 0).performAll b (steps "bob" "hunter2")
    Entry.allRedacted run₁.1 = Entry.allRedacted run₂.1 ∧ Entry.logs run₁.1 = Entry.logs run₂.1 ∧
      run₁.2.connections.map Connection.summary = ["Connection(pgsql:host=db;dbname=shop;port=5432)"] := by
  intro b steps run₁ run₂
  have hblind : b.Blind := fun _ _ _ _ _ => rfl
  have hdraft : (Draft.server .pgsql "db" "shop" "ada" "secret").Alike
      (Draft.server .pgsql "db" "shop" "bob" "hunter2") := ⟨by decide, by decide, rfl⟩
  have hsteps : Step.AllAlike (steps "ada" "secret") (steps "bob" "hunter2") :=
    .cons (.connect "c" none hdraft) (.cons (.same rfl) (.cons (.same rfl) .nil))
  obtain ⟨hentries, hlogs, -⟩ := performAll_conceals_credentials hblind rfl hsteps
  exact ⟨hentries, hlogs, by decide +kernel⟩

end Session

end SqlBridge
