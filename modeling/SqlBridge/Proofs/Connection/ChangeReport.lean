import SqlBridge.Proofs.Charset.Statement
import SqlBridge.Proofs.Connection.Executions

namespace SqlBridge

open SqlBridge.Action

def Event.isWarning : Event → Bool
  | log .warning _ _ => true
  | _ => false

/-- The warnings that are logged, in order. -/
def warnings (events : List Event) : List Event :=
  events.filter Event.isWarning

namespace Connection

/-- The record of a charset that could not be changed. -/
def charsetWarning (e : Engine) (wanted : String) : Event :=
  .log .warning .connection ("Changing " ++ e.name ++ " connection charset to " ++ wanted ++ " failed")

variable {σ : Type} {b : Backend σ} {c : Connection} {h : Handle} {w : σ} {wanted statement : String}

/-- What becomes of a charset that is sent through the open cursor, with all that can be seen of it.
Whatever goes wrong is logged and answered with no, unless it passes every handler. -/
inductive CharsetAnswer (b : Backend σ) (w : σ) (e : Engine) (h : Handle) (wanted statement : String) :
    Except Fault Bool → List Event → Prop where
  | invalid (hname : isCharsetName wanted = false) :
      CharsetAnswer b w e h wanted statement (.ok false) [charsetWarning e wanted]
  | failed (hname : isCharsetName wanted = true) {failure : Failure}
      (hfailure : b.failure? w (.execute h statement none) = some failure) :
      CharsetAnswer b w e h wanted statement (.ok false)
        [.execute h statement none, charsetWarning e wanted]
  | interrupted {failure : Failure} (hfatal : failure.kind = .fatal)
      (hfailure : b.failure? w (.execute h statement none) = some failure) :
      CharsetAnswer b w e h wanted statement (.error (.problem (.raised failure)))
        [.execute h statement none]
  | accepted (hname : isCharsetName wanted = true)
      (hnone : b.failure? w (.execute h statement none) = none) :
      CharsetAnswer b w e h wanted statement (.ok true) [.execute h statement none]

/-- What becomes of a charset that has to be sent, the cursor for it included. That no cursor opens is
not answered with no: it is raised. So is a failure to close the cursor, whatever became of the charset;
the settings stay then. -/
inductive CharsetReport (b : Backend σ) (w : σ) (c : Connection) (h : Handle)
    (wanted statement : String) : Except Fault (Bool × Connection) → List Event → Prop where
  | refused {failure : Failure} (hfailure : b.failure? w (.cursorOpen h) = some failure) :
      CharsetReport b w c h wanted statement (.error (.problem (.raised failure))) [.cursorOpen h]
  | answered {r : Except Fault Bool} {sent : List Event}
      (hopened : b.failure? w (.cursorOpen h) = none)
      (hanswer : CharsetAnswer b (b.after w [.cursorOpen h]) c.settings.engine h wanted statement r sent)
      (hclosed : b.failure? (b.after (b.after w [.cursorOpen h]) sent) (.cursorClose h) = none) :
      CharsetReport b w c h wanted statement
        (r.map fun changed => (changed,
          if changed then { c with settings := { c.settings with charset := some wanted } } else c))
        (.cursorOpen h :: (sent ++ [.cursorClose h]))
  | unclosed {r : Except Fault Bool} {sent : List Event} {failure : Failure}
      (hopened : b.failure? w (.cursorOpen h) = none)
      (hanswer : CharsetAnswer b (b.after w [.cursorOpen h]) c.settings.engine h wanted statement r sent)
      (hfailure : b.failure? (b.after (b.after w [.cursorOpen h]) sent) (.cursorClose h) = some failure) :
      CharsetReport b w c h wanted statement (.error (.problem (.raised failure)))
        (.cursorOpen h :: (sent ++ [.cursorClose h]))

theorem sendCharset_rescue_endsFrom {e : Engine} (hserver : e ≠ .sqlite)
    (hstatement : e.charsetStatement wanted = some statement) :
    ((sendCharset b e h wanted).rescue fun _ => do
      Action.log .warning .connection ("Changing " ++ e.name ++ " connection charset to " ++ wanted ++
        " failed")
      pure false).EndsFrom b w (CharsetAnswer b w e h wanted statement) := by
  cases hname : isCharsetName wanted with
  | false =>
    rw [sendCharset, Engine.setCharset_of_not_isCharsetName hserver hname]
    exact ⟨rfl, .invalid hname⟩
  | true =>
    have hsent : (sendCharset b e h wanted).EndsFrom b w fun r events =>
        events = [.execute h statement none] ∧
          ((r = .ok true ∧ b.failure? w (.execute h statement none) = none) ∨
            ∃ failure, r = .error (.raised failure) ∧
              b.failure? w (.execute h statement none) = some failure) := by
      rw [sendCharset, Engine.setCharset_of_isCharsetName hserver hname, hstatement]
      have hexecuted : (b.executing h statement .null).EndsFrom b w fun r events =>
          events = [.execute h statement none] ∧
            ((∃ answered, r = .ok answered) ∧ b.failure? w (.execute h statement none) = none ∨
              ∃ failure, r = .error (.raised failure) ∧
                b.failure? w (.execute h statement none) = some failure) :=
        endsFrom_executing rfl (fun answered hnone => ⟨rfl, .inl ⟨⟨answered, rfl⟩, hnone⟩⟩)
          fun failure hfailure => ⟨rfl, .inr ⟨failure, rfl, hfailure⟩⟩
      refine EndsFrom.ofExcept_bind (by simp) ?_
      rintro _ ⟨⟩
      refine EndsFrom.bind hexecuted ?_ ?_
      · rintro p events ⟨rfl, ⟨⟨answered, ⟨⟩⟩, -⟩ | ⟨failure, hraised, hfailure⟩⟩
        exact ⟨rfl, .inr ⟨failure, by rw [Except.error.inj hraised], hfailure⟩⟩
      · rintro answered events ⟨rfl, ⟨-, hnone⟩ | ⟨failure, ⟨⟩, -⟩⟩
        exact endsFrom_pure ⟨rfl, .inl ⟨rfl, hnone⟩⟩
    refine EndsFrom.rescue hsent ?_ ?_ ?_
    · rintro changed events ⟨rfl, ⟨⟨⟩, hnone⟩ | ⟨failure, ⟨⟩, -⟩⟩
      exact .accepted hname hnone
    · rintro p events hfatal ⟨rfl, ⟨⟨⟩, -⟩ | ⟨failure, ⟨⟩, hfailure⟩⟩
      exact .interrupted (by simpa [Problem.isFatal] using hfatal) hfailure
    · rintro p events - ⟨rfl, ⟨⟨⟩, -⟩ | ⟨failure, -, hfailure⟩⟩
      exact EndsFrom.log_bind (endsFrom_pure (.failed hname hfailure))

theorem setCharset_endsFrom (hdriver : c.driver = some h) (hserver : c.settings.engine ≠ .sqlite)
    {current : String} (hcurrent : c.settings.charset = some current)
    (hother : sameCharset current wanted = false)
    (hstatement : c.settings.engine.charsetStatement wanted = some statement) :
    (c.setCharset b (some wanted)).EndsFrom b w (CharsetReport b w c h wanted statement) := by
  simp only [setCharset, if_neg hserver, hcurrent, hother, Bool.false_eq_true, if_false,
    live_eq hdriver]
  refine EndsFrom.ofExcept_bind (by simp) ?_
  rintro _ ⟨⟩
  refine EndsFrom.bind (cursor_endsFrom h) ?_ ?_
  · rintro fault events ⟨rfl, ⟨⟨⟩, -⟩ | ⟨failure, ⟨⟩, hfailure⟩⟩
    exact .refused hfailure
  · rintro _ events ⟨rfl, ⟨-, hnone⟩ | ⟨failure, ⟨⟩, -⟩⟩
    have hsent : (b.withOpenCursor h .problem ((sendCharset b c.settings.engine h wanted).rescue fun _ => do
        Action.log .warning .connection ("Changing " ++ c.settings.engine.name ++
          " connection charset to " ++ wanted ++ " failed")
        pure false)).EndsFrom b (b.after w [.cursorOpen h]) fun r events =>
          CharsetReport b w c h wanted statement (r.map fun changed => (changed,
            if changed then { c with settings := { c.settings with charset := some wanted } } else c))
            (.cursorOpen h :: events) :=
      EndsFrom.withOpenCursor (sendCharset_rescue_endsFrom hserver hstatement)
        (fun r sent hanswer hclosed => .answered hnone hanswer hclosed)
        fun r sent failure hanswer hfailure => .unclosed hnone hanswer hfailure
    refine EndsFrom.bind hsent (fun fault later hreport => hreport) ?_
    intro changed later hreport
    cases changed with
    | true => exact endsFrom_pure (by rwa [List.append_nil])
    | false => exact endsFrom_pure (by rwa [List.append_nil])

/-- Where nothing passes every handler, the charset is taken exactly when it is valid and nothing fails,
and the answer tells so. -/
theorem CharsetAnswer.reports {e : Engine} {r : Except Fault Bool} {events : List Event}
    (hanswer : CharsetAnswer b w e h wanted statement r events)
    (hordinary : ∀ call ∈ b.failures w events, call.2.kind ≠ .fatal) :
    executions events = (if isCharsetName wanted then [⟨h, statement, none⟩] else []) ∧
      if isCharsetName wanted = true ∧ b.failures w events = [] then
        r = .ok true ∧ warnings events = []
      else
        r = .ok false ∧ warnings events = [charsetWarning e wanted] := by
  cases hanswer with
  | invalid hname =>
    refine ⟨by rw [hname]; rfl, ?_⟩
    rw [if_neg (by simp [hname])]
    exact ⟨rfl, rfl⟩
  | @failed hname failure hfailure =>
    have hfailures : b.failures w [.execute h statement none, charsetWarning e wanted] =
        [(.execute h statement none, failure)] := by
      rw [Backend.failures, hfailure]
      rfl
    refine ⟨by rw [hname]; rfl, ?_⟩
    rw [if_neg (by simp [hfailures])]
    exact ⟨rfl, rfl⟩
  | @interrupted failure hfatal hfailure =>
    refine absurd hfatal (hordinary (.execute h statement none, failure) ?_)
    rw [b.failures_singleton, hfailure]
    exact List.mem_singleton_self _
  | accepted hname hnone =>
    have hfailures : b.failures w [.execute h statement none] = [] := by
      rw [b.failures_singleton, hnone]
      rfl
    refine ⟨by rw [hname]; rfl, ?_⟩
    rw [if_pos ⟨hname, hfailures⟩]
    exact ⟨rfl, rfl⟩

/-- The cursor is not closed by sending the charset. -/
theorem CharsetAnswer.unclosing {e : Engine} {r : Except Fault Bool} {events : List Event}
    (hanswer : CharsetAnswer b w e h wanted statement r events) : .cursorClose h ∉ events := by
  cases hanswer <;> simp [charsetWarning]

theorem warnings_withOpenCursor (h : Handle) (events : List Event) :
    warnings (.cursorOpen h :: (events ++ [.cursorClose h])) = warnings events := by
  rw [warnings, List.filter_cons, List.filter_append]
  exact List.append_nil _

theorem CharsetReport.reports {r : Except Fault (Bool × Connection)} {events : List Event}
    (hreport : CharsetReport b w c h wanted statement r events)
    (hordinary : ∀ call ∈ b.failures w events, call.2.kind ≠ .fatal) :
    (∀ failure, b.failure? w (.cursorOpen h) = some failure →
      r = .error (.problem (.raised failure)) ∧ events = [.cursorOpen h]) ∧
    (b.failure? w (.cursorOpen h) = none →
      executions events = (if isCharsetName wanted then [⟨h, statement, none⟩] else []) ∧
      (∀ failure, (.cursorClose h, failure) ∈ b.failures w events →
        r = .error (.problem (.raised failure))) ∧
      ((∀ failure, (.cursorClose h, failure) ∉ b.failures w events) →
        if isCharsetName wanted = true ∧ b.failures w events = [] then
          r = .ok (true, { c with settings := { c.settings with charset := some wanted } }) ∧
            warnings events = []
        else
          r = .ok (false, c) ∧ warnings events = [charsetWarning c.settings.engine wanted])) := by
  cases hreport with
  | refused hfailure =>
    refine ⟨fun failure hsame => ?_, fun hnone => ?_⟩
    · rw [Option.some.inj (hfailure.symm.trans hsame)]
      exact ⟨rfl, rfl⟩
    · rw [hfailure] at hnone
      cases hnone
  | @answered r sent hopened hanswer hclosed =>
    refine ⟨fun failure hfailure => ?_, fun _ => ?_⟩
    · rw [hopened] at hfailure
      cases hfailure
    · have hfailures : b.failures w (.cursorOpen h :: (sent ++ [.cursorClose h])) =
          b.failures (b.after w [.cursorOpen h]) sent := by
        rw [b.failures_withOpenCursor hopened, hclosed]
        exact List.append_nil _
      rw [hfailures] at hordinary
      obtain ⟨hsent, htold⟩ := hanswer.reports hordinary
      rw [hfailures, executions_withOpenCursor, warnings_withOpenCursor]
      refine ⟨hsent, fun failure hmem => absurd (b.mem_of_mem_failures hmem) hanswer.unclosing,
        fun _ => ?_⟩
      split_ifs at htold ⊢
      all_goals
        rw [htold.1]
        exact ⟨rfl, htold.2⟩
  | @unclosed r sent failure hopened hanswer hfailure =>
    have hfailures : b.failures w (.cursorOpen h :: (sent ++ [.cursorClose h])) =
        b.failures (b.after w [.cursorOpen h]) sent ++ [(.cursorClose h, failure)] := by
      rw [b.failures_withOpenCursor hopened, hfailure]
      rfl
    refine ⟨fun failure' hfailure' => ?_, fun _ => ?_⟩
    · rw [hopened] at hfailure'
      cases hfailure'
    · rw [hfailures] at hordinary ⊢
      rw [executions_withOpenCursor]
      refine ⟨(hanswer.reports (List.forall_mem_append.1 hordinary).1).1, fun failure' hmem => ?_,
        fun hclosed => absurd (List.mem_append_right _ (List.mem_singleton_self _)) (hclosed failure)⟩
      rcases List.mem_append.1 hmem with hmem | hmem
      · exact absurd (b.mem_of_mem_failures hmem) hanswer.unclosing
      · obtain ⟨-, rfl⟩ := Prod.mk.inj (List.mem_singleton.1 hmem)
        rfl

/-- A change of the charset reports a failure by its answer, unless the cursor fails: that none opens
is raised before anything is sent, and that it does not close is raised in place of the answer. A
charset that is there already, or a file, needs no change. Any other wish is answered with yes when its
name is valid and the server takes the one statement that is sent for it; then the settings have the new
name. Else it is answered with no and one warning, the settings stay, and an invalid name is not sent. -/
theorem setCharset_reports_failures (b : Backend σ) (hdriver : c.driver = some h) (wanted : String)
    (w : σ) :
    let run := c.setCharset b (some wanted) w
    (∀ call ∈ b.failures w run.events, call.2.kind ≠ .fatal) →
    (c.settings.engine = .sqlite ∨ (∃ current, c.settings.charset = some current ∧
      sameCharset current wanted = true) → run = ⟨.ok (true, c), [], w⟩) ∧
    (c.settings.engine ≠ .sqlite → c.settings.charset = none →
      run = ⟨.error (.problem .lacksOperation), [], w⟩) ∧
    ∀ current, c.settings.engine ≠ .sqlite → c.settings.charset = some current →
      sameCharset current wanted = false →
      ∃ statement, c.settings.engine.charsetStatement wanted = some statement ∧
        run.world = b.after w run.events ∧
        (∀ failure, b.failure? w (.cursorOpen h) = some failure →
          run.outcome = .error (.problem (.raised failure)) ∧ run.events = [.cursorOpen h]) ∧
        (b.failure? w (.cursorOpen h) = none →
          executions run.events = (if isCharsetName wanted then [⟨h, statement, none⟩] else []) ∧
          (∀ failure, (.cursorClose h, failure) ∈ b.failures w run.events →
            run.outcome = .error (.problem (.raised failure))) ∧
          ((∀ failure, (.cursorClose h, failure) ∉ b.failures w run.events) →
            if isCharsetName wanted = true ∧ b.failures w run.events = [] then
              run.outcome =
                .ok (true, { c with settings := { c.settings with charset := some wanted } }) ∧
                warnings run.events = []
            else
              run.outcome = .ok (false, c) ∧
                warnings run.events = [charsetWarning c.settings.engine wanted])) := by
  intro run hordinary
  refine ⟨?_, ?_, ?_⟩
  · intro hneedless
    by_cases hfile : c.settings.engine = .sqlite
    · simp only [run, setCharset, if_pos hfile]
      rfl
    · obtain ⟨current, hcurrent, hsame⟩ := hneedless.resolve_left hfile
      simp only [run, setCharset, if_neg hfile, hcurrent, hsame, if_true]
      rfl
  · intro hserver hcurrent
    simp only [run, setCharset, if_neg hserver, hcurrent]
    rfl
  · intro current hserver hcurrent hother
    obtain ⟨statement, hstatement⟩ := Engine.exists_charsetStatement hserver wanted
    obtain ⟨hworld, hreport⟩ :=
      setCharset_endsFrom (b := b) (w := w) hdriver hserver hcurrent hother hstatement
    exact ⟨statement, hstatement, hworld, CharsetReport.reports hreport hordinary⟩

theorem setCharset_reports_failures_of_unknown_charset :
    let b := Backend.refusing ["set client_encoding to klingon"]
    let c : Connection := ⟨{ engine := .pgsql, dbname := "app" }, some ⟨0⟩⟩
    let same := c.setCharset b (some "utf8") 0
    let refused := c.setCharset b (some "klingon") 0
    let invalid := c.setCharset b (some "latin1; x") 0
    c.driver = some ⟨0⟩ ∧ same = ⟨.ok (true, c), [], 0⟩ ∧
      (∀ call ∈ b.failures 0 refused.events, call.2.kind ≠ .fatal) ∧ refused.outcome = .ok (false, c) ∧
      executions refused.events = [⟨⟨0⟩, "set client_encoding to klingon", none⟩] ∧
      warnings refused.events =
        [.log .warning .connection "Changing pgsql connection charset to klingon failed"] ∧
      invalid.outcome = .ok (false, c) ∧ executions invalid.events = [] := by
  intro b c same refused invalid
  have hdriver : c.driver = some ⟨0⟩ := rfl
  have hserver : c.settings.engine ≠ .sqlite := by decide
  have hordinary : ∀ call ∈ b.failures 0 refused.events, call.2.kind ≠ .fatal := by decide +kernel
  have hclosed (failure : Failure) : (.cursorClose ⟨0⟩, failure) ∉ b.failures 0 refused.events := by
    have hraised : b.failures 0 refused.events =
      [(.execute ⟨0⟩ "set client_encoding to klingon" none, ⟨.driver, "refused"⟩)] := rfl
    simp [hraised]
  have hclosed' (failure : Failure) : (.cursorClose ⟨0⟩, failure) ∉ b.failures 0 invalid.events := by
    have hraised : b.failures 0 invalid.events = [] := rfl
    simp [hraised]
  obtain ⟨hsame, -, -⟩ := setCharset_reports_failures b hdriver "utf8" 0 (by decide +kernel)
  obtain ⟨-, -, hrefused⟩ := setCharset_reports_failures b hdriver "klingon" 0 hordinary
  obtain ⟨-, -, hinvalid⟩ := setCharset_reports_failures b hdriver "latin1; x" 0 (by decide +kernel)
  obtain ⟨_, ⟨⟩, -, -, hrefused⟩ := hrefused "UTF8" hserver rfl (by decide +kernel)
  obtain ⟨_, ⟨⟩, -, -, hinvalid⟩ := hinvalid "UTF8" hserver rfl (by decide +kernel)
  obtain ⟨hsent, -, hrefused⟩ := hrefused rfl
  obtain ⟨hunsent, -, hinvalid⟩ := hinvalid rfl
  have hrefused := hrefused hclosed
  have hinvalid := hinvalid hclosed'
  rw [if_neg (by decide +kernel)] at hrefused hinvalid
  rw [if_pos (by decide +kernel)] at hsent
  rw [if_neg (by decide +kernel)] at hunsent
  exact ⟨hdriver, hsame (.inr ⟨"UTF8", rfl, by decide +kernel⟩), hordinary, hrefused.1, hsent,
    hrefused.2, hinvalid.1, hunsent⟩

theorem setCharset_raises_without_cursor :
    let failure : Failure := ⟨.driver, "no cursor left"⟩
    let b := { Backend.refusing [] with openCursor := fun _ n => (.error failure, n) }
    let c : Connection := ⟨{ engine := .pgsql, dbname := "app" }, some ⟨0⟩⟩
    let run := c.setCharset b (some "latin1") 0
    (∀ call ∈ b.failures 0 run.events, call.2.kind ≠ .fatal) ∧
      run.outcome = .error (.problem (.raised failure)) ∧ warnings run.events = [] := by
  intro failure b c run
  have hrun : run = ⟨.error (.problem (.raised failure)), [.cursorOpen ⟨0⟩], 0⟩ := by
    rfl
  rw [hrun]
  exact ⟨by decide, rfl, rfl⟩

end Connection

end SqlBridge
