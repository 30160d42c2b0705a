import SqlBridge.Proofs.Charset.Statement
import SqlBridge.Proofs.Connection.Statements

namespace SqlBridge

open SqlBridge.Action

namespace Connection

variable {σ : Type} {b : Backend σ} {c : Connection}

/-- What is done with the cursor that is opened for a charset: nothing, when the name is none, or the
statement for it. -/
inductive CharsetWork (e : Engine) (wanted : String) : CursorWork → Prop where
  | nothing : CharsetWork e wanted .nothing
  | executed {statement : String} (hstatement : e.charsetStatement wanted = some statement)
      (reply : Reply) : CharsetWork e wanted (.executed statement none reply)

/-- Everything that a wish for a charset can come to: its outcome, and what was done with the driver.
Only in the last case is the charset of the connection another one. -/
inductive CharsetChange (c : Connection) (charset : Option String) :
    Except Fault (Bool × Connection) → List Interaction → Prop where
  | unneeded (hsame : c.settings.engine = .sqlite ∨ ∃ current wanted,
        c.settings.charset = some current ∧ charset = some wanted ∧
          sameCharset current wanted = true) :
      CharsetChange c charset (.ok (true, c)) []
  | untyped (habsent : c.settings.charset = none ∨ charset = none) :
      CharsetChange c charset (.error (.problem .lacksOperation)) []
  | closed (hdriver : c.driver = none) :
      CharsetChange c charset (.error (failed c.info "Connection is closed" none)) []
  | refused {h : Handle} (hdriver : c.driver = some h) (failure : Failure) :
      CharsetChange c charset (.error (.problem (.raised failure))) [.refusal h]
  | invalid {h : Handle} {wanted : String} (hdriver : c.driver = some h)
      (hcharset : charset = some wanted) (hname : isCharsetName wanted = false) :
      CharsetChange c charset (.ok (false, c)) [.cursor h .nothing .returned]
  | failed {h : Handle} {wanted statement : String} (hdriver : c.driver = some h)
      (hcharset : charset = some wanted)
      (hstatement : c.settings.engine.charsetStatement wanted = some statement) :
      CharsetChange c charset (.ok (false, c)) [.cursor h (.executed statement none .raised) .returned]
  | interrupted {h : Handle} {wanted statement : String} (hdriver : c.driver = some h)
      (hcharset : charset = some wanted)
      (hstatement : c.settings.engine.charsetStatement wanted = some statement)
      (failure : Failure) :
      CharsetChange c charset (.error (.problem (.raised failure)))
        [.cursor h (.executed statement none .raised) .returned]
  | unclosed {h : Handle} {wanted : String} {work : CursorWork} (hdriver : c.driver = some h)
      (hcharset : charset = some wanted) (hwork : CharsetWork c.settings.engine wanted work)
      (failure : Failure) :
      CharsetChange c charset (.error (.problem (.raised failure))) [.cursor h work .raised]
  | changed {h : Handle} {current wanted statement : String} (hdriver : c.driver = some h)
      (hcurrent : c.settings.charset = some current) (hcharset : charset = some wanted)
      (hother : sameCharset current wanted = false) (hname : isCharsetName wanted = true)
      (hstatement : c.settings.engine.charsetStatement wanted = some statement) :
      CharsetChange c charset
        (.ok (true, { c with settings := { c.settings with charset := some wanted } }))
        [.cursor h (.executed statement none .returned) .returned]

theorem CharsetChange.uses {charset : Option String}
    {r : Except Fault (Bool × Connection)} {parts : List Interaction}
    (hchange : c.CharsetChange charset r parts) : c.Uses (fun _ => True) parts := by
  cases hchange with
  | unneeded => exact uses_nil
  | untyped => exact uses_nil
  | closed => exact uses_nil
  | refused hdriver => exact uses_refusal hdriver
  | invalid hdriver => exact uses_cursor hdriver fun _ _ => trivial
  | failed hdriver => exact uses_cursor hdriver fun _ _ => trivial
  | interrupted hdriver => exact uses_cursor hdriver fun _ _ => trivial
  | unclosed hdriver => exact uses_cursor hdriver fun _ _ => trivial
  | changed hdriver => exact uses_cursor hdriver fun _ _ => trivial

theorem ends_sendCharset {e : Engine} (hserver : e ≠ .sqlite) (h : Handle) (wanted : String) :
    (sendCharset b e h wanted).Ends b fun r calls =>
      (r = .error (.invalidCharset (.text wanted)) ∧ isCharsetName wanted = false ∧ calls = []) ∨
      ∃ statement, isCharsetName wanted = true ∧ e.charsetStatement wanted = some statement ∧
        ((r = .ok true ∧ calls = [⟨.execute h statement none, .returned⟩]) ∨
          ∃ failure, r = .error (.raised failure) ∧
            calls = [⟨.execute h statement none, .raised⟩]) := by
  cases hname : isCharsetName wanted with
  | false =>
    rw [sendCharset, Engine.setCharset_of_not_isCharsetName hserver hname]
    exact ends_fail (.inl ⟨rfl, rfl, rfl⟩)
  | true =>
    obtain ⟨statement, hstatement⟩ := Engine.exists_charsetStatement hserver wanted
    rw [sendCharset, Engine.setCharset_of_isCharsetName hserver hname, hstatement]
    have hsent : (b.executing h statement .null).Ends b fun r calls =>
        (∃ answered, r = .ok answered ∧ calls = [⟨.execute h statement none, .returned⟩]) ∨
          ∃ failure, r = .error (.raised failure) ∧
            calls = [⟨.execute h statement none, .raised⟩] :=
      ends_executing (fun answered => .inl ⟨answered, rfl, rfl⟩)
        fun failure => .inr ⟨failure, rfl, rfl⟩
    change ((b.executing h statement .null) >>= fun _ => pure true).Ends b _
    refine Ends.bind hsent ?_ ?_
    · rintro e calls (⟨answered, hok, -⟩ | ⟨failure, hraised, rfl⟩)
      · cases hok
      · cases hraised
        exact .inr ⟨statement, rfl, rfl, .inr ⟨failure, rfl, rfl⟩⟩
    · rintro answered calls (⟨_, -, rfl⟩ | ⟨failure, hraised, -⟩)
      · exact ends_pure (.inr ⟨statement, rfl, rfl, .inl ⟨rfl, rfl⟩⟩)
      · cases hraised

/-- The cursor of a change of charset, when `handler` turns every ordinary problem into a no. -/
theorem charsetCursor_interacts {e : Engine} {h : Handle} {wanted : String}
    {handler : Problem → Action σ Fault Bool} (hserver : e ≠ .sqlite)
    (hhandler : ∀ p, (handler p).Ends b fun r calls => r = .ok false ∧ driverCalls calls = []) :
    ((liftM (b.cursor h) : Action σ Fault Unit) >>= fun _ =>
        b.withOpenCursor h .problem ((sendCharset b e h wanted).rescue handler)).Interacts b fun r parts =>
      (∃ failure, r = .error (.problem (.raised failure)) ∧
        (parts = [.refusal h] ∨ ∃ work, CharsetWork e wanted work ∧ parts = [.cursor h work .raised])) ∨
      (r = .ok false ∧ isCharsetName wanted = false ∧ parts = [.cursor h .nothing .returned]) ∨
      ∃ statement, isCharsetName wanted = true ∧ e.charsetStatement wanted = some statement ∧
        ((r = .ok true ∧ parts = [.cursor h (.executed statement none .returned) .returned]) ∨
          (r = .ok false ∨ ∃ failure, r = .error (.problem (.raised failure))) ∧
            parts = [.cursor h (.executed statement none .raised) .returned]) := by
  refine interacts_cursor Fault.problem rfl (fun failure => .inl ⟨failure, rfl, .inl rfl⟩) ?_
  have hends : ((sendCharset b e h wanted).rescue handler).Ends b fun r calls => ∃ work,
      driverCalls calls = work.calls h ∧ CharsetWork e wanted work ∧
        ((r = .ok false ∧ isCharsetName wanted = false ∧ work = .nothing) ∨
          ∃ statement, isCharsetName wanted = true ∧ e.charsetStatement wanted = some statement ∧
            ((r = .ok true ∧ work = .executed statement none .returned) ∨
              (r = .ok false ∨ ∃ failure, r = .error (.problem (.raised failure))) ∧
                work = .executed statement none .raised)) := by
    refine Ends.rescue (ends_sendCharset hserver h wanted) ?_ ?_ ?_
    · rintro changed calls (⟨hr, -⟩ | ⟨statement, hname, hstatement, ⟨hr, rfl⟩ | ⟨failure, hr, -⟩⟩)
      · cases hr
      · cases hr
        exact ⟨.executed statement none .returned, rfl, .executed hstatement _,
          .inr ⟨statement, hname, hstatement, .inl ⟨rfl, rfl⟩⟩⟩
      · cases hr
    · rintro p calls hfatal (⟨hr, -⟩ | ⟨statement, hname, hstatement, ⟨hr, -⟩ | ⟨failure, hr, rfl⟩⟩)
      · cases hr
        cases hfatal
      · cases hr
      · cases hr
        exact ⟨.executed statement none .raised, rfl, .executed hstatement _,
          .inr ⟨statement, hname, hstatement, .inr ⟨.inr ⟨failure, rfl⟩, rfl⟩⟩⟩
    · rintro p calls hordinary hsent
      refine Ends.mono (hhandler p) ?_
      rintro r later ⟨rfl, hsilent⟩
      rw [driverCalls_append, hsilent, List.append_nil]
      rcases hsent with ⟨-, hname, rfl⟩ | ⟨statement, hname, hstatement, ⟨hr, -⟩ | ⟨failure, -, rfl⟩⟩
      · exact ⟨.nothing, rfl, .nothing, .inl ⟨rfl, hname, rfl⟩⟩
      · cases hr
      · exact ⟨.executed statement none .raised, rfl, .executed hstatement _,
          .inr ⟨statement, hname, hstatement, .inr ⟨.inl rfl, rfl⟩⟩⟩
  refine Ends.mono hends ?_
  rintro r calls ⟨work, hcalls, hwork, hcases⟩
  refine ⟨work, hcalls, .inr ?_, fun failure => .inl ⟨failure, rfl, .inr ⟨work, hwork, rfl⟩⟩⟩
  simpa using hcases

theorem setCharset_interacts (c : Connection) (charset : Option String) :
    (c.setCharset b charset).Interacts b (CharsetChange c charset) := by
  unfold setCharset
  by_cases hserver : c.settings.engine = .sqlite
  · rw [if_pos hserver]
    exact interacts_pure (.unneeded (.inl hserver))
  rw [if_neg hserver]
  cases hcurrent : c.settings.charset with
  | none => exact interacts_fail (.untyped (.inl hcurrent))
  | some current =>
    cases charset with
    | none => exact interacts_fail (.untyped (.inr rfl))
    | some wanted =>
      cases hsame : sameCharset current wanted with
      | true =>
        simp only [hsame, if_true]
        exact interacts_pure (.unneeded (.inr ⟨current, wanted, hcurrent, rfl, hsame⟩))
      | false =>
        simp only [hsame, Bool.false_eq_true, if_false]
        cases hdriver : c.driver with
        | none =>
          rw [live_eq_error hdriver]
          exact interacts_fail (.closed hdriver)
        | some h =>
          rw [live_eq hdriver]
          change ((liftM (b.cursor h) : Action σ Fault Unit) >>= fun _ =>
            b.withOpenCursor h .problem ((sendCharset b c.settings.engine h wanted).rescue fun _ =>
              Action.log .warning .connection _ >>= fun _ => pure false) >>= _).Interacts b _
          rw [← bind_assoc]
          refine Interacts.bind (charsetCursor_interacts hserver fun _ => ?_) ?_ ?_
          · exact Ends.bind (ends_log (Q := fun r calls => r = .ok () ∧ driverCalls calls = [])
              ⟨rfl, rfl⟩) (fun _ _ hQ => nomatch hQ.1) fun _ _ hQ =>
                ends_pure ⟨rfl, by rw [List.append_nil, hQ.2]⟩
          · rintro e parts (⟨failure, hr, rfl | ⟨work, hwork, rfl⟩⟩ | ⟨hr, -⟩ | ⟨statement, hname, hstatement,
              ⟨hr, -⟩ | ⟨hr | ⟨failure, hr⟩, rfl⟩⟩)
            · cases hr
              exact .refused hdriver failure
            · cases hr
              exact .unclosed hdriver rfl hwork failure
            · cases hr
            · cases hr
            · cases hr
            · cases hr
              exact .interrupted hdriver rfl hstatement failure
          · rintro changed parts (⟨failure, hr, -⟩ | ⟨hr, hname, rfl⟩ | ⟨statement, hname, hstatement,
              ⟨hr, rfl⟩ | ⟨hr | ⟨failure, hr⟩, rfl⟩⟩)
            · cases hr
            · cases hr
              exact interacts_pure (.invalid hdriver rfl hname)
            · cases hr
              rw [← hdriver]
              exact interacts_pure (.changed hdriver hcurrent rfl hsame hname hstatement)
            · cases hr
              exact interacts_pure (.failed hdriver rfl hstatement)
            · cases hr

end Connection

end SqlBridge
