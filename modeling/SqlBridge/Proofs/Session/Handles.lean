import SqlBridge.Proofs.Driver.Failures
import SqlBridge.Proofs.Session.Effect

namespace SqlBridge

variable {σ : Type} {b : Backend σ} {h : Handle}

theorem Interaction.handle?_of_mem_calls {part : Interaction} {call : Call}
    (hcall : call ∈ part.calls) : call.event.handle? = part.handle? := by
  cases part with
  | cursor h work closing =>
    have hcalls : ∀ call ∈ (cursor h work closing).calls, call.event.handle? = some h := by
      cases work <;> simp [Interaction.calls, CursorWork.calls, Event.handle?]
    exact hcalls call hcall
  | _ =>
    rw [List.mem_singleton.1 hcall]
    rfl

namespace Adapter

variable {s : Settings} {parts : List Interaction}

theorem Connecting.handle?_cases (hconnect : Connecting s (.ok h) parts) :
    (∀ part ∈ parts, part.handle? = none ∨ part.handle? = some h) ∧
      ∃ part ∈ parts, ∃ call ∈ part.calls, call.reply = .connected h := by
  cases hconnect with
  | @connected _ package arguments before after hbefore hafter =>
    refine ⟨?_, .connect package arguments (.connected h), by simp, _, List.mem_singleton_self _, rfl⟩
    refine List.forall_mem_append.2 ⟨?_, List.forall_mem_cons.2 ⟨.inl rfl, ?_⟩⟩
    · intro part hpart
      obtain ⟨package, arguments, rfl⟩ := hbefore part hpart
      exact .inl rfl
    · rcases hafter with rfl | rfl
      · simp
      · exact List.forall_mem_singleton.2 (.inr rfl)

/-- Once a driver connection is handed out, it is the only one that anything is done with. -/
theorem Connecting.exists_connected_of_handle {h' : Handle} {later : List Interaction}
    (hconnect : Connecting s (.ok h') parts) (hlater : ∀ part ∈ later, part.handle? = some h')
    {part : Interaction} (hpart : part ∈ parts ++ later) (hhandle : part.handle? = some h) :
    ∃ part ∈ parts ++ later, ∃ call ∈ part.calls, call.reply = .connected h := by
  obtain ⟨hhandles, connected, hmem, hcall⟩ := hconnect.handle?_cases
  have hsame : part.handle? = some h' := by
    rcases List.mem_append.1 hpart with hpart | hpart
    · refine (hhandles part hpart).resolve_left ?_
      rw [hhandle]
      nofun
    · exact hlater part hpart
  obtain rfl : h = h' := Option.some.inj (hhandle.symm.trans hsame)
  exact ⟨connected, List.mem_append_left _ hmem, hcall⟩

theorem CharsetSetting.handle?_eq {e : Engine} {charset : Value} {r : Except Problem Unit}
    (hset : CharsetSetting e h charset r parts) : ∀ part ∈ parts, part.handle? = some h := by
  intro part hpart
  cases hset <;> simp at hpart <;> rw [hpart] <;> rfl

end Adapter

theorem Connection.Opening.exists_connected_of_handle {settings : Settings} {r : Except Fault Handle}
    {parts : List Interaction} (hopening : Connection.Opening settings r parts) {part : Interaction}
    (hpart : part ∈ parts) (hhandle : part.handle? = some h) :
    ∃ part ∈ parts, ∃ call ∈ part.calls, call.reply = .connected h := by
  cases hopening with
  | opened hconnect hcharset =>
    exact hconnect.exists_connected_of_handle hcharset.handle?_eq hpart hhandle
  | unconnected hconnect =>
    cases hconnect with
    | failed _ hfailed =>
      obtain ⟨package, arguments, rfl⟩ := hfailed part hpart
      cases hhandle
    | @unswitched h' package arguments before hbefore =>
      have hconnected : ∃ call ∈ (Interaction.connect package arguments (.connected h')).calls,
          call.reply = .connected h' := ⟨_, List.mem_singleton_self _, rfl⟩
      rcases List.mem_append.1 hpart with hpart | hpart
      · obtain ⟨package, arguments, rfl⟩ := hbefore part hpart
        cases hhandle
      · obtain rfl : h' = h := by
          rcases List.mem_pair.1 hpart with rfl | rfl
          · cases hhandle
          · exact Option.some.inj hhandle
        exact ⟨.connect package arguments (.connected h'), by simp, hconnected⟩
  | interrupted hconnect hcharset =>
    exact hconnect.exists_connected_of_handle hcharset.handle?_eq hpart hhandle
  | abandoned hconnect hcharset =>
    rw [List.append_assoc] at hpart ⊢
    exact hconnect.exists_connected_of_handle (List.forall_mem_append.2
      ⟨hcharset.handle?_eq, List.forall_mem_singleton.2 rfl⟩) hpart hhandle
  | doubleFault hconnect hcharset =>
    rw [List.append_assoc] at hpart ⊢
    exact hconnect.exists_connected_of_handle (List.forall_mem_append.2
      ⟨hcharset.handle?_eq, List.forall_mem_singleton.2 rfl⟩) hpart hhandle

namespace Moment

variable {m : Moment σ}

theorem exists_call_of_event (b : Backend σ) {event : Event} (hevent : event ∈ m.events) :
    ∃ call ∈ m.calls b, call.event = event := by
  rwa [← b.map_event_calls m.before.world m.events, List.mem_map] at hevent

theorem event_mem {call : Call} (hcall : call ∈ m.calls b) : call.event ∈ m.events := by
  rw [← b.map_event_calls m.before.world m.events]
  exact List.mem_map_of_mem hcall

/-- Nothing is done with a driver connection unless a connection that has it is asked for something, or
a package hands it out. -/
theorem Done.handle?_ne (hm : m.Done b) (hfresh : ∀ call ∈ m.calls b, call.reply ≠ .connected h)
    (hunasked : ∀ other c request, m.before.connections[other]? = some c →
      m.step.Asks m.before other request → c.driver ≠ some h) :
    ∀ event ∈ m.events, event.handle? ≠ some h := by
  intro event hevent hhandle
  obtain ⟨call, hcall, rfl⟩ := exists_call_of_event b hevent
  obtain ⟨-, parts, hparts, heffect⟩ := hm.hasEffect
  have hlog : call.event.isLog = false := by
    cases hlogged : call.event with
    | log => rw [hlogged] at hhandle; cases hhandle
    | _ => rfl
  obtain ⟨part, hpart, hmem⟩ := hparts.exists_part hcall hlog
  rw [Interaction.handle?_of_mem_calls hmem] at hhandle
  have hopened {settings : Settings} {r : Except Fault Handle}
      (hopening : Connection.Opening settings r parts) : False := by
    obtain ⟨part', hpart', call', hcall', hconnected⟩ :=
      hopening.exists_connected_of_handle hpart hhandle
    exact hfresh call' (hparts.mem_calls hpart' hcall') hconnected
  have hused {other : Nat} {c : Connection} {request : Request}
      {r : Except Fault (Answer × Connection)} (hc : m.before.connections[other]? = some c)
      (hasks : m.step.Asks m.before other request) (hrequest : request.Effect c r parts) : False := by
    obtain ⟨h', hdriver, hhandle', -⟩ := hrequest.uses part hpart
    rw [hhandle] at hhandle'
    exact hunasked other c request hc hasks (hdriver.trans hhandle'.symm)
  cases heffect with
  | silent => cases hpart
  | handedIn => cases hpart
  | opened hopening => exact hopened hopening
  | unopened hopening => exact hopened hopening
  | answered hc hasks _ hrequest => exact hused hc hasks hrequest
  | failed hc hasks _ hrequest => exact hused hc hasks hrequest

end Moment

end SqlBridge
