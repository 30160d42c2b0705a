import SqlBridge.Proofs.Session.Handles

namespace SqlBridge

/-- The charset that a call gives to the session of a driver connection: by a charset statement that
the driver accepted, or by one that the package ran on connecting. -/
def Call.charset? (e : Engine) (h : Handle) (call : Call) : Option String :=
  match call.event, call.reply with
  | .execute h' sql _, .returned => if h' = h then e.charsetName? sql else none
  | .connect _ arguments, .connected h' =>
    if h' = h then arguments.initCommand?.bind e.charsetName? else none
  | _, _ => none

/-- The names in the charset statements that a driver connection accepted, in order. -/
def acceptedCharsets (e : Engine) (h : Handle) (calls : List Call) : List String :=
  calls.filterMap (Call.charset? e h)

section Accepted

variable {e : Engine} {h : Handle}

theorem Call.charset?_of_isLog {call : Call} (hlog : call.event.isLog = true) :
    call.charset? e h = none := by
  obtain ⟨event, reply⟩ := call
  cases event <;> first | rfl | cases hlog

theorem acceptedCharsets_driverCalls (calls : List Call) :
    acceptedCharsets e h (driverCalls calls) = acceptedCharsets e h calls := by
  rw [acceptedCharsets, driverCalls, List.filterMap_filter]
  refine List.filterMap_congr fun call _ => ?_
  cases hlog : call.event.isLog with
  | false => rfl
  | true => exact (Call.charset?_of_isLog hlog).symm

/-- The charsets that the calls of an interaction give to the session of a driver connection. -/
def Interaction.charsets (e : Engine) (h : Handle) (part : Interaction) : List String :=
  acceptedCharsets e h part.calls

theorem MadeOf.acceptedCharsets_eq {parts : List Interaction} {calls : List Call}
    (hcalls : MadeOf parts calls) :
    acceptedCharsets e h calls = parts.flatMap (Interaction.charsets e h) := by
  rw [← acceptedCharsets_driverCalls, hcalls, acceptedCharsets, List.filterMap_flatMap]
  rfl

namespace Interaction

theorem charsets_of_handle_ne {part : Interaction} {h' : Handle} (hhandle : part.handle? = some h')
    (hother : h' ≠ h) : part.charsets e h = [] := by
  cases part with
  | connect package arguments reply => cases hhandle
  | autocommit h'' reply => rfl
  | refusal h'' => rfl
  | close h'' reply => rfl
  | cursor h'' work closing =>
    cases hhandle
    cases work with
    | nothing => rfl
    | executed sql params reply =>
      cases reply <;> simp [charsets, acceptedCharsets, calls, CursorWork.calls, Call.charset?, hother]
    | fetched sql params reply =>
      simp [charsets, acceptedCharsets, calls, CursorWork.calls, Call.charset?, hother]

theorem flatMap_charsets_eq_nil {parts : List Interaction}
    (hparts : ∀ part ∈ parts, part.charsets e h = []) : parts.flatMap (charsets e h) = [] :=
  List.flatMap_eq_nil_iff.2 hparts

end Interaction

end Accepted

/-! ## Opening a connection -/

namespace Adapter

variable {e : Engine} {h h' : Handle} {s : Settings} {parts : List Interaction}

theorem initCommand_eq_setCharset {charset : String} (hcharset : s.charset = some charset)
    (hnonempty : charset ≠ "") : initCommand s = Engine.mysql.setCharset (.text charset) := by
  rw [initCommand, hcharset]
  split
  · next hnone => cases hnone
  · next hempty => exact absurd (Option.some.inj hempty) hnonempty
  · next hsome => rw [Option.some.inj hsome]

end Adapter

namespace Connection.Opening

variable {e : Engine} {h : Handle} {s : Settings} {parts : List Interaction}

end Connection.Opening

end SqlBridge
