import SqlBridge.Proofs.Charset.Accepted
import SqlBridge.Proofs.Charset.Queries

namespace SqlBridge

variable {σ : Type} {b : Backend σ} {e : Engine} {h : Handle} {c c' : Connection}

/-- A connection to a server, by this driver connection until it is closed, whose recorded charset is
the last one in a list. -/
structure Connection.Records (c : Connection) (e : Engine) (h : Handle) (charset : String)
    (accepted : List String) : Prop where
  engine_eq : c.settings.engine = e
  server : e ≠ .sqlite
  driver_eq : c.driver = some h ∨ c.driver = none
  charset_eq : c.settings.charset = some charset
  named : isCharsetName charset = true
  last_accepted : accepted.getLast? = some charset

/-- The record falls behind the session where a cursor stays open: a change that raises although the
driver accepted its statement is one whose cursor did not close. -/
theorem Connection.setCharset_unclosed_of_accepted (c : Connection) (charset : Option String)
    (e : Engine) (h : Handle) : (c.setCharset b charset).Ends b fun r calls =>
      ∀ fault, r = .error fault → acceptedCharsets e h calls ≠ [] →
        ⟨.cursorClose h, .raised⟩ ∈ calls := by
  refine Action.Ends.mono (setCharset_interacts c charset) ?_
  rintro _ calls ⟨parts, hparts, hchange⟩ fault rfl haccepted
  rw [hparts.acceptedCharsets_eq] at haccepted
  cases hchange with
  | @unclosed h' wanted work =>
    obtain rfl : h' = h := by
      by_contra hother
      exact haccepted (Interaction.flatMap_charsets_eq_nil
        (List.forall_mem_singleton.2 (Interaction.charsets_of_handle_ne rfl hother)))
    exact hparts.mem_calls (List.mem_singleton_self _) (by simp [Interaction.calls])
  | _ => exact absurd rfl haccepted

namespace Request

variable {request : Request} {r : Except Fault (Answer × Connection)} {parts : List Interaction}

end Request

namespace Connection.Records

variable {charset : String} {accepted : List String}

theorem kept (hrecords : c.Records e h charset accepted)
    (hsame : c' = c ∨ c' = { c with driver := none }) : c'.Records e h charset accepted := by
  rcases hsame with rfl | rfl
  · exact hrecords
  · exact { hrecords with driver_eq := .inr rfl }

theorem changed (hrecords : c.Records e h charset accepted) {wanted : String}
    (hname : isCharsetName wanted = true) :
    Connection.Records { c with settings := { c.settings with charset := some wanted } } e h wanted
      (accepted ++ [wanted]) where
  engine_eq := hrecords.engine_eq
  server := hrecords.server
  driver_eq := hrecords.driver_eq
  charset_eq := rfl
  named := hname
  last_accepted := List.getLast?_concat

end Connection.Records

namespace Session

variable {s s' : Session σ} {place : Nat} {accepted : List String}

end Session

namespace Moment.SparesCharset

variable {m : Moment σ} {place : Nat} {parts : List Interaction}

end Moment.SparesCharset

namespace Session

variable {s s' : Session σ} {place : Nat} {accepted : List String}

end Session

/-- The change of a charset comes to nothing: its name is no charset name, or the charset already has
it but for the case of its letters, or something raises on the way, or the answer is no. -/
inductive Moment.DeniesCharset (b : Backend σ) (m : Moment σ) (place : Nat) (wanted : Option String) :
    Prop where
  | refused {text : String} (hwanted : wanted = some text) (hname : isCharsetName text = false)
  | same {c : Connection} {current text : String} (hc : m.before.connections[place]? = some c)
      (hcurrent : c.settings.charset = some current) (hwanted : wanted = some text)
      (hsame : Connection.sameCharset current text = true)
  | raised {call : Call} (hcall : call ∈ m.calls b) (hreply : call.reply = .raised)
  | interrupted {fault : Fault} (houtcome : m.outcome = .error fault)
  | declined (houtcome : m.outcome = .ok (.flag false))

/-- Nothing of this can be said of a change that was made. -/
theorem Moment.DeniesCharset.elim {m : Moment σ} {place : Nat} {current text : String}
    {parts : List Interaction} (hdenied : m.DeniesCharset b place (some text))
    (hc : m.before.connections[place]? = some c) (hcurrent : c.settings.charset = some current)
    (hother : Connection.sameCharset current text = false) (hname : isCharsetName text = true)
    (houtcome : m.outcome = .ok (.flag true)) (hparts : MadeOf parts (m.calls b))
    (hreturned : ∀ part ∈ parts, ∀ call ∈ part.calls, call.reply = .returned) : False := by
  cases hdenied with
  | refused hwanted hname' =>
    rw [← Option.some.inj hwanted, hname] at hname'
    cases hname'
  | same hc' hcurrent' hwanted hsame =>
    rw [hc, Option.some.injEq] at hc'
    rw [← hc', hcurrent, Option.some.injEq] at hcurrent'
    rw [← Option.some.inj hwanted, ← hcurrent', hother] at hsame
    cases hsame
  | @raised call hcall hreply =>
    have hsilent : call.reply = .returned := by
      cases hlog : call.event.isLog with
      | true => exact b.reply_of_isLog hcall hlog
      | false =>
        obtain ⟨part, hpart, hcall⟩ := hparts.exists_part hcall hlog
        exact hreturned part hpart call hcall
    rw [hsilent] at hreply
    cases hreply
  | interrupted houtcome' =>
    rw [houtcome] at houtcome'
    cases houtcome'
  | declined houtcome' =>
    rw [houtcome] at houtcome'
    cases houtcome'

namespace Session

variable {s₀ s₁ s : Session σ}

end Session

end SqlBridge
