import SqlBridge.Proofs.Clause.Confinement

namespace SqlBridge

open Text

namespace ParamType

/-- How a type may be given: null for none, or a text that is its name. -/
inductive NamedBy : Value → Option ParamType → Prop where
  | untyped : NamedBy .null none
  | named {v : Value} {type : ParamType} (hname : v.text? = some type.name) : NamedBy v (some type)

theorem name_of_ofName? {s : String} {type : ParamType} (hname : ofName? s = some type) :
    type.name = s := by
  simpa using List.find?_some hname

theorem ofValue_eq_ok_iff {v : Value} {type : Option ParamType} :
    ofValue v = .ok type ↔ NamedBy v type := by
  constructor
  · intro hvalue
    unfold ofValue at hvalue
    split at hvalue
    · cases hvalue
      exact .untyped
    · split at hvalue
      · rename_i found hfound
        cases hvalue
        obtain ⟨s, htext, hname⟩ := Option.bind_eq_some_iff.1 hfound
        exact .named (by rw [htext, name_of_ofName? hname])
      · cases hvalue
  · intro hnamed
    cases hnamed with
    | untyped => rfl
    | @named v type hname =>
      unfold ofValue
      split
      · cases hname
      · rw [hname, Option.bind_some, ofName?_name]

theorem ofValue_eq_error_iff {v : Value} {p : Problem} :
    ofValue v = .error p ↔ (∀ type, ¬ NamedBy v type) ∧ p = .invalidParamType v := by
  have hproblem {p : Problem} (hvalue : ofValue v = .error p) : p = .invalidParamType v := by
    unfold ofValue at hvalue
    split at hvalue
    · cases hvalue
    · split at hvalue
      · cases hvalue
      · cases hvalue
        rfl
  constructor
  · intro hvalue
    refine ⟨fun type hnamed => ?_, hproblem hvalue⟩
    rw [ofValue_eq_ok_iff.2 hnamed] at hvalue
    cases hvalue
  · rintro ⟨hnone, rfl⟩
    cases hvalue : ofValue v with
    | ok type => exact absurd (ofValue_eq_ok_iff.1 hvalue) (hnone type)
    | error p => rw [hproblem hvalue]

end ParamType

namespace Combinator

/-- How a combinator may be given: null for `OR`, or a text that is its keyword in any case with any
white space around it. -/
inductive NamedBy : Value → Combinator → Prop where
  | unnamed : NamedBy .null .or
  | keyword {s : String} {combinator : Combinator}
      (hword : asciiUpper (trim s.toList) = combinator.word.toList) : NamedBy (.text s) combinator

/-- What is wrong with a value that names no combinator: texts and fixed bytes are refused as such,
other values do not offer what is asked of a text on the way. -/
inductive Misnamed : Value → Problem → Prop where
  | unsupported {v : Value} (hword : v.text?.isSome = true ∨ ∃ data, v = .bytes .fixed data)
      (hnone : ∀ combinator, ¬ NamedBy v combinator) : Misnamed v (.unsupportedCombinator v)
  | growable (data : List UInt8) : Misnamed (.bytes .growable data) .wrongKind
  | wordless {v : Value} (hnull : v ≠ .null) (htext : v.text? = none)
      (hbytes : ∀ form data, v = .bytes form data → form = .view) : Misnamed v .lacksOperation

theorem ofWord?_eq_some_iff {s : String} {combinator : Combinator} :
    ofWord? s = some combinator ↔ s = combinator.word := by
  unfold ofWord?
  split_ifs with hand hor
  · subst hand
    cases combinator <;> decide
  · subst hor
    cases combinator <;> decide
  · cases combinator with
    | and => simpa [word] using hand
    | or => simpa [word] using hor

theorem ofValue_eq_ok_iff {v : Value} {combinator : Combinator} :
    ofValue v = .ok combinator ↔ NamedBy v combinator := by
  constructor
  · intro hvalue
    cases v with
    | null =>
      cases hvalue
      exact .unnamed
    | text s =>
      cases hword : ofWord? (String.ofList (asciiUpper (trim s.toList))) with
      | none =>
        rw [ofValue, hword] at hvalue
        cases hvalue
      | some found =>
        rw [ofValue, hword] at hvalue
        cases hvalue
        exact .keyword (by rw [← ofWord?_eq_some_iff.1 hword, String.toList_ofList])
    | bytes form data => cases form <;> cases hvalue
    | _ => cases hvalue
  · intro hnamed
    cases hnamed with
    | unnamed => rfl
    | @keyword s combinator hword =>
      have hfound : ofWord? (String.ofList (asciiUpper (trim s.toList))) = some combinator := by
        rw [hword, String.ofList_toList]
        exact ofWord?_eq_some_iff.2 rfl
      rw [ofValue, hfound]

theorem ofValue_eq_error_iff {v : Value} {p : Problem} :
    ofValue v = .error p ↔ Misnamed v p := by
  constructor
  · intro hvalue
    have hnone : ∀ combinator, ¬ NamedBy v combinator := by
      intro combinator hnamed
      rw [ofValue_eq_ok_iff.2 hnamed] at hvalue
      cases hvalue
    cases v with
    | null => cases hvalue
    | text s =>
      cases hword : ofWord? (String.ofList (asciiUpper (trim s.toList))) with
      | some found =>
        rw [ofValue, hword] at hvalue
        cases hvalue
      | none =>
        rw [ofValue, hword] at hvalue
        cases hvalue
        exact .unsupported (.inl rfl) hnone
    | engine e =>
      cases hvalue
      exact .unsupported (.inl rfl) hnone
    | bytes form data =>
      cases form with
      | fixed =>
        cases hvalue
        exact .unsupported (.inr ⟨data, rfl⟩) hnone
      | growable =>
        cases hvalue
        exact .growable data
      | view =>
        cases hvalue
        exact .wordless (by simp) rfl (by simp)
    | _ =>
      cases hvalue
      exact .wordless (by simp) rfl (by simp)
  · intro hmisnamed
    cases hmisnamed with
    | growable data => rfl
    | unsupported hword hnone =>
      cases v with
      | text s =>
        cases hvalue : ofValue (.text s) with
        | ok combinator => exact absurd (ofValue_eq_ok_iff.1 hvalue) (hnone combinator)
        | error p =>
          rw [ofValue] at hvalue
          split at hvalue
          · cases hvalue
          · exact hvalue.symm
      | engine e => rfl
      | bytes form data =>
        obtain ⟨_, ⟨⟩⟩ : ∃ data', Value.bytes form data = .bytes .fixed data' := by
          simpa [Value.text?] using hword
        rfl
      | _ => simp [Value.text?] at hword
    | wordless hnull htext hbytes =>
      cases v with
      | null => exact absurd rfl hnull
      | text s => cases htext
      | engine e => cases htext
      | bytes form data =>
        obtain rfl := hbytes form data rfl
        rfl
      | _ => rfl

end Combinator

namespace Condition

/-- The condition that the items of a row say. -/
inductive ListedBy : List Value → Condition → Prop where
  | value (v : Value) : ListedBy [v] ⟨v, .null, .null⟩
  | typed (v type : Value) : ListedBy [v, type] ⟨v, type, .null⟩
  | joined (v type combinator : Value) : ListedBy [v, type, combinator] ⟨v, type, combinator⟩

/-- The condition that an entry says: it is one, or a row of the items of one, or anything else, which
is a value to compare with. -/
inductive GivenBy : Value → Condition → Prop where
  | condition (v type combinator : Value) :
      GivenBy (.condition v type combinator) ⟨v, type, combinator⟩
  | list {items : List Value} {condition : Condition} (hitems : ListedBy items condition) :
      GivenBy (.list items) condition
  | tuple {items : List Value} {condition : Condition} (hitems : ListedBy items condition) :
      GivenBy (.tuple items) condition
  | bare {v : Value} (hrow : ∀ items, v ≠ .list items ∧ v ≠ .tuple items)
      (hcondition : ∀ v' type combinator, v ≠ .condition v' type combinator) :
      GivenBy v ⟨v, .null, .null⟩

theorem ofItems_eq_ok_iff {items : List Value} {condition : Condition} :
    ofItems items = .ok condition ↔ ListedBy items condition := by
  constructor
  · intro hitems
    unfold ofItems at hitems
    split at hitems <;> cases hitems
    · exact .value _
    · exact .typed _ _
    · exact .joined _ _ _
  · rintro (_ | _ | _) <;> rfl

theorem ofItems_eq_error_iff {items : List Value} {p : Problem} :
    ofItems items = .error p ↔ (items = [] ∨ 3 < items.length) ∧ p = .conditionLength items.length := by
  match items with
  | [] => simp [ofItems, eq_comm]
  | [_] => simp [ofItems]
  | [_, _] => simp [ofItems]
  | [_, _, _] => simp [ofItems]
  | _ :: _ :: _ :: _ :: _ => simp [ofItems, eq_comm]

theorem ofEntry_eq_ok_iff {entry : Value} {condition : Condition} :
    ofEntry entry = .ok condition ↔ GivenBy entry condition := by
  constructor
  · intro hentry
    cases entry with
    | list items => exact .list (ofItems_eq_ok_iff.1 hentry)
    | tuple items => exact .tuple (ofItems_eq_ok_iff.1 hentry)
    | condition v type combinator =>
      cases hentry
      exact .condition v type combinator
    | _ =>
      cases hentry
      exact .bare (by simp) (by simp)
  · intro hgiven
    cases hgiven with
    | condition => rfl
    | list hitems => exact ofItems_eq_ok_iff.2 hitems
    | tuple hitems => exact ofItems_eq_ok_iff.2 hitems
    | bare hrow hcondition =>
      cases entry with
      | list items => exact absurd rfl (hrow items).1
      | tuple items => exact absurd rfl (hrow items).2
      | condition v type combinator => exact absurd rfl (hcondition v type combinator)
      | _ => rfl

/-- The entry with its condition written out, if it is a row that stands for one. -/
inductive WrittenOut : Value → Value → Prop where
  | itself (entry : Value) : WrittenOut entry entry
  | row {entry : Value} {items : List Value} {condition : Condition}
      (hentry : entry = .list items ∨ entry = .tuple items) (hitems : ListedBy items condition) :
      WrittenOut entry (.condition condition.value condition.type condition.combinator)

theorem WrittenOut.ofEntry_eq {entry entry' : Value} (hout : WrittenOut entry entry') :
    ofEntry entry' = ofEntry entry := by
  cases hout with
  | itself => rfl
  | row hentry hitems => rcases hentry with rfl | rfl <;> exact (ofItems_eq_ok_iff.2 hitems).symm

theorem ofEntry_eq_error_iff {entry : Value} {p : Problem} :
    ofEntry entry = .error p ↔ ∃ items, (entry = .list items ∨ entry = .tuple items) ∧
      (items = [] ∨ 3 < items.length) ∧ p = .conditionLength items.length := by
  cases entry with
  | list items => simp [ofEntry, ofItems_eq_error_iff]
  | tuple items => simp [ofEntry, ofItems_eq_error_iff]
  | _ => simp [ofEntry]

end Condition

/-- The value is a number of either kind. -/
def Value.IsNumber (v : Value) : Prop :=
  (∃ n, v = .int n) ∨ ∃ x, v = .float x

/-- The value is a text that equals one of the bind markers. -/
def EqualsMarker (markers : List Value) (v : Value) : Prop :=
  ∃ s, v.text? = some s ∧ ∃ marker ∈ markers, marker.text? = some s

/-- The value is neither yes or no, nor a number, nor a bind marker. -/
def NeedsQuoting (markers : List Value) (v : Value) : Prop :=
  (∀ b, v ≠ .bool b) ∧ ¬ v.IsNumber ∧ ¬ EqualsMarker markers v

theorem isMarker_iff {markers : List Value} {v : Value} :
    isMarker markers v = true ↔ EqualsMarker markers v := by
  cases htext : v.text? with
  | none => simp [isMarker, EqualsMarker, htext]
  | some s => simp [isMarker, EqualsMarker, htext]

section Stages

variable {ε ε' α β : Type} {x : Except ε α} {f : α → Except ε β}

theorem bind_eq_ok_iff {b : β} : (x >>= f) = .ok b ↔ ∃ a, x = .ok a ∧ f a = .ok b := by
  cases x with
  | error e =>
    constructor
    · intro hbind
      cases hbind
    · rintro ⟨a, ⟨⟩, -⟩
  | ok a =>
    constructor
    · exact fun hf => ⟨a, rfl, hf⟩
    · rintro ⟨a, ⟨⟩, hf⟩
      exact hf

theorem bind_eq_error_iff {e : ε} :
    (x >>= f) = .error e ↔ x = .error e ∨ ∃ a, x = .ok a ∧ f a = .error e := by
  cases x with
  | error e' =>
    constructor
    · intro hbind
      cases hbind
      exact .inl rfl
    · rintro (⟨⟨⟩⟩ | ⟨a, ⟨⟩, -⟩)
      rfl
  | ok a =>
    constructor
    · exact fun hf => .inr ⟨a, rfl, hf⟩
    · rintro (⟨⟨⟩⟩ | ⟨a, ⟨⟩, hf⟩)
      exact hf

theorem mapError_eq_ok_iff {g : ε → ε'} {a : α} : x.mapError g = .ok a ↔ x = .ok a := by
  cases x <;> simp [Except.mapError]

theorem mapError_eq_error_iff {g : ε → ε'} {e' : ε'} :
    x.mapError g = .error e' ↔ ∃ e, x = .error e ∧ g e = e' := by
  cases x <;> simp [Except.mapError]

end Stages

namespace Condition

variable {quote : Quoter} {markers : List Value} {condition : Condition} {text : String}
  {fault : Fault}

/-- What stands on the right side of a comparison: a digit for yes and no, a number and a bind marker
as they are shown, and else what the quoter makes of the value and its type. -/
inductive WrittenAs (quote : Quoter) (markers : List Value) : Condition → String → Prop where
  | bool (b : Bool) (type combinator : Value) :
      WrittenAs quote markers ⟨.bool b, type, combinator⟩ (if b then "1" else "0")
  | number {condition : Condition} (hnumber : condition.value.IsNumber) :
      WrittenAs quote markers condition condition.value.shown
  | marker {condition : Condition} (hmarker : EqualsMarker markers condition.value) :
      WrittenAs quote markers condition condition.value.shown
  | quoted {condition : Condition} {type : Option ParamType} {text : String}
      (hquoted : NeedsQuoting markers condition.value)
      (htype : ParamType.NamedBy condition.type type)
      (hquote : quote condition.value type = .ok text) : WrittenAs quote markers condition text

/-- Why the right side of a comparison is not written: the type is none, or the quoter fails. Only a
value that needs quoting is looked at so closely. -/
inductive NotWritten (quote : Quoter) (markers : List Value) : Condition → Fault → Prop where
  | type {condition : Condition} (hquoted : NeedsQuoting markers condition.value)
      (hnone : ∀ type, ¬ ParamType.NamedBy condition.type type) :
      NotWritten quote markers condition (.problem (.invalidParamType condition.type))
  | quoter {condition : Condition} {type : Option ParamType} {fault : Fault}
      (hquoted : NeedsQuoting markers condition.value)
      (htype : ParamType.NamedBy condition.type type)
      (hquote : quote condition.value type = .error fault) :
      NotWritten quote markers condition fault

theorem render_of_isNumber (hnumber : condition.value.IsNumber) :
    condition.render quote markers = .ok condition.value.shown := by
  obtain ⟨v, type, combinator⟩ := condition
  rcases hnumber with ⟨n, rfl⟩ | ⟨x, rfl⟩ <;> rfl

theorem render_of_equalsMarker (hmarker : EqualsMarker markers condition.value) :
    condition.render quote markers = .ok condition.value.shown := by
  obtain ⟨v, type, combinator⟩ := condition
  have hfound : isMarker markers v = true := isMarker_iff.2 hmarker
  obtain ⟨s, htext, -⟩ := hmarker
  cases v with
  | text s => simp only [render, hfound, if_true]
  | engine e => simp only [render, hfound, if_true]
  | _ => cases htext

theorem render_of_needsQuoting (hquoted : NeedsQuoting markers condition.value) :
    condition.render quote markers =
      ((ParamType.ofValue condition.type).mapError Fault.problem >>= quote condition.value) := by
  obtain ⟨v, type, combinator⟩ := condition
  obtain ⟨hbool, hnumber, hmarker⟩ := hquoted
  have hfree : isMarker markers v = false := by
    rw [Bool.eq_false_iff]
    exact mt isMarker_iff.1 hmarker
  cases v with
  | bool b => exact absurd rfl (hbool b)
  | int n => exact absurd (.inl ⟨n, rfl⟩) hnumber
  | float x => exact absurd (.inr ⟨x, rfl⟩) hnumber
  | _ => simp only [render, hfree, Bool.false_eq_true, if_false]

theorem render_eq_ok_iff :
    condition.render quote markers = .ok text ↔ WrittenAs quote markers condition text := by
  constructor
  · intro hrender
    by_cases hnumber : condition.value.IsNumber
    · rw [render_of_isNumber hnumber] at hrender
      cases hrender
      exact .number hnumber
    by_cases hmarker : EqualsMarker markers condition.value
    · rw [render_of_equalsMarker hmarker] at hrender
      cases hrender
      exact .marker hmarker
    by_cases hbool : ∃ b, condition.value = .bool b
    · obtain ⟨v, type, combinator⟩ := condition
      obtain ⟨b, rfl⟩ := hbool
      cases hrender
      exact .bool b type combinator
    · have hquoted : NeedsQuoting markers condition.value := ⟨not_exists.1 hbool, hnumber, hmarker⟩
      rw [render_of_needsQuoting hquoted, bind_eq_ok_iff] at hrender
      obtain ⟨type, htype, hquote⟩ := hrender
      exact .quoted hquoted (ParamType.ofValue_eq_ok_iff.1 (mapError_eq_ok_iff.1 htype)) hquote
  · intro hwritten
    cases hwritten with
    | bool b type combinator => rfl
    | number hnumber => exact render_of_isNumber hnumber
    | marker hmarker => exact render_of_equalsMarker hmarker
    | quoted hquoted htype hquote =>
      rw [render_of_needsQuoting hquoted, bind_eq_ok_iff]
      exact ⟨_, mapError_eq_ok_iff.2 (ParamType.ofValue_eq_ok_iff.2 htype), hquote⟩

theorem render_eq_error_iff :
    condition.render quote markers = .error fault ↔ NotWritten quote markers condition fault := by
  constructor
  · intro hrender
    have hquoted : NeedsQuoting markers condition.value := by
      refine ⟨fun b hbool => ?_, fun hnumber => ?_, fun hmarker => ?_⟩
      · obtain ⟨v, type, combinator⟩ := condition
        obtain rfl : v = .bool b := hbool
        cases hrender
      · rw [render_of_isNumber hnumber] at hrender
        cases hrender
      · rw [render_of_equalsMarker hmarker] at hrender
        cases hrender
    rw [render_of_needsQuoting hquoted, bind_eq_error_iff] at hrender
    rcases hrender with hrefused | ⟨type, htype, hquote⟩
    · obtain ⟨p, htype, rfl⟩ := mapError_eq_error_iff.1 hrefused
      obtain ⟨hnone, rfl⟩ := ParamType.ofValue_eq_error_iff.1 htype
      exact .type hquoted hnone
    · exact .quoter hquoted (ParamType.ofValue_eq_ok_iff.1 (mapError_eq_ok_iff.1 htype)) hquote
  · intro hnot
    cases hnot with
    | type hquoted hnone =>
      rw [render_of_needsQuoting hquoted, bind_eq_error_iff]
      exact .inl (mapError_eq_error_iff.2 ⟨_, ParamType.ofValue_eq_error_iff.2 ⟨hnone, rfl⟩, rfl⟩)
    | quoter hquoted htype hquote =>
      rw [render_of_needsQuoting hquoted, bind_eq_error_iff]
      exact .inr ⟨_, mapError_eq_ok_iff.2 (ParamType.ofValue_eq_ok_iff.2 htype), hquote⟩

end Condition

end SqlBridge
