import SqlBridge.Proofs.Clause.Confinement

namespace SqlBridge

/-- What the same work on a clause comes to with two quoters. It stops for a problem of its own with
either of them, for a fault of a quoter with that one, and else it comes to its end. -/
inductive Quoter.Compared {α : Type} (quote₁ quote₂ : Quoter) :
    Except Fault α → Except Fault α → Prop where
  | written (a₁ a₂ : α) : Compared quote₁ quote₂ (.ok a₁) (.ok a₂)
  | refused (p : Problem) : Compared quote₁ quote₂ (.error (.problem p)) (.error (.problem p))
  | unquoted₁ {v : Value} {type : Option ParamType} {fault : Fault}
      (hquote : quote₁ v type = .error fault) (r : Except Fault α) :
      Compared quote₁ quote₂ (.error fault) r
  | unquoted₂ {v : Value} {type : Option ParamType} {fault : Fault}
      (hquote : quote₂ v type = .error fault) (r : Except Fault α) :
      Compared quote₁ quote₂ r (.error fault)

namespace Quoter

variable {α β : Type} {quote₁ quote₂ : Quoter}

theorem Compared.bind {r₁ r₂ : Except Fault α} {f₁ f₂ : α → Except Fault β}
    (hcompared : Compared quote₁ quote₂ r₁ r₂)
    (hnext : ∀ a₁ a₂, Compared quote₁ quote₂ (f₁ a₁) (f₂ a₂)) :
    Compared quote₁ quote₂ (r₁ >>= f₁) (r₂ >>= f₂) := by
  cases hcompared with
  | written a₁ a₂ => exact hnext a₁ a₂
  | refused p => exact .refused p
  | unquoted₁ hquote => exact .unquoted₁ hquote _
  | unquoted₂ hquote => exact .unquoted₂ hquote _

/-- What needs no quoter is followed by the same with both. -/
theorem compared_mapError_bind {r : Except Problem α} {f₁ f₂ : α → Except Fault β}
    (hnext : ∀ a, Compared quote₁ quote₂ (f₁ a) (f₂ a)) :
    Compared quote₁ quote₂ (r.mapError Fault.problem >>= f₁) (r.mapError Fault.problem >>= f₂) := by
  cases r with
  | error p => exact .refused p
  | ok a => exact hnext a

theorem compared_quote (v : Value) (type : Option ParamType) :
    Compared quote₁ quote₂ (quote₁ v type) (quote₂ v type) := by
  cases h₁ : quote₁ v type with
  | error fault => exact .unquoted₁ h₁ _
  | ok s₁ =>
    cases h₂ : quote₂ v type with
    | error fault => exact .unquoted₂ h₂ _
    | ok s₂ => exact .written s₁ s₂

theorem compared_render (condition : Condition) (markers : List Value) :
    Compared quote₁ quote₂ (condition.render quote₁ markers) (condition.render quote₂ markers) := by
  unfold Condition.render
  split
  · exact .written _ _
  · exact .written _ _
  · exact .written _ _
  · split_ifs
    · exact .written _ _
    · exact compared_mapError_bind fun type => compared_quote _ type

theorem compared_columnGroup (markers : List Value) (column : String) (entry : Value) :
    Compared quote₁ quote₂ (columnGroup quote₁ markers column entry)
      (columnGroup quote₂ markers column entry) := by
  refine compared_mapError_bind fun condition => compared_mapError_bind fun combinator => ?_
  exact (compared_render condition markers).bind fun _ _ => .written _ _

theorem compared_columnGroups (markers : List Value) (entries : List (String × Value)) :
    Compared quote₁ quote₂ (columnGroups quote₁ markers entries)
      (columnGroups quote₂ markers entries) := by
  induction entries with
  | nil => exact .written [] []
  | cons entry entries ih =>
    refine (compared_columnGroup markers entry.1 entry.2).bind fun _ _ => ?_
    exact ih.bind fun _ _ => .written _ _

/-- Writing a clause needs a quoter for nothing but the values of its columns. -/
theorem compared_formatWhere (spec : Option WhereSpec) (markers : Value) :
    Compared quote₁ quote₂ (formatWhere spec quote₁ markers) (formatWhere spec quote₂ markers) := by
  have hsame {r : Except Fault String} (hr : (∃ text, r = .ok text) ∨ ∃ p, r = .error (.problem p)) :
      Compared quote₁ quote₂ r r := by
    rcases hr with ⟨text, rfl⟩ | ⟨p, rfl⟩
    · exact .written text text
    · exact .refused p
  match spec with
  | none => exact .written "" ""
  | some (.raw v) =>
    cases v with
    | bytes form data => cases form <;> exact hsame (by simp [formatWhere])
    | _ => exact hsame (by simp [formatWhere])
  | some (.anyOf v) =>
    refine compared_mapError_bind fun items => ?_
    split_ifs
    · exact .written "" ""
    · cases items.mapM Value.text? with
      | none => exact .refused _
      | some texts => exact .written _ _
  | some (.columns []) => exact .written "" ""
  | some (.columns (entry :: entries)) =>
    refine compared_mapError_bind fun items => ?_
    exact (compared_columnGroups items (entry :: entries)).bind fun _ _ => .written _ _
  | some (.other v) => exact .refused _

end Quoter

variable {spec : Option WhereSpec} {quote : Quoter} {markers : Value}

/-- A clause is refused for a problem with what it is written of, or for a fault of the quoter. -/
theorem formatWhere_eq_error {fault : Fault} (hrefused : formatWhere spec quote markers = .error fault) :
    (∃ p, fault = .problem p) ∨ ∃ v type, quote v type = .error fault := by
  have hcompared : Quoter.Compared quote quote _ _ := Quoter.compared_formatWhere spec markers
  rw [hrefused] at hcompared
  cases hcompared with
  | refused p => exact .inl ⟨p, rfl⟩
  | unquoted₁ hquote => exact .inr ⟨_, _, hquote⟩
  | unquoted₂ hquote => exact .inr ⟨_, _, hquote⟩

/-- A clause that some quoter writes is refused with another one for a fault of that quoter alone. -/
theorem formatWhere_of_eq_ok {quote' : Quoter} {clause : String}
    (hwritten : formatWhere spec quote markers = .ok clause) :
    (∃ clause', formatWhere spec quote' markers = .ok clause') ∨
      ∃ v type fault, quote' v type = .error fault ∧ formatWhere spec quote' markers = .error fault := by
  have hcompared : Quoter.Compared quote quote' _ _ := Quoter.compared_formatWhere spec markers
  rw [hwritten] at hcompared
  generalize formatWhere spec quote' markers = r at hcompared ⊢
  cases hcompared with
  | written _ clause' => exact .inl ⟨clause', rfl⟩
  | unquoted₂ hquote => exact .inr ⟨_, _, _, hquote, rfl⟩

end SqlBridge
