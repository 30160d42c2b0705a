import SqlBridge.Proofs.Template.Confinement
import SqlBridge.Proofs.Template.Printing

namespace SqlBridge

open Text

/-- No placeholder of the template is left by the variables to a default that is made of white space
alone. -/
def UsesNoBlankDefault (t : String) (vars : QueryVars) : Prop :=
  ∀ p ∈ findPlaceholders t, vars.lookup p.name = none →
    ∀ raw, p.rawDefault? = some raw → ∃ c ∈ raw.toList, isBlank c = false

/-- What stands for a placeholder is not empty, unless it is a default of white space alone. -/
theorem StandsFor.ne_empty {t : String} {vars : QueryVars} {p : Placeholder} {s : String}
    (hdefaults : UsesNoBlankDefault t vars) (hmem : p ∈ findPlaceholders t)
    (hstands : StandsFor vars p s) : s ≠ "" := by
  cases hstands with
  | supplied _ htext hvalid => exact (isInsertable_spec htext hvalid).1
  | preset hlookup hraw _ =>
    have hne := trimBy_ne_nil_iff.2 (hdefaults p hmem hlookup _ hraw)
    intro hempty
    exact hne (by simpa [trim] using hempty)

/-- Nothing is opened where two texts meet, unless the first ends in a brace and the second begins
with a dollar sign. -/
theorem not_opening_infix_append {cs cs' : List Char} (hcs : ¬ opening <:+: cs)
    (hcs' : ¬ opening <:+: cs') (hseam : cs.getLast? ≠ some '{' ∨ cs'.head? ≠ some '$') :
    ¬ opening <:+: cs ++ cs' := by
  induction cs with
  | nil => exact hcs'
  | cons c cs ih =>
    have htail : ¬ opening <:+: cs := fun hopens => hcs (List.infix_cons hopens)
    have hbegins := not_opening_begins_append (List.cons_ne_nil c cs) hcs hseam
    rw [List.cons_append] at hbegins ⊢
    rw [List.infix_cons_iff, not_or]
    refine ⟨hbegins, ih htail ?_⟩
    cases cs with
    | nil => exact .inl (by simp)
    | cons d cs => exact hseam.imp_left fun hlast => by simpa using hlast

/-- A text that is not empty and has no brace and no dollar sign in it opens nothing, whatever stands
before and after it. -/
theorem not_opening_infix_weave {lits texts : List (List Char)}
    (hlits : ∀ lit ∈ lits, ¬ opening <:+: lit)
    (htexts : ∀ text ∈ texts, text ≠ [] ∧ ∀ c ∈ text, InValueAlphabet c) :
    ¬ opening <:+: weave lits texts := by
  induction texts generalizing lits with
  | nil =>
    cases lits with
    | nil => simp [weave, opening]
    | cons lit lits => exact hlits lit (by simp)
  | cons text texts ih =>
    cases lits with
    | nil => simp [weave, opening]
    | cons lit lits =>
      obtain ⟨hlit, hlits⟩ := List.forall_mem_cons.1 hlits
      obtain ⟨⟨hne, hvalue⟩, htexts⟩ := List.forall_mem_cons.1 htexts
      have hbrace : '{' ∉ text := fun hmem => not_inValueAlphabet (by simp) (hvalue '{' hmem)
      have hdollar : '$' ∉ text := fun hmem => not_inValueAlphabet (by simp) (hvalue '$' hmem)
      have htext : ¬ opening <:+: text := fun hopens => hbrace (hopens.subset (by simp [opening]))
      rw [weave, List.append_assoc]
      refine not_opening_infix_append hlit (not_opening_infix_append htext (ih hlits htexts) ?_) ?_
      · exact .inl fun hlast => hbrace (List.mem_of_getLast? hlast)
      · refine .inr fun hhead => ?_
        rw [List.head?_append_of_ne_nil _ hne] at hhead
        exact hdollar (List.mem_of_head? hhead)

/-- A text in which nothing is opened is rendered as it is. -/
theorem render_of_not_opening {r : String} (hr : ¬ opening <:+: r.toList) (vars : QueryVars)
    (info : Option Info) : findPlaceholders r = [] ∧ render r vars info = .ok r := by
  have hlits : ∀ lit ∈ [r.toList], ¬ opening <:+: lit := by simpa using hr
  obtain ⟨hfound, hliterals⟩ := scan_weave rfl hlits .nil
  rw [weave] at hfound hliterals
  rw [← literals_eq_piece_literals] at hliterals
  refine ⟨hfound, render_eq_ok_iff.2 ⟨[], ?_, ?_⟩⟩
  · rw [findPlaceholders, hfound]
    exact .nil
  · rw [hliterals, List.map_nil, weave, String.ofList_toList]

/-- A rendered statement is final. Where the template opens nothing but placeholders, and none of them
is left to a default of white space alone, nothing is opened in the result. So there is no placeholder
in it, and rendering it again with any variables, those that it was made with or others, leaves it as
it is. -/
theorem render_is_final {t : String} {vars : QueryVars} {info : Option Info} {r : String}
    (hopens : OpensOnlyPlaceholders t.toList) (hdefaults : UsesNoBlankDefault t vars)
    (hrender : render t vars info = .ok r) :
    ¬ opening <:+: r.toList ∧ findPlaceholders r = [] ∧
      ∀ (vars' : QueryVars) (info' : Option Info), render r vars' info' = .ok r := by
  obtain ⟨texts, hall, rfl⟩ := render_eq_ok_iff.1 hrender
  have htexts : ∀ text ∈ texts.map String.toList, text ≠ [] ∧ ∀ c ∈ text, InValueAlphabet c := by
    intro text hmem
    obtain ⟨p, hp, s, hstands, rfl, hvalue⟩ := exists_standsFor_of_mem hall hmem
    exact ⟨by simpa using hstands.ne_empty hdefaults hp, hvalue⟩
  have hfinal : ¬ opening <:+:
      (String.ofList (weave (literals t.toList) (texts.map String.toList))).toList := by
    rw [String.toList_ofList]
    exact not_opening_infix_weave
      (fun lit hlit => not_opening_infix_of_mem_literals hopens hlit) htexts
  refine ⟨hfinal, (render_of_not_opening hfinal [] none).1, fun vars' info' => ?_⟩
  exact (render_of_not_opening hfinal vars' info').2

theorem render_is_final_between_braces :
    let t := "f(\x7b{$A= x }$, {$B})"
    let vars : QueryVars := [("B", .text "b.1")]
    render t vars none = .ok "f(\x7bx$, b.1)" ∧
      findPlaceholders "f(\x7bx$, b.1)" = [] ∧
      render "f(\x7bx$, b.1)" vars none = .ok "f(\x7bx$, b.1)" := by
  intro t vars
  have hrender : render t vars none = .ok "f(\x7bx$, b.1)" := by cbv
  have hliterals : literals t.toList = ["f(\x7b".toList, "$, ".toList, ")".toList] := by cbv
  have hfound : findPlaceholders t = [⟨"A", .preset " x "⟩, ⟨"B", .absent⟩] := by cbv
  have hopens : OpensOnlyPlaceholders t.toList := by
    rw [opensOnlyPlaceholders_iff, hliterals]
    decide
  have hdefaults : UsesNoBlankDefault t vars := by
    intro p hp _ raw hraw
    rw [hfound, List.mem_pair] at hp
    rcases hp with rfl | rfl
    · cases hraw
      exact ⟨'x', by decide, by decide⟩
    · cases hraw
  obtain ⟨-, hnone, hagain⟩ := render_is_final hopens hdefaults hrender
  exact ⟨hrender, hnone, hagain vars none⟩

/-- A default of white space alone lets its neighbours meet, and a brace that opens no placeholder
may open one with what is put in. -/
example : render "\x7b{$A= }$B\x7d" [] none = .ok "{$B}" ∧
    render "\x7b${$A=B}\x7d" [] none = .ok "{$B}" := by
  constructor <;> cbv

end SqlBridge
