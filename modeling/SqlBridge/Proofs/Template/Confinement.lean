import SqlBridge.Proofs.Template.Resolution
import SqlBridge.Proofs.Text.Trimming

namespace SqlBridge

open Text

/-- What is left of a text without the characters that a value may have. -/
def skeleton (cs : List Char) : List Char :=
  cs.filter fun c => decide (¬ InValueAlphabet c)

/-- Characters that give a statement its structure. -/
def structuralChars : List Char :=
  ['\'', '"', ';', ',', '(', ')', '/', '*', '#', '\n', '$', '{', '}']

@[simp] theorem skeleton_append (cs cs' : List Char) :
    skeleton (cs ++ cs') = skeleton cs ++ skeleton cs' :=
  List.filter_append ..

theorem skeleton_eq_nil {cs : List Char} (hall : ∀ c ∈ cs, InValueAlphabet c) :
    skeleton cs = [] := by
  rw [skeleton, List.filter_eq_nil_iff]
  intro c hc
  simpa using hall c hc

theorem structuralChars_outside {c : Char} (hc : c ∈ structuralChars) : ¬ InValueAlphabet c := by
  have hnone : structuralChars.all (fun c => !isValueChar c) = true := by decide
  have hchar := List.all_eq_true.1 hnone c hc
  rw [← isValueChar_iff]
  simpa using hchar

/-- Texts with the same skeleton have the same structural characters in the same order. -/
theorem filter_structuralChars_skeleton (cs : List Char) :
    (skeleton cs).filter (fun c => decide (c ∈ structuralChars)) =
      cs.filter fun c => decide (c ∈ structuralChars) := by
  rw [skeleton, List.filter_filter]
  refine List.filter_congr fun c _ => ?_
  by_cases hc : c ∈ structuralChars
  · simp [hc, structuralChars_outside hc]
  · simp [hc]

theorem hasDoubleHyphen_iff {cs : List Char} : hasDoubleHyphen cs = true ↔ ['-', '-'] <:+: cs := by
  fun_induction hasDoubleHyphen cs with
  | case1 cs => simpa using ⟨[], cs, rfl⟩
  | case2 c cs hnot ih =>
    rw [ih, List.infix_cons_iff]
    constructor
    · exact .inr
    · rintro (⟨rest, heq⟩ | htail)
      · cases heq
        exact absurd rfl (hnot rest rfl)
      · exact htail
  | case3 => simp

theorem isInsertable_spec {v : Value} {s : String} (htext : v.text? = some s)
    (hvalid : v.isInsertable = true) :
    s ≠ "" ∧ (∀ c ∈ s.toList, InValueAlphabet c) ∧ ¬ ['-', '-'] <:+: s.toList := by
  have hvalid : isInsertable s.toList = true := by
    simpa [Value.isInsertable, htext] using hvalid
  simp only [isInsertable, Bool.and_eq_true, Bool.not_eq_true', List.all_eq_true] at hvalid
  obtain ⟨⟨hne, hall⟩, hhyphen⟩ := hvalid
  refine ⟨?_, fun c hc => isValueChar_iff.1 (hall c hc), ?_⟩
  · rintro rfl
    exact absurd hne (by decide)
  · intro hinfix
    rw [hasDoubleHyphen_iff.2 hinfix] at hhyphen
    cases hhyphen

namespace StandsFor

variable {vars : QueryVars} {p : Placeholder} {s : String}

theorem of_supplied (hstands : StandsFor vars p s) {v : Value}
    (hlookup : vars.lookup p.name = some v) :
    v.text? = some s ∧ s ≠ "" ∧ ¬ ['-', '-'] <:+: s.toList := by
  cases hstands with
  | supplied hother htext hvalid =>
    rw [hlookup, Option.some.injEq] at hother
    subst hother
    obtain ⟨hne, -, hhyphen⟩ := isInsertable_spec htext hvalid
    exact ⟨htext, hne, hhyphen⟩
  | preset hnone _ _ =>
    rw [hlookup] at hnone
    cases hnone

theorem inValueAlphabet (hstands : StandsFor vars p s) {text : List Char}
    (hwritten : PlaceholderText text p) : ∀ c ∈ s.toList, InValueAlphabet c := by
  cases hstands with
  | supplied _ htext hvalid => exact (isInsertable_spec htext hvalid).2.1
  | preset _ hraw _ =>
    intro c hc
    rw [String.toList_ofList] at hc
    exact (hwritten.rawDefault_spec hraw).2 c (trimBy_subset isBlank _ hc)

end StandsFor

theorem skeleton_weave {lits texts : List (List Char)} (hlength : lits.length = texts.length + 1)
    (htexts : ∀ text ∈ texts, skeleton text = []) :
    skeleton (weave lits texts) = skeleton lits.flatten := by
  induction texts generalizing lits with
  | nil =>
    obtain ⟨lit, rfl⟩ := List.length_eq_one_iff.1 hlength
    simp [weave]
  | cons text texts ih =>
    cases lits with
    | nil => simp at hlength
    | cons lit lits =>
      have hrest := ih (by simpa using hlength) fun text hmem => htexts text (by simp [hmem])
      rw [weave, List.flatten_cons, skeleton_append, skeleton_append, skeleton_append, hrest,
        htexts text (by simp), List.append_nil]

theorem exists_related_of_mem {α β : Type} {R : α → β → Prop} {xs : List α} {ys : List β}
    (hall : List.Forall₂ R xs ys) {y : β} (hmem : y ∈ ys) : ∃ x ∈ xs, R x y := by
  induction hall with
  | nil => cases hmem
  | cons hhead _ ih =>
    rcases List.mem_cons.1 hmem with rfl | hmem
    · exact ⟨_, by simp, hhead⟩
    · obtain ⟨x, hx, hrelated⟩ := ih hmem
      exact ⟨x, by simp [hx], hrelated⟩

/-- Every text that is put into a rendered template stands for one of its placeholders, and is made
of characters for values. -/
theorem exists_standsFor_of_mem {t : String} {vars : QueryVars} {texts : List String}
    (hall : List.Forall₂ (StandsFor vars) (findPlaceholders t) texts) {text : List Char}
    (hmem : text ∈ texts.map String.toList) :
    ∃ p ∈ findPlaceholders t, ∃ s, StandsFor vars p s ∧ text = s.toList ∧
      ∀ c ∈ text, InValueAlphabet c := by
  obtain ⟨s, hs, rfl⟩ := List.mem_map.1 hmem
  obtain ⟨p, hp, hstands⟩ := exists_related_of_mem hall hs
  obtain ⟨written, hwritten⟩ := placeholderText_of_mem_findPlaceholders hp
  exact ⟨p, hp, s, hstands, rfl, hstands.inValueAlphabet hwritten⟩

theorem skeleton_of_render {t : String} {vars : QueryVars} {info : Option Info} {r : String}
    (hrender : render t vars info = .ok r) :
    skeleton r.toList = skeleton (literals t.toList).flatten := by
  obtain ⟨texts, hall, rfl⟩ := render_eq_ok_iff.1 hrender
  rw [String.toList_ofList]
  apply skeleton_weave
  · rw [literals_length, List.length_map, hall.length_eq]
  · intro text hmem
    obtain ⟨-, -, -, -, -, hvalue⟩ := exists_standsFor_of_mem hall hmem
    exact skeleton_eq_nil hvalue

/-- Whatever is supplied, a rendered template has the characters outside the value alphabet that its
    text outside the placeholders has, in the same order. A supplied value that was inserted is not
    empty and starts no comment. -/
theorem render_confines_supplied_values {t : String} {vars vars' : QueryVars}
    {info info' : Option Info} {r r' : String} (hrender : render t vars info = .ok r)
    (hrender' : render t vars' info' = .ok r') :
    skeleton r.toList = skeleton (literals t.toList).flatten ∧
    skeleton r.toList = skeleton r'.toList ∧
    r.toList.filter (fun c => decide (c ∈ structuralChars)) =
      r'.toList.filter (fun c => decide (c ∈ structuralChars)) ∧
    ∃ texts, r = String.ofList (weave (literals t.toList) (texts.map String.toList)) ∧
      List.Forall₂ (fun p s => ∀ v, vars.lookup p.name = some v →
        v.text? = some s ∧ s ≠ "" ∧ ¬ ['-', '-'] <:+: s.toList) (findPlaceholders t) texts := by
  have hskeleton := skeleton_of_render hrender
  have hsame : skeleton r.toList = skeleton r'.toList :=
    hskeleton.trans (skeleton_of_render hrender').symm
  refine ⟨hskeleton, hsame, ?_, ?_⟩
  · rw [← filter_structuralChars_skeleton r.toList, hsame, filter_structuralChars_skeleton]
  · obtain ⟨texts, hall, hr⟩ := render_eq_ok_iff.1 hrender
    refine ⟨texts, hr, hall.imp ?_⟩
    intro p s hstands v hlookup
    exact hstands.of_supplied hlookup

theorem render_confines_supplied_values_mixed :
    render "f('{$A=x y }', {$B =b})" [("A", .text "a.1"), ("B", .engine .mysql)] none =
        .ok "f('a.1', mysql)" ∧
      render "f('{$A=x y }', {$B =b})" [] none = .ok "f('x y', b)" ∧
      skeleton "f('a.1', mysql)".toList = skeleton "f('x y', b)".toList := by
  have hsupplied : render "f('{$A=x y }', {$B =b})" [("A", .text "a.1"), ("B", .engine .mysql)] none =
      .ok "f('a.1', mysql)" := by
    cbv
  have hdefaults : render "f('{$A=x y }', {$B =b})" [] none = .ok "f('x y', b)" := by
    cbv
  exact ⟨hsupplied, hdefaults, (render_confines_supplied_values hsupplied hdefaults).2.1⟩

end SqlBridge
