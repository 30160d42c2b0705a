import SqlBridge.Fault
import SqlBridge.Proofs.Template.Cut

namespace SqlBridge

open Text

/-- What a placeholder is replaced with: a value that was supplied for its name, as it is, or where
    there is none the default without the white space around it. -/
inductive StandsFor (vars : QueryVars) (p : Placeholder) : String → Prop where
  | supplied {v : Value} {s : String} (hlookup : vars.lookup p.name = some v)
      (htext : v.text? = some s) (hvalid : v.isInsertable = true) : StandsFor vars p s
  | preset {raw : String} (hlookup : vars.lookup p.name = none) (hraw : p.rawDefault? = some raw)
      (hne : raw ≠ "") : StandsFor vars p (String.ofList (trim raw.toList))

private theorem mapM_eq_ok_iff_forall₂ {α β ε : Type} {f : α → Except ε β} {xs : List α}
    {ys : List β} : xs.mapM f = .ok ys ↔ List.Forall₂ (fun x y => f x = .ok y) xs ys := by
  constructor
  · intro hmapM
    induction xs generalizing ys with
    | nil =>
      cases hmapM
      exact .nil
    | cons x xs ih =>
      rw [List.mapM_cons] at hmapM
      cases hhead : f x with
      | error e =>
        rw [hhead] at hmapM
        cases hmapM
      | ok y =>
        cases htail : xs.mapM f with
        | error e =>
          rw [hhead, htail] at hmapM
          cases hmapM
        | ok tail =>
          rw [hhead, htail] at hmapM
          cases hmapM
          exact .cons hhead (ih htail)
  · intro hall
    induction hall with
    | nil => rfl
    | cons hhead _ ih =>
      rw [List.mapM_cons, hhead, ih]
      rfl

private theorem mapM_eq_error_of_first {α β ε : Type} {f : α → Except ε β} {before after : List α}
    {x : α} {e : ε} (hbefore : ∀ a ∈ before, ∃ b, f a = .ok b) (hfirst : f x = .error e) :
    (before ++ x :: after).mapM f = .error e := by
  induction before with
  | nil =>
    rw [List.nil_append, List.mapM_cons, hfirst]
    rfl
  | cons a before ih =>
    obtain ⟨b, hb⟩ := hbefore a (by simp)
    rw [List.cons_append, List.mapM_cons, hb, ih fun a ha => hbefore a (by simp [ha])]
    rfl

private theorem mapM_congr_of_mem {α β ε : Type} {f g : α → Except ε β} {xs : List α}
    (hsame : ∀ x ∈ xs, f x = g x) : xs.mapM f = xs.mapM g := by
  induction xs with
  | nil => rfl
  | cons x xs ih =>
    rw [List.mapM_cons, List.mapM_cons, hsame x (by simp), ih fun y hy => hsame y (by simp [hy])]

theorem forall₂_imp_of_mem {α β : Type} {R S : α → β → Prop} {xs : List α} {ys : List β}
    (himp : ∀ x ∈ xs, ∀ y, R x y → S x y) (hall : List.Forall₂ R xs ys) : List.Forall₂ S xs ys := by
  refine ((List.forall₂_and_left _ _).2 ⟨fun x hmem => hmem, hall⟩).imp fun x y h => ?_
  exact himp x h.1 y h.2

theorem placeholderText_of_mem_findPlaceholders {t : String} {p : Placeholder}
    (hmem : p ∈ findPlaceholders t) : ∃ text, PlaceholderText text p := by
  rw [findPlaceholders_eq_map, List.mem_map] at hmem
  obtain ⟨o, ho, rfl⟩ := hmem
  obtain ⟨text, htext, _⟩ := mem_occurrences_iff.1 ho
  exact ⟨text, htext⟩

namespace Placeholder

theorem resolve_eq_ok_iff {p : Placeholder} {vars : QueryVars} {s : String}
    (hwritten : ∀ raw, p.rawDefault? = some raw → raw ≠ "") :
    p.resolve vars = .ok s ↔ StandsFor vars p s := by
  constructor
  · intro hresolve
    unfold resolve at hresolve
    split at hresolve
    · rename_i v hlookup
      split at hresolve
      · rename_i text htext
        split at hresolve
        · rename_i hvalid
          cases hresolve
          exact .supplied hlookup htext (by simpa [Value.isInsertable, htext] using hvalid)
        · cases hresolve
      · cases hresolve
    · rename_i hlookup
      split at hresolve
      · rename_i text hdefault
        cases hresolve
        obtain ⟨raw, hraw, rfl⟩ := Option.map_eq_some_iff.1 hdefault
        exact .preset hlookup hraw (hwritten raw hraw)
      · cases hresolve
  · intro hstands
    cases hstands with
    | supplied hlookup htext hvalid =>
      have hinsertable : isInsertable s.toList = true := by
        simpa [Value.isInsertable, htext] using hvalid
      simp [resolve, hlookup, htext, hinsertable]
    | preset hlookup hraw _ => simp [resolve, hlookup, default?, hraw]

theorem resolve_eq_error {p : Placeholder} {vars : QueryVars}
    (hnot : ∀ s, p.resolve vars ≠ .ok s) :
    p.resolve vars =
      .error (if (vars.lookup p.name).isSome then .invalid p.name else .missing p.name) := by
  cases hlookup : vars.lookup p.name with
  | some v =>
    cases htext : v.text? with
    | none => simp [resolve, hlookup, htext]
    | some s =>
      by_cases hvalid : isInsertable s.toList = true
      · exact absurd (by simp [resolve, hlookup, htext, hvalid]) (hnot s)
      · simp [resolve, hlookup, htext, hvalid]
  | none =>
    cases hdefault : p.default? with
    | none => simp [resolve, hlookup, hdefault]
    | some s => exact absurd (by simp [resolve, hlookup, hdefault]) (hnot s)

theorem resolve_congr {p : Placeholder} {vars vars' : QueryVars}
    (hagree : vars'.lookup p.name = vars.lookup p.name) : p.resolve vars' = p.resolve vars := by
  rw [resolve, resolve, hagree]

end Placeholder

theorem marks_forall₂ (t : String) :
    List.Forall₂ PlaceholderText (marks t.toList) (findPlaceholders t) := by
  rw [findPlaceholders_eq_map, marks, List.forall₂_map_left_iff, List.forall₂_map_right_iff,
    List.forall₂_same]
  intro o hmem
  exact (mem_occurrences_iff.1 hmem).placeholderText_extract

theorem literals_length (t : String) :
    (literals t.toList).length = (findPlaceholders t).length + 1 := by
  rw [literals, literalsFrom_length, findPlaceholders_eq_map, List.length_map]

theorem resolve_eq_ok_iff_of_mem {t : String} {p : Placeholder} (hmem : p ∈ findPlaceholders t)
    {vars : QueryVars} {s : String} : p.resolve vars = .ok s ↔ StandsFor vars p s := by
  obtain ⟨text, htext⟩ := placeholderText_of_mem_findPlaceholders hmem
  exact Placeholder.resolve_eq_ok_iff fun raw hraw => (htext.rawDefault_spec hraw).1

theorem mapM_resolve_eq_ok_iff {t : String} {vars : QueryVars} {texts : List String} :
    (findPlaceholders t).mapM (Placeholder.resolve · vars) = .ok texts ↔
      List.Forall₂ (StandsFor vars) (findPlaceholders t) texts := by
  rw [mapM_eq_ok_iff_forall₂]
  constructor
  · exact forall₂_imp_of_mem fun p hmem s => (resolve_eq_ok_iff_of_mem hmem).1
  · exact forall₂_imp_of_mem fun p hmem s => (resolve_eq_ok_iff_of_mem hmem).2

/-- Rendering succeeds exactly when a text stands for each placeholder, and with these texts. -/
theorem render_eq_ok_iff {t : String} {vars : QueryVars} {info : Option Info} {r : String} :
    render t vars info = .ok r ↔ ∃ texts, List.Forall₂ (StandsFor vars) (findPlaceholders t) texts ∧
      r = String.ofList (weave (literals t.toList) (texts.map String.toList)) := by
  simp only [← mapM_resolve_eq_ok_iff]
  rw [render, substitute_eq]
  cases (findPlaceholders t).mapM (Placeholder.resolve · vars) with
  | error e => simp [Except.map, Except.mapError]
  | ok texts => simp [Except.map, Except.mapError, eq_comm]

theorem render_eq_error {t : String} {vars : QueryVars} {before after : List Placeholder}
    {p : Placeholder} (info : Option Info) (hfound : findPlaceholders t = before ++ p :: after)
    (hbefore : ∀ q ∈ before, ∃ s, StandsFor vars q s) (hnone : ¬ ∃ s, StandsFor vars p s) :
    render t vars info = .error (.database
      ⟨if (vars.lookup p.name).isSome then .invalidVariable p.name t else .missingVariable p.name t,
        info, none⟩) := by
  have hresolve : ∀ q ∈ before, ∃ s, q.resolve vars = .ok s := by
    intro q hq
    obtain ⟨s, hs⟩ := hbefore q hq
    have hmem : q ∈ findPlaceholders t := by simp [hfound, hq]
    exact ⟨s, (resolve_eq_ok_iff_of_mem hmem).2 hs⟩
  have hmem : p ∈ findPlaceholders t := by simp [hfound]
  have hfirst : p.resolve vars = _ := Placeholder.resolve_eq_error fun s hs =>
    hnone ⟨s, (resolve_eq_ok_iff_of_mem hmem).1 hs⟩
  rw [render, substitute_eq, hfound, mapM_eq_error_of_first hresolve hfirst]
  cases (vars.lookup p.name).isSome <;> rfl

theorem render_congr {t : String} {vars vars' : QueryVars} (info : Option Info)
    (hagree : ∀ p ∈ findPlaceholders t, vars'.lookup p.name = vars.lookup p.name) :
    render t vars' info = render t vars info := by
  rw [render, render, substitute_eq, substitute_eq,
    mapM_congr_of_mem fun p hmem => Placeholder.resolve_congr (hagree p hmem)]

/-- A template is its literals with its placeholders between them. When each placeholder has a text
    that stands for it, rendering puts these texts between the same literals; otherwise it fails for
    the first placeholder that has none, with the whole template and the connection in the error. So
    only what the variables hold for the names in the template matters. -/
theorem render_resolves_placeholders_in_order (t : String) (supplied : Option QueryVars)
    (info : Option Info) :
    weave (literals t.toList) (marks t.toList) = t.toList ∧
    (literals t.toList).length = (findPlaceholders t).length + 1 ∧
    List.Forall₂ PlaceholderText (marks t.toList) (findPlaceholders t) ∧
    (∀ texts, List.Forall₂ (StandsFor (supplied.getD [])) (findPlaceholders t) texts →
      render t (supplied.getD []) info =
        .ok (String.ofList (weave (literals t.toList) (texts.map String.toList)))) ∧
    (∀ before p after, findPlaceholders t = before ++ p :: after →
      (∀ q ∈ before, ∃ s, StandsFor (supplied.getD []) q s) →
      (¬ ∃ s, StandsFor (supplied.getD []) p s) →
      render t (supplied.getD []) info = .error (.database
        ⟨if ((supplied.getD []).lookup p.name).isSome then .invalidVariable p.name t
          else .missingVariable p.name t, info, none⟩)) ∧
    ∀ vars : QueryVars,
      (∀ p ∈ findPlaceholders t, vars.lookup p.name = (supplied.getD []).lookup p.name) →
      render t vars info = render t (supplied.getD []) info := by
  refine ⟨weave_literals_marks t.toList, literals_length t, marks_forall₂ t, ?_, ?_, ?_⟩
  · intro texts hall
    exact render_eq_ok_iff.2 ⟨texts, hall, rfl⟩
  · intro before p after hfound hbefore hnone
    exact render_eq_error info hfound hbefore hnone
  · intro vars hagree
    exact render_congr info hagree

end SqlBridge
