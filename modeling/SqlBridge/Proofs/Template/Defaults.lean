import SqlBridge.Proofs.Template.Confinement

namespace SqlBridge

open Text

/-- The placeholder has a default that is not of white space alone and in which no comment starts. -/
def Placeholder.HasSoundDefault (p : Placeholder) : Prop :=
  ∃ raw, p.rawDefault? = some raw ∧ (∃ c ∈ raw.toList, isBlank c = false) ∧
    ¬ ['-', '-'] <:+: raw.toList

theorem isInsertable_text_iff {s : String} : (Value.text s).isInsertable = true ↔
    s ≠ "" ∧ (∀ c ∈ s.toList, InValueAlphabet c) ∧ ¬ ['-', '-'] <:+: s.toList := by
  constructor
  · exact isInsertable_spec rfl
  · rintro ⟨hne, hvalue, hhyphens⟩
    have hall : s.toList.all isValueChar = true :=
      List.all_eq_true.2 fun c hc => isValueChar_iff.2 (hvalue c hc)
    have hcomment : hasDoubleHyphen s.toList = false :=
      Bool.eq_false_iff.2 fun hdouble => hhyphens (hasDoubleHyphen_iff.1 hdouble)
    simp [Value.isInsertable, Value.text?, isInsertable, hall, hcomment, hne]

/-- Trimming neither hides nor makes the start of a comment: no hyphen is white space. -/
theorem doubleHyphen_infix_trim_iff {cs : List Char} :
    ['-', '-'] <:+: trim cs ↔ ['-', '-'] <:+: cs := by
  have hhyphen : isBlank '-' = false := by decide
  exact infix_trimBy_iff (by simpa using hhyphen)

/-- A default of a template is made of value characters. It may be inserted as a value unless it was
written as white space alone or with the start of a comment in it. -/
theorem Placeholder.default?_spec {t : String} {p : Placeholder} (hmem : p ∈ findPlaceholders t)
    {d : String} (hdefault : p.default? = some d) :
    (∀ c ∈ d.toList, InValueAlphabet c) ∧
      ((Value.text d).isInsertable = true ↔ p.HasSoundDefault) := by
  obtain ⟨written, hwritten⟩ := placeholderText_of_mem_findPlaceholders hmem
  obtain ⟨raw, hraw, rfl⟩ := Option.map_eq_some_iff.1 hdefault
  have hvalue : ∀ c ∈ (String.ofList (trim raw.toList)).toList, InValueAlphabet c := by
    intro c hc
    rw [String.toList_ofList] at hc
    exact (hwritten.rawDefault_spec hraw).2 c (trimBy_subset isBlank _ hc)
  have hne : String.ofList (trim raw.toList) ≠ "" ↔ ∃ c ∈ raw.toList, isBlank c = false := by
    rw [← trimBy_ne_nil_iff, trim]
    simp
  have hcomment : ['-', '-'] <:+: (String.ofList (trim raw.toList)).toList ↔
      ['-', '-'] <:+: raw.toList := by
    rw [String.toList_ofList, doubleHyphen_infix_trim_iff]
  refine ⟨hvalue, ?_⟩
  rw [isInsertable_text_iff, hne, hcomment]
  constructor
  · rintro ⟨hseen, -, hnone⟩
    exact ⟨raw, hraw, hseen, hnone⟩
  · rintro ⟨other, hother, hseen, hnone⟩
    obtain rfl : raw = other := by rw [hraw] at hother; exact Option.some.inj hother
    exact ⟨hseen, hvalue, hnone⟩

/-- What stands for a placeholder may be inserted as a value, unless it is a default that may not. -/
theorem StandsFor.isInsertable_iff {t : String} {vars : QueryVars} {p : Placeholder} {s : String}
    (hmem : p ∈ findPlaceholders t) (hstands : StandsFor vars p s) :
    (∀ c ∈ s.toList, InValueAlphabet c) ∧
      ((Value.text s).isInsertable = true ↔ (vars.lookup p.name).isSome ∨ p.HasSoundDefault) := by
  cases hstands with
  | supplied hlookup htext hvalid =>
    have hspec := isInsertable_spec htext hvalid
    exact ⟨hspec.2.1, by simp [hlookup, isInsertable_text_iff.2 hspec]⟩
  | preset hlookup hraw _ =>
    have hdefault := congrArg (Option.map fun raw => String.ofList (trim raw.toList)) hraw
    obtain ⟨hvalue, hiff⟩ := Placeholder.default?_spec hmem hdefault
    exact ⟨hvalue, by simp [hlookup, hiff]⟩

/-- Supplied values and written defaults obey one grammar but for two kinds of defaults: those of
white space alone and those in which a comment starts. Every default is made of value characters, and
it is a value that may be supplied unless it is of one of these kinds. So is every text that rendering
inserts: it is not empty and starts no comment, unless it is such a default. -/
theorem inserted_texts_are_insertable_unless_defaults_are_not (t : String) :
    (∀ p ∈ findPlaceholders t, ∀ d, p.default? = some d →
      (∀ c ∈ d.toList, InValueAlphabet c) ∧
        ((Value.text d).isInsertable = true ↔ p.HasSoundDefault)) ∧
    ∀ (vars : QueryVars) (info : Option Info) (r : String), render t vars info = .ok r →
      ∃ texts, r = String.ofList (weave (literals t.toList) (texts.map String.toList)) ∧
        List.Forall₂ (fun p s => StandsFor vars p s ∧ (∀ c ∈ s.toList, InValueAlphabet c) ∧
          (s ≠ "" ∧ ¬ ['-', '-'] <:+: s.toList ↔
            (vars.lookup p.name).isSome ∨ p.HasSoundDefault)) (findPlaceholders t) texts := by
  constructor
  · exact fun p hmem d hdefault => Placeholder.default?_spec hmem hdefault
  · intro vars info r hrender
    obtain ⟨texts, hall, hr⟩ := render_eq_ok_iff.1 hrender
    refine ⟨texts, hr, forall₂_imp_of_mem ?_ hall⟩
    intro p hmem s hstands
    obtain ⟨hvalue, hiff⟩ := hstands.isInsertable_iff hmem
    refine ⟨hstands, hvalue, ?_⟩
    rw [← hiff, isInsertable_text_iff]
    exact ⟨fun ⟨hne, hnone⟩ => ⟨hne, hvalue, hnone⟩, fun ⟨hne, _, hnone⟩ => ⟨hne, hnone⟩⟩

theorem inserted_texts_are_insertable_unless_defaults_are_not_of_padded_default :
    let t := "\x7b$A= x \x7d \x7b$B=y--z\x7d, \x7b$C= \x7d"
    let vars : QueryVars := [("B", .text "b.1")]
    (Value.text "x").isInsertable = true ∧ (Value.text "y--z").isInsertable = false ∧
      render t vars none = .ok "x b.1, " ∧
      ∃ texts, "x b.1, " = String.ofList (weave (literals t.toList) (texts.map String.toList)) ∧
        List.Forall₂ (fun p s => StandsFor vars p s ∧ (∀ c ∈ s.toList, InValueAlphabet c) ∧
          (s ≠ "" ∧ ¬ ['-', '-'] <:+: s.toList ↔
            (vars.lookup p.name).isSome ∨ p.HasSoundDefault)) (findPlaceholders t) texts := by
  intro t vars
  have hfound : findPlaceholders t =
      [⟨"A", .preset " x "⟩, ⟨"B", .preset "y--z"⟩, ⟨"C", .preset " "⟩] := by cbv
  have hrender : render t vars none = .ok "x b.1, " := by cbv
  have hsound : Placeholder.HasSoundDefault ⟨"A", .preset " x "⟩ :=
    ⟨" x ", rfl, ⟨'x', by decide, by decide⟩, by decide⟩
  have hunsound : ¬ Placeholder.HasSoundDefault ⟨"B", .preset "y--z"⟩ := by
    rintro ⟨raw, hraw, -, hnone⟩
    obtain rfl : "y--z" = raw := Option.some.inj hraw
    exact hnone (by decide)
  obtain ⟨hdefaults, hinserted⟩ := inserted_texts_are_insertable_unless_defaults_are_not t
  rw [hfound] at hdefaults
  refine ⟨?_, ?_, hrender, hinserted vars none _ hrender⟩
  · exact (hdefaults ⟨"A", .preset " x "⟩ (by simp) "x" rfl).2.2 hsound
  · have hiff := (hdefaults ⟨"B", .preset "y--z"⟩ (by simp) "y--z" rfl).2
    exact Bool.eq_false_iff.2 fun hvalid => hunsound (hiff.1 hvalid)

/-- A default in which a comment starts is inserted although it may not be supplied. So is one of
white space alone, as the empty text. -/
theorem default_starting_comment_is_inserted :
    let t := "SELECT * FROM t ORDER BY y \x7b$DIR=ASC --x\x7d\x7b$END= \x7d"
    findPlaceholders t = [⟨"DIR", .preset "ASC --x"⟩, ⟨"END", .preset " "⟩] ∧
      Placeholder.default? ⟨"DIR", .preset "ASC --x"⟩ = some "ASC --x" ∧
      (Value.text "ASC --x").isInsertable = false ∧
      Placeholder.default? ⟨"END", .preset " "⟩ = some "" ∧ (Value.text "").isInsertable = false ∧
      render t [] none = .ok "SELECT * FROM t ORDER BY y ASC --x" := by
  intro t
  have hfound : findPlaceholders t = [⟨"DIR", .preset "ASC --x"⟩, ⟨"END", .preset " "⟩] := by cbv
  have hrender : render t [] none = .ok "SELECT * FROM t ORDER BY y ASC --x" := by cbv
  exact ⟨hfound, by decide, by decide, by decide, by decide, hrender⟩

end SqlBridge
