import SqlBridge.Proofs.Template.Alphabet
import SqlBridge.Template.Scan

namespace SqlBridge

open Text

/-- What may be written between the name of a placeholder and its closing brace: nothing, or an
    equals sign with white space before it and possibly a default after it. With it stands whether
    the equals sign is there, and the default. -/
inductive AssignmentText : List Char → Bool → Option String → Prop where
  | absent : AssignmentText [] false none
  | bare {gap : List Char} (hgap : ∀ c ∈ gap, isBlank c = true) :
      AssignmentText (gap ++ ['=']) true none
  | preset {gap raw : List Char} (hgap : ∀ c ∈ gap, isBlank c = true) (hne : raw ≠ [])
      (hraw : ∀ c ∈ raw, InValueAlphabet c) :
      AssignmentText (gap ++ '=' :: raw) true (some (String.ofList raw))

/-- The written forms of a placeholder. -/
inductive PlaceholderText : List Char → Placeholder → Prop where
  | intro {name tail : List Char} {p : Placeholder} (hp : p.name = String.ofList name)
      (hne : name ≠ []) (hname : ∀ c ∈ name, InNameAlphabet c)
      (htail : AssignmentText tail p.hasEquals p.rawDefault?) :
      PlaceholderText ('{' :: '$' :: name ++ tail ++ ['}']) p

private theorem isNameChar_eq_false_of_isBlank {c : Char} (hc : isBlank c = true) :
    isNameChar c = false := by
  rw [Bool.eq_false_iff]
  intro hname
  have hblank := (isNameChar_iff.1 hname).isBlank_eq_false
  rw [hc] at hblank
  cases hblank

/-- A run that ends where the text after the name begins is a whole name. -/
private theorem AssignmentText.head_not_isNameChar {tail : List Char} {equals : Bool}
    {raw : Option String} (htail : AssignmentText tail equals raw) (rest : List Char) :
    ∃ c cs, tail ++ '}' :: rest = c :: cs ∧ isNameChar c = false := by
  have gapped {gap : List Char} (hgap : ∀ c ∈ gap, isBlank c = true) (after : List Char) :
      ∃ c cs, gap ++ '=' :: after = c :: cs ∧ isNameChar c = false := by
    cases gap with
    | nil => exact ⟨'=', after, rfl, by decide⟩
    | cons c gap =>
      exact ⟨c, gap ++ '=' :: after, rfl, isNameChar_eq_false_of_isBlank (hgap c (by simp))⟩
  cases htail with
  | absent => exact ⟨'}', rest, rfl, by decide⟩
  | bare hgap => simpa using gapped hgap ('}' :: rest)
  | preset hgap _ _ => simpa using gapped hgap (_ ++ '}' :: rest)

/-- The white space before an equals sign and the run of value characters after it are read whole,
    although blanks and equals signs are value characters too. -/
theorem assignmentAt_append {gap raw : List Char} (hgap : ∀ c ∈ gap, isBlank c = true)
    (hraw : ∀ c ∈ raw, InValueAlphabet c) (rest : List Char) :
    assignmentAt? (gap ++ '=' :: (raw ++ '}' :: rest)) =
      some (if raw.isEmpty then .bare else .preset (String.ofList raw), gap, rest) := by
  have hvalue : ∀ c ∈ raw, isValueChar c = true := fun c hc => isValueChar_iff.2 (hraw c hc)
  have heq : isBlank '=' = false := by decide
  have hbrace : isValueChar '}' = false := by decide
  unfold assignmentAt?
  split
  -- A closing brace at once is ruled out: it is neither white space nor an equals sign.
  · rename_i tail hbegin
    cases gap with
    | nil => simp at hbegin
    | cons c gap =>
      simp only [List.cons_append, List.cons.injEq] at hbegin
      have hblank := hgap c (by simp)
      rw [hbegin.1] at hblank
      exact absurd hblank (by decide)
  · simp [List.dropWhile_append_of_pos hgap, List.takeWhile_append_of_pos hgap, heq, hbrace,
      List.dropWhile_append_of_pos hvalue, List.takeWhile_append_of_pos hvalue]

private theorem AssignmentText.exists_assignmentAt {tail : List Char} {p : Placeholder}
    (htail : AssignmentText tail p.hasEquals p.rawDefault?) (rest : List Char) :
    ∃ gap, assignmentAt? (tail ++ '}' :: rest) = some (p.assignment, gap, rest) := by
  obtain ⟨name, a⟩ := p
  cases a with
  | absent =>
    have htail : AssignmentText tail false none := htail
    cases htail with
    | absent => exact ⟨[], rfl⟩
  | bare =>
    have htail : AssignmentText tail true none := htail
    cases htail with
    | @bare gap hgap =>
      exact ⟨gap, by simpa using @assignmentAt_append gap [] hgap (by simp) rest⟩
  | preset raw =>
    have htail : AssignmentText tail true (some raw) := htail
    cases htail with
    | @preset gap raw hgap hne hraw =>
      have hread := assignmentAt_append hgap hraw rest
      rw [if_neg (by simpa using hne)] at hread
      exact ⟨gap, by simpa using hread⟩

/-- Every written form of a placeholder is read back, whatever text follows it. -/
theorem PlaceholderText.exists_holeAt {text : List Char} {p : Placeholder}
    (htext : PlaceholderText text p) (rest : List Char) :
    ∃ gap, holeAt? (text ++ rest) = some (p, gap, rest) := by
  cases htext with
  | @intro name tail _ hp hne hname htail =>
    have hrun : ∀ c ∈ name, isNameChar c = true := fun c hc => isNameChar_iff.2 (hname c hc)
    obtain ⟨gap, hassign⟩ := htail.exists_assignmentAt rest
    obtain ⟨c, cs, hhead, hc⟩ := htail.head_not_isNameChar rest
    have htake : (name ++ (tail ++ '}' :: rest)).takeWhile isNameChar = name := by
      rw [List.takeWhile_append_of_pos hrun, hhead, List.takeWhile_cons_of_neg (by simp [hc]),
        List.append_nil]
    have hdrop : (name ++ (tail ++ '}' :: rest)).dropWhile isNameChar = tail ++ '}' :: rest := by
      rw [List.dropWhile_append_of_pos hrun, hhead, List.dropWhile_cons_of_neg (by simp [hc])]
    have hcs : '{' :: '$' :: name ++ tail ++ ['}'] ++ rest =
        '{' :: '$' :: (name ++ (tail ++ '}' :: rest)) := by simp
    refine ⟨gap, ?_⟩
    rw [hcs, holeAt?, htake, hdrop, hassign, if_neg (by simpa using hne), Option.map_some, ← hp]

private theorem assignmentText_of_assignmentAt {cs : List Char} {a : Assignment}
    {gap rest : List Char} (hread : assignmentAt? cs = some (a, gap, rest)) (name : String) :
    ∃ tail, AssignmentText tail (Placeholder.mk name a).hasEquals (Placeholder.mk name a).rawDefault? ∧
      (Placeholder.mk name a).source gap = '{' :: '$' :: name.toList ++ tail ++ ['}'] := by
  unfold assignmentAt? at hread
  split at hread
  · simp only [Option.some.injEq, Prod.mk.injEq] at hread
    obtain ⟨rfl, rfl, rfl⟩ := hread
    exact ⟨[], .absent, rfl⟩
  · split at hread
    · rename_i after _
      split at hread
      · simp only [Option.some.injEq, Prod.mk.injEq] at hread
        obtain ⟨rfl, rfl, rfl⟩ := hread
        have hgap : ∀ c ∈ cs.takeWhile isBlank, isBlank c = true := fun c hc =>
          List.mem_takeWhile_imp hc
        have hraw : ∀ c ∈ after.takeWhile isValueChar, InValueAlphabet c := fun c hc =>
          isValueChar_iff.1 (List.mem_takeWhile_imp hc)
        split
        · exact ⟨_, .bare hgap, by simp [Placeholder.source]⟩
        · rename_i hne
          exact ⟨_, .preset hgap (by simpa using hne) hraw, by simp [Placeholder.source]⟩
      · cases hread
    · cases hread

/-- What is read as a placeholder is one of its written forms. -/
theorem placeholderText_of_holeAt {cs : List Char} {p : Placeholder} {gap rest : List Char}
    (hread : holeAt? cs = some (p, gap, rest)) : PlaceholderText (p.source gap) p := by
  unfold holeAt? at hread
  split at hread
  · rename_i tail
    split at hread
    · cases hread
    · rename_i hne
      obtain ⟨⟨a, g, r⟩, hassign, heq⟩ := Option.map_eq_some_iff.1 hread
      simp only [Prod.mk.injEq] at heq
      obtain ⟨rfl, rfl, rfl⟩ := heq
      obtain ⟨assigned, htail, hsource⟩ := assignmentText_of_assignmentAt hassign
        (String.ofList (tail.takeWhile isNameChar))
      rw [hsource, String.toList_ofList]
      refine .intro rfl (by simpa using hne) (fun c hc => ?_) htail
      exact isNameChar_iff.1 (List.mem_takeWhile_imp hc)
  · cases hread

theorem holeAt_eq_none_iff {cs : List Char} :
    holeAt? cs = none ↔ ∀ text p, PlaceholderText text p → ¬ text <+: cs := by
  constructor
  · rintro hnone text p htext ⟨rest, rfl⟩
    obtain ⟨gap, hread⟩ := htext.exists_holeAt rest
    rw [hnone] at hread
    cases hread
  · intro hnot
    cases hread : holeAt? cs with
    | none => rfl
    | some found =>
      obtain ⟨p, gap, rest⟩ := found
      exact absurd ⟨rest, holeAt_source hread⟩ (hnot _ p (placeholderText_of_holeAt hread))

/-- A text begins with at most one placeholder, and the placeholder ends at one place only. -/
theorem PlaceholderText.unique {cs text text' : List Char} {p p' : Placeholder}
    (htext : PlaceholderText text p) (htext' : PlaceholderText text' p')
    (hbegins : text <+: cs) (hbegins' : text' <+: cs) : text = text' ∧ p = p' := by
  obtain ⟨rest, rfl⟩ := hbegins
  obtain ⟨rest', heq⟩ := hbegins'
  obtain ⟨gap, hread⟩ := htext.exists_holeAt rest
  obtain ⟨gap', hread'⟩ := htext'.exists_holeAt rest'
  rw [heq, hread, Option.some.injEq, Prod.mk.injEq, Prod.mk.injEq] at hread'
  obtain ⟨rfl, -, rfl⟩ := hread'
  exact ⟨(List.append_cancel_right heq).symm, rfl⟩

private theorem AssignmentText.not_mem_open {tail : List Char} {equals : Bool}
    {raw : Option String} (htail : AssignmentText tail equals raw) : '{' ∉ tail := by
  have hblank {gap : List Char} (hgap : ∀ c ∈ gap, isBlank c = true) : '{' ∉ gap := fun hmem =>
    absurd (hgap _ hmem) (by decide)
  cases htail with
  | absent => simp
  | bare hgap => simpa using hblank hgap
  | preset hgap _ hraw =>
    have hvalue := fun hmem => not_inValueAlphabet (by simp) (hraw '{' hmem)
    simpa using ⟨hblank hgap, hvalue⟩

/-- Only the first character of a placeholder opens one. -/
theorem PlaceholderText.eq_cons {text : List Char} {p : Placeholder}
    (htext : PlaceholderText text p) : ∃ body, text = '{' :: body ∧ '{' ∉ body := by
  cases htext with
  | intro _ _ hname htail =>
    refine ⟨_, rfl, ?_⟩
    have hrun := fun hmem => not_inNameAlphabet (by simp) (hname '{' hmem)
    simpa using ⟨hrun, htail.not_mem_open⟩

theorem PlaceholderText.rawDefault_spec {text : List Char} {p : Placeholder}
    (htext : PlaceholderText text p) {raw : String} (hraw : p.rawDefault? = some raw) :
    raw ≠ "" ∧ ∀ c ∈ raw.toList, InValueAlphabet c := by
  cases htext with
  | intro _ _ _ htail =>
    generalize p.hasEquals = equals at htail
    rw [hraw] at htail
    cases htail with
    | preset _ hne hvalue =>
      refine ⟨fun hempty => hne ?_, by simpa using hvalue⟩
      simpa using congrArg String.toList hempty

end SqlBridge
