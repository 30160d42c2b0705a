import SqlBridge.Template

namespace SqlBridge

open Text

/-- The end of a placeholder after its name: what was assigned, the white space before the equals
    sign, and the text after the closing brace. -/
def assignmentAt? (cs : List Char) : Option (Assignment × List Char × List Char) :=
  match cs with
  | '}' :: rest => some (.absent, [], rest)
  | _ =>
    match cs.dropWhile isBlank with
    | '=' :: after =>
      match after.dropWhile isValueChar with
      | '}' :: rest =>
        let raw := after.takeWhile isValueChar
        some (if raw.isEmpty then .bare else .preset (String.ofList raw),
          cs.takeWhile isBlank, rest)
      | _ => none
    | _ => none

/-- The placeholder with which a text begins, and the text after it. -/
def holeAt? : List Char → Option (Placeholder × List Char × List Char)
  | '{' :: '$' :: cs =>
    if (cs.takeWhile isNameChar).isEmpty then none
    else
      (assignmentAt? (cs.dropWhile isNameChar)).map fun (assignment, gap, rest) =>
        (⟨String.ofList (cs.takeWhile isNameChar), assignment⟩, gap, rest)
  | _ => none

/-- A text is the written form of the end of a placeholder read from it and what follows. -/
theorem assignmentAt_source {cs : List Char} {a : Assignment} {gap rest : List Char}
    (hread : assignmentAt? cs = some (a, gap, rest)) (name : String) :
    (Placeholder.mk name a).source gap ++ rest = '{' :: '$' :: name.toList ++ cs := by
  unfold assignmentAt? at hread
  split at hread
  · simp only [Option.some.injEq, Prod.mk.injEq] at hread
    obtain ⟨rfl, rfl, rfl⟩ := hread
    simp [Placeholder.source]
  · split at hread
    · rename_i after hafter
      split at hread
      · rename_i tail htail
        simp only [Option.some.injEq, Prod.mk.injEq] at hread
        obtain ⟨rfl, rfl, rfl⟩ := hread
        have houter : cs = cs.takeWhile isBlank ++ '=' :: after := by
          rw [← hafter, List.takeWhile_append_dropWhile]
        have hinner : after = after.takeWhile isValueChar ++ '}' :: tail := by
          rw [← htail, List.takeWhile_append_dropWhile]
        split
        · rename_i hempty
          rw [List.isEmpty_iff.1 hempty, List.nil_append] at hinner
          conv => rhs; rw [houter, hinner]
          simp [Placeholder.source]
        · conv => rhs; rw [houter, hinner]
          simp [Placeholder.source]
      · simp at hread
    · simp at hread

/-- A text that begins with a placeholder is the written form of it and what follows. -/
theorem holeAt_source {cs : List Char} {p : Placeholder} {gap rest : List Char}
    (hread : holeAt? cs = some (p, gap, rest)) : p.source gap ++ rest = cs := by
  unfold holeAt? at hread
  split at hread
  · rename_i tail
    split at hread
    · simp at hread
    · obtain ⟨⟨a, g, r⟩, hassign, heq⟩ := Option.map_eq_some_iff.1 hread
      simp only [Prod.mk.injEq] at heq
      obtain ⟨rfl, rfl, rfl⟩ := heq
      rw [assignmentAt_source hassign]
      simp [List.takeWhile_append_dropWhile]
  · simp at hread

theorem holeAt_rest_length {cs : List Char} {p : Placeholder} {gap rest : List Char}
    (hread : holeAt? cs = some (p, gap, rest)) : rest.length < cs.length := by
  rw [← holeAt_source hread, List.length_append]
  simp only [Placeholder.source, List.cons_append, List.length_cons, List.length_append]
  omega

/-- The pieces of a text. Where no placeholder begins, one character is passed over. -/
def scan (cs : List Char) : List Piece :=
  match _hhole : holeAt? cs with
  | some (p, gap, rest) => .hole p gap :: scan rest
  | none =>
    match cs with
    | [] => []
    | c :: rest => .char c :: scan rest
termination_by cs.length
decreasing_by
  · exact holeAt_rest_length _hhole
  · simp

/-- The placeholders of a template from left to right. -/
def findPlaceholders (template : String) : List Placeholder :=
  (scan template.toList).filterMap Piece.placeholder?

@[simp] theorem scan_nil : scan [] = [] := by
  rw [scan]
  rfl

theorem scan_of_holeAt {cs : List Char} {p : Placeholder} {gap rest : List Char}
    (hread : holeAt? cs = some (p, gap, rest)) : scan cs = .hole p gap :: scan rest := by
  rw [scan]
  split
  · rename_i hother
    rw [hread, Option.some.injEq, Prod.mk.injEq, Prod.mk.injEq] at hother
    obtain ⟨rfl, rfl, rfl⟩ := hother
    rfl
  · rename_i hother
    rw [hread] at hother
    cases hother

theorem scan_cons_of_none {c : Char} {cs : List Char} (hread : holeAt? (c :: cs) = none) :
    scan (c :: cs) = .char c :: scan cs := by
  rw [scan]
  split
  · rename_i hother
    rw [hread] at hother
    cases hother
  · rfl

/-- Scanning loses nothing: the pieces spell out the text. -/
theorem sourceOf_scan (cs : List Char) : sourceOf (scan cs) = cs := by
  induction cs using scan.induct with
  | case1 cs p gap rest hread ih =>
    rw [scan_of_holeAt hread, sourceOf_cons, ih, Piece.source, holeAt_source hread]
  | case2 => simp
  | case3 c rest hread ih =>
    rw [scan_cons_of_none hread, sourceOf_cons, ih, Piece.source, List.singleton_append]

end SqlBridge
