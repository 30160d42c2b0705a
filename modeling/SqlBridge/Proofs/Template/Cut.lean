import SqlBridge.Proofs.Template.Occurrence

namespace SqlBridge

/-- The texts between placeholders: from `pos` up to the first, from each to the next, and from the
    last to the end. -/
def literalsFrom (cs : List Char) (pos : Nat) : List Occurrence → List (List Char)
  | [] => [cs.drop pos]
  | o :: os => cs.extract pos o.start :: literalsFrom cs o.stop os

/-- The texts of a template outside its placeholders, one more than there are placeholders. -/
def literals (cs : List Char) : List (List Char) :=
  literalsFrom cs 0 (occurrences cs)

/-- The placeholders of a template as they are written. -/
def marks (cs : List Char) : List (List Char) :=
  (occurrences cs).map fun o => cs.extract o.start o.stop

/-- Literals with a text between any two neighbours. -/
def weave : List (List Char) → List (List Char) → List Char
  | [], _ => []
  | lit :: _, [] => lit
  | lit :: lits, text :: texts => lit ++ text ++ weave lits texts

theorem literalsFrom_length (cs : List Char) (pos : Nat) (os : List Occurrence) :
    (literalsFrom cs pos os).length = os.length + 1 := by
  induction os generalizing pos with
  | nil => rfl
  | cons o os ih => rw [literalsFrom, List.length_cons, ih, List.length_cons]

/-- A character that starts no placeholder belongs to the literal that begins with it. -/
private theorem literalsFrom_char {cs rest : List Char} {pos : Nat} {c : Char}
    {os : List Occurrence} (hdrop : cs.drop pos = c :: rest) (hafter : ∀ o ∈ os, pos < o.start) :
    literalsFrom cs pos os = (literalsFrom cs (pos + 1) os).modifyHead (c :: ·) := by
  have hrest : cs.drop (pos + 1) = rest := by
    rw [← List.drop_drop, hdrop]
    rfl
  cases os with
  | nil => rw [literalsFrom, literalsFrom, hdrop, hrest, List.modifyHead_cons]
  | cons o os =>
    have hlt := hafter o (by simp)
    obtain ⟨k, hk⟩ : ∃ k, o.start = pos + 1 + k := ⟨o.start - (pos + 1), by omega⟩
    have hlength : o.start - pos = k + 1 := by omega
    have hlength' : o.start - (pos + 1) = k := by omega
    rw [literalsFrom, literalsFrom, List.modifyHead_cons, List.extract_eq_take_drop,
      List.extract_eq_take_drop, hdrop, hrest, hlength, hlength', List.take_succ_cons]

private theorem weave_modifyHead {lits : List (List Char)} (hne : lits ≠ []) (c : Char)
    (texts : List (List Char)) :
    weave (lits.modifyHead (c :: ·)) texts = c :: weave lits texts := by
  cases lits with
  | nil => exact absurd rfl hne
  | cons lit lits => cases texts <;> simp [weave]

/-- The literals of pieces that stand in a text after `before`. -/
private def pieceLiterals (before : List Char) (pieces : List Piece) : List (List Char) :=
  literalsFrom (before ++ sourceOf pieces) before.length (occurrencesFrom before.length pieces)

private theorem pieceLiterals_nil (before : List Char) : pieceLiterals before [] = [[]] := by
  simp [pieceLiterals, occurrencesFrom, literalsFrom]

private theorem pieceLiterals_char (before : List Char) (c : Char) (pieces : List Piece) :
    pieceLiterals before (.char c :: pieces) =
      (pieceLiterals (before ++ [c]) pieces).modifyHead (c :: ·) := by
  have hlength : (before ++ [c]).length = before.length + 1 := by simp
  have hcs : before ++ [c] ++ sourceOf pieces = before ++ sourceOf (.char c :: pieces) := by
    simp [Piece.source]
  have hdrop : (before ++ sourceOf (.char c :: pieces)).drop before.length =
      c :: sourceOf pieces := by
    simp [Piece.source]
  have hafter : ∀ o ∈ occurrencesFrom (before.length + 1) pieces, before.length < o.start :=
    fun _ hmem => le_start_of_mem_occurrencesFrom hmem
  unfold pieceLiterals
  rw [hlength, hcs, occurrencesFrom, literalsFrom_char hdrop hafter]

private theorem pieceLiterals_hole (before : List Char) (p : Placeholder) (gap : List Char)
    (pieces : List Piece) :
    pieceLiterals before (.hole p gap :: pieces) =
      [] :: pieceLiterals (before ++ p.source gap) pieces := by
  have hcs : before ++ p.source gap ++ sourceOf pieces =
      before ++ sourceOf (.hole p gap :: pieces) := by
    simp [Piece.source]
  have hempty : (before ++ sourceOf (.hole p gap :: pieces)).extract before.length before.length =
      [] := by
    simp [List.extract_eq_take_drop]
  unfold pieceLiterals
  rw [occurrencesFrom, literalsFrom, hempty, List.length_append, hcs]

/-- The runs of characters before, between and after the placeholders among pieces. -/
def Piece.literals : List Piece → List (List Char)
  | [] => [[]]
  | .char c :: pieces => (Piece.literals pieces).modifyHead (c :: ·)
  | .hole _ _ :: pieces => [] :: Piece.literals pieces

private theorem pieceLiterals_eq (before : List Char) (pieces : List Piece) :
    pieceLiterals before pieces = Piece.literals pieces := by
  induction pieces generalizing before with
  | nil => exact pieceLiterals_nil before
  | cons piece pieces ih =>
    cases piece with
    | char c => rw [pieceLiterals_char, ih, Piece.literals]
    | hole p gap => rw [pieceLiterals_hole, ih, Piece.literals]

/-- The literals of a template are those of the pieces that the scan cuts it into. -/
theorem literals_eq_piece_literals (cs : List Char) : literals cs = Piece.literals (scan cs) := by
  rw [← pieceLiterals_eq []]
  simp [pieceLiterals, sourceOf_scan, literals, occurrences]

private theorem weave_literals_char (c : Char) (pieces : List Piece) (texts : List (List Char)) :
    weave (Piece.literals (.char c :: pieces)) texts = c :: weave (Piece.literals pieces) texts := by
  refine weave_modifyHead ?_ c texts
  rw [← pieceLiterals_eq [], pieceLiterals, ← List.length_pos_iff, literalsFrom_length]
  omega

private theorem weave_literals_holes (before : List Char) (pieces : List Piece) :
    weave (Piece.literals pieces) ((occurrencesFrom before.length pieces).map
      fun o => (before ++ sourceOf pieces).extract o.start o.stop) = sourceOf pieces := by
  induction pieces generalizing before with
  | nil => rfl
  | cons piece pieces ih =>
    cases piece with
    | char c =>
      have ih := ih (before ++ [c])
      rw [List.length_append, List.length_singleton, List.append_assoc] at ih
      rw [weave_literals_char, sourceOf_cons, occurrencesFrom, Piece.source, ih,
        List.singleton_append]
    | hole p gap =>
      have ih := ih (before ++ p.source gap)
      rw [List.length_append, List.append_assoc] at ih
      rw [Piece.literals, sourceOf_cons, occurrencesFrom, List.map_cons, weave, Piece.source, ih]
      simp [List.extract_eq_take_drop]

/-- Cutting a template at its placeholders loses nothing. -/
theorem weave_literals_marks (cs : List Char) : weave (literals cs) (marks cs) = cs := by
  have hweave := weave_literals_holes [] (scan cs)
  rwa [List.length_nil, List.nil_append, sourceOf_scan, ← literals_eq_piece_literals] at hweave

private theorem fill_eq (vars : QueryVars) (pieces : List Piece) :
    fill vars pieces = ((pieces.filterMap Piece.placeholder?).mapM (Placeholder.resolve · vars)).map
      fun texts => weave (Piece.literals pieces) (texts.map String.toList) := by
  induction pieces with
  | nil => rfl
  | cons piece pieces ih =>
    cases piece with
    | char c =>
      have hholes : (Piece.char c :: pieces).filterMap Piece.placeholder? =
          pieces.filterMap Piece.placeholder? := rfl
      rw [fill, ih, hholes]
      simp only [weave_literals_char]
      cases (pieces.filterMap Piece.placeholder?).mapM (Placeholder.resolve · vars) <;> rfl
    | hole p gap =>
      have hholes : (Piece.hole p gap :: pieces).filterMap Piece.placeholder? =
          p :: pieces.filterMap Piece.placeholder? := rfl
      rw [fill, ih, Piece.literals, hholes, List.mapM_cons]
      cases p.resolve vars with
      | error e => rfl
      | ok s => cases (pieces.filterMap Piece.placeholder?).mapM (Placeholder.resolve · vars) <;> rfl

/-- Substitution resolves the placeholders that are found, one by one, and puts the texts in their
    place; everything else of the template is kept. -/
theorem substitute_eq (t : String) (vars : QueryVars) :
    substitute t vars = ((findPlaceholders t).mapM (Placeholder.resolve · vars)).map
      fun texts => String.ofList (weave (literals t.toList) (texts.map String.toList)) := by
  rw [substitute, fill_eq, ← literals_eq_piece_literals, findPlaceholders]
  cases ((scan t.toList).filterMap Piece.placeholder?).mapM (Placeholder.resolve · vars) <;> rfl

/-- The scan finds all texts of the form of a placeholder and nothing else. Where such a text starts
    it is read in one way only, no two of them overlap, they are listed from left to right, and
    substitution replaces just these. -/
theorem scan_finds_exactly_placeholderTexts (t : String) :
    (∀ o : Occurrence, o ∈ occurrences t.toList ↔ o.LiesIn t.toList) ∧
    (∀ o o' : Occurrence, o.LiesIn t.toList → o'.LiesIn t.toList → o.start = o'.start → o = o') ∧
    (∀ o o' : Occurrence, o.LiesIn t.toList → o'.LiesIn t.toList → o.start < o'.start →
      o.stop ≤ o'.start) ∧
    (occurrences t.toList).Pairwise (fun o o' => o.start < o'.start) ∧
    findPlaceholders t = (occurrences t.toList).map Occurrence.placeholder ∧
    ∀ vars, substitute t vars = ((findPlaceholders t).mapM (Placeholder.resolve · vars)).map
      fun texts => String.ofList (weave (literals t.toList) (texts.map String.toList)) := by
  refine ⟨fun o => mem_occurrences_iff, ?_, ?_, occurrences_increasing t.toList,
    findPlaceholders_eq_map t, substitute_eq t⟩
  · intro o o' hin hin' hstart
    exact hin.eq_of_start_eq hin' hstart
  · intro o o' hin hin' hlt
    exact hin.stop_le_start hin' hlt

example : occurrences "\x7b$A\x7b$B\x7d\x7b$C = x\x7d".toList =
    [⟨3, 7, ⟨"B", .absent⟩⟩, ⟨7, 15, ⟨"C", .preset " x"⟩⟩] := by
  cbv

end SqlBridge
