import SqlBridge.Proofs.Template.Grammar
import SqlBridge.Template.Substitute

namespace SqlBridge

/-- A placeholder of a text with the indices at which its written form starts and stops. -/
structure Occurrence where
  start : Nat
  stop : Nat
  placeholder : Placeholder
deriving DecidableEq, Repr

/-- The text has a written form of the placeholder between the two indices. -/
def Occurrence.LiesIn (o : Occurrence) (cs : List Char) : Prop :=
  ∃ text, PlaceholderText text o.placeholder ∧ text <+: cs.drop o.start ∧
    o.stop = o.start + text.length

namespace Occurrence.LiesIn

variable {o o' : Occurrence} {cs : List Char}

theorem start_lt_stop (hin : o.LiesIn cs) : o.start < o.stop := by
  obtain ⟨text, htext, _, hstop⟩ := hin
  obtain ⟨body, rfl, _⟩ := htext.eq_cons
  simp only [List.length_cons] at hstop
  omega

theorem getElem_start (hin : o.LiesIn cs) : cs[o.start]? = some '{' := by
  obtain ⟨text, htext, hbegins, _⟩ := hin
  obtain ⟨body, rfl, _⟩ := htext.eq_cons
  have hget := List.prefix_iff_getElem?.1 hbegins 0 (by simp)
  simpa using hget

theorem getElem_inside (hin : o.LiesIn cs) {i : Nat} (hlo : o.start < i) (hhi : i < o.stop) :
    cs[i]? ≠ some '{' := by
  obtain ⟨text, htext, hbegins, hstop⟩ := hin
  obtain ⟨body, rfl, hbody⟩ := htext.eq_cons
  obtain ⟨k, rfl⟩ : ∃ k, i = o.start + (k + 1) := ⟨i - o.start - 1, by omega⟩
  have hk : k < body.length := by
    simp only [List.length_cons] at hstop
    omega
  have hget := List.prefix_iff_getElem?.1 hbegins (k + 1) (by simpa using hk)
  rw [List.getElem?_drop, List.getElem_cons_succ] at hget
  rw [hget]
  intro heq
  rw [Option.some.injEq] at heq
  exact hbody (heq ▸ List.getElem_mem hk)

theorem placeholderText_extract (hin : o.LiesIn cs) :
    PlaceholderText (cs.extract o.start o.stop) o.placeholder := by
  obtain ⟨text, htext, hbegins, hstop⟩ := hin
  have hlength : o.stop - o.start = text.length := by omega
  rw [List.extract_eq_take_drop, hlength, ← List.prefix_iff_eq_take.1 hbegins]
  exact htext

theorem eq_of_start_eq (hin : o.LiesIn cs) (hin' : o'.LiesIn cs) (hstart : o.start = o'.start) :
    o = o' := by
  obtain ⟨text, htext, hbegins, hstop⟩ := hin
  obtain ⟨text', htext', hbegins', hstop'⟩ := hin'
  rw [← hstart] at hbegins'
  obtain ⟨rfl, hplaceholder⟩ := htext.unique htext' hbegins hbegins'
  cases o
  cases o'
  simp_all

/-- Two placeholders of a text never overlap: the later one opens with a brace, and no brace opens
    inside the earlier one. -/
theorem stop_le_start (hin : o.LiesIn cs) (hin' : o'.LiesIn cs) (hlt : o.start < o'.start) :
    o.stop ≤ o'.start := by
  refine Nat.le_of_not_lt fun hgt => ?_
  exact hin.getElem_inside hlt hgt hin'.getElem_start

end Occurrence.LiesIn

/-- The placeholders among pieces of which the first starts at `pos`. -/
def occurrencesFrom (pos : Nat) : List Piece → List Occurrence
  | [] => []
  | .char _ :: pieces => occurrencesFrom (pos + 1) pieces
  | .hole p gap :: pieces =>
    ⟨pos, pos + (p.source gap).length, p⟩ :: occurrencesFrom (pos + (p.source gap).length) pieces

/-- The placeholders of a text with their places. -/
def occurrences (cs : List Char) : List Occurrence :=
  occurrencesFrom 0 (scan cs)

/-- Nothing is passed over: from any place of a text on, the scan meets exactly the placeholders
    that start there or later. -/
theorem mem_occurrencesFrom_scan (before cs : List Char) (o : Occurrence) :
    o ∈ occurrencesFrom before.length (scan cs) ↔
      before.length ≤ o.start ∧ o.LiesIn (before ++ cs) := by
  -- `before` is what the scan has passed, so that all places are counted in the whole text.
  induction cs using scan.induct generalizing before with
  | case1 cs p gap rest hread ih =>
    have hsource := holeAt_source hread
    have ih := ih (before ++ p.source gap)
    rw [List.length_append, List.append_assoc, hsource] at ih
    have hfirst : (⟨before.length, before.length + (p.source gap).length, p⟩ : Occurrence).LiesIn
        (before ++ cs) :=
      ⟨_, placeholderText_of_holeAt hread, by simpa using ⟨rest, hsource⟩, rfl⟩
    rw [scan_of_holeAt hread, occurrencesFrom, List.mem_cons, ih]
    constructor
    · rintro (rfl | ⟨hle, hin⟩)
      · exact ⟨Nat.le_refl _, hfirst⟩
      · exact ⟨by omega, hin⟩
    · rintro ⟨hle, hin⟩
      rcases Nat.eq_or_lt_of_le hle with heq | hlt
      · exact .inl (hin.eq_of_start_eq hfirst heq.symm)
      · exact .inr ⟨hfirst.stop_le_start hin hlt, hin⟩
  | case2 =>
    rw [scan_nil, occurrencesFrom]
    constructor
    · intro hmem
      cases hmem
    · rintro ⟨hle, hin⟩
      have hget := hin.getElem_start
      rw [List.append_nil, List.getElem?_eq_none hle] at hget
      cases hget
  | case3 c rest hread ih =>
    have ih := ih (before ++ [c])
    rw [List.length_append, List.length_singleton, List.append_assoc, List.singleton_append] at ih
    rw [scan_cons_of_none hread, occurrencesFrom, ih]
    refine and_congr_left fun hin => ⟨fun hle => by omega, fun hle => ?_⟩
    rcases Nat.eq_or_lt_of_le hle with heq | hlt
    · obtain ⟨text, htext, hbegins, _⟩ := hin
      rw [← heq, List.drop_left] at hbegins
      exact absurd hbegins (holeAt_eq_none_iff.1 hread text _ htext)
    · exact hlt

theorem mem_occurrences_iff {cs : List Char} {o : Occurrence} :
    o ∈ occurrences cs ↔ o.LiesIn cs := by
  simpa [occurrences] using mem_occurrencesFrom_scan [] cs o

theorem le_start_of_mem_occurrencesFrom {pos : Nat} {pieces : List Piece} {o : Occurrence}
    (hmem : o ∈ occurrencesFrom pos pieces) : pos ≤ o.start := by
  induction pieces generalizing pos with
  | nil => cases hmem
  | cons piece pieces ih =>
    cases piece with
    | char c =>
      have hle := ih hmem
      omega
    | hole p gap =>
      rcases List.mem_cons.1 hmem with rfl | hmem
      · exact Nat.le_refl _
      · have hle := ih hmem
        omega

theorem occurrencesFrom_pairwise (pos : Nat) (pieces : List Piece) :
    (occurrencesFrom pos pieces).Pairwise fun o o' => o.stop ≤ o'.start := by
  induction pieces generalizing pos with
  | nil => exact .nil
  | cons piece pieces ih =>
    cases piece with
    | char c => exact ih (pos + 1)
    | hole p gap => exact .cons (fun _ hmem => le_start_of_mem_occurrencesFrom hmem) (ih _)

theorem occurrences_increasing (cs : List Char) :
    (occurrences cs).Pairwise fun o o' => o.start < o'.start := by
  refine (occurrencesFrom_pairwise 0 (scan cs)).imp_of_mem ?_
  intro o o' hmem _ hle
  exact Nat.lt_of_lt_of_le (mem_occurrences_iff.1 hmem).start_lt_stop hle

theorem map_placeholder_occurrencesFrom (pos : Nat) (pieces : List Piece) :
    (occurrencesFrom pos pieces).map Occurrence.placeholder =
      pieces.filterMap Piece.placeholder? := by
  induction pieces generalizing pos with
  | nil => rfl
  | cons piece pieces ih =>
    cases piece with
    | char c => exact ih (pos + 1)
    | hole p gap =>
      rw [occurrencesFrom, List.map_cons, ih]
      rfl

theorem findPlaceholders_eq_map (t : String) :
    findPlaceholders t = (occurrences t.toList).map Occurrence.placeholder :=
  (map_placeholder_occurrencesFrom 0 _).symm

end SqlBridge
