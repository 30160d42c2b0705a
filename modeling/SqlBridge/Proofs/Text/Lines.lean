import Mathlib
import SqlBridge.Text.Blank
import SqlBridge.Text.Line

namespace SqlBridge.Text

variable {line ending rest cs : List Char} {ls : List (List Char)}

/-- What ends a line when `rest` stands behind it: a carriage return and a line feed together, or one
line break that is not the first of these two. -/
inductive IsLineEnd (rest : List Char) : List Char → Prop where
  | pair : IsLineEnd rest ['\r', '\n']
  | single {c : Char} (hbreak : isLineBreak c = true)
      (hlone : c = '\r' → rest.head? ≠ some '\n') : IsLineEnd rest [c]

/-- The lines of a text: runs without line breaks, each with a line end behind it. The last run may
stand without one, unless it is empty. -/
inductive SplitsInto : List Char → List (List Char) → Prop where
  | nil : SplitsInto [] []
  | last {line : List Char} (hne : line ≠ []) (hline : ∀ c ∈ line, isLineBreak c = false) :
      SplitsInto line [line]
  | cons {line ending rest : List Char} {ls : List (List Char)}
      (hline : ∀ c ∈ line, isLineBreak c = false) (hending : IsLineEnd rest ending)
      (hrest : SplitsInto rest ls) : SplitsInto (line ++ ending ++ rest) (line :: ls)

theorem isBlank_of_isLineBreak {c : Char} (hc : isLineBreak c = true) : isBlank c = true := by
  simp only [isLineBreak, isBlank, Bool.or_eq_true, Bool.and_eq_true, decide_eq_true_eq,
    beq_iff_eq] at hc ⊢
  omega

/-- A character that breaks no line belongs to the line that begins with it. -/
theorem lines_cons_of_not_isLineBreak {c : Char} (hc : isLineBreak c = false) :
    lines (c :: cs) = match lines cs with
      | [] => [[c]]
      | line :: rest => (c :: line) :: rest := by
  have hreturn : c ≠ '\r' := by
    rintro rfl
    cases hc
  rw [lines, hc]
  · rfl
  · simp [hreturn]

theorem lines_append_end (hline : ∀ c ∈ line, isLineBreak c = false)
    (hending : IsLineEnd rest ending) : lines (line ++ ending ++ rest) = line :: lines rest := by
  induction line with
  | nil =>
    cases hending with
    | pair => rfl
    | @single c hbreak hlone =>
      rw [List.nil_append, List.singleton_append, lines, hbreak]
      · rfl
      · rintro cs rfl rfl
        exact hlone rfl rfl
  | cons c line ih =>
    obtain ⟨hc, hline⟩ := List.forall_mem_cons.1 hline
    rw [List.cons_append, List.cons_append, lines_cons_of_not_isLineBreak hc, ih hline]

theorem lines_append_newline (hline : ∀ c ∈ line, isLineBreak c = false) (rest : List Char) :
    lines (line ++ '\n' :: rest) = line :: lines rest := by
  have hending : IsLineEnd rest ['\n'] := .single (by decide) (by simp)
  have hlines := lines_append_end hline hending
  rwa [List.append_assoc, List.singleton_append] at hlines

theorem lines_eq_singleton (hline : ∀ c ∈ line, isLineBreak c = false) (hne : line ≠ []) :
    lines line = [line] := by
  induction line with
  | nil => exact absurd rfl hne
  | cons c line ih =>
    obtain ⟨hc, hline⟩ := List.forall_mem_cons.1 hline
    rw [lines_cons_of_not_isLineBreak hc]
    cases line with
    | nil => rfl
    | cons d line => rw [ih hline (by simp)]

/-- Lines that hold no line break are found again in front of what follows them. -/
theorem lines_flatMap_append (hls : ∀ line ∈ ls, ∀ c ∈ line, isLineBreak c = false)
    (rest : List Char) : lines (ls.flatMap (· ++ ['\n']) ++ rest) = ls ++ lines rest := by
  induction ls with
  | nil => rfl
  | cons line ls ih =>
    obtain ⟨hline, hls⟩ := List.forall_mem_cons.1 hls
    rw [List.flatMap_cons, List.append_assoc, List.append_assoc, List.singleton_append,
      lines_append_newline hline, ih hls, List.cons_append]

theorem splitsInto_nil_cons (hending : IsLineEnd rest ending) (hrest : SplitsInto rest ls) :
    SplitsInto (ending ++ rest) ([] :: ls) := by
  have hempty : ∀ c ∈ ([] : List Char), isLineBreak c = false := by simp
  exact .cons hempty hending hrest

theorem splitsInto_cons {c : Char} (hc : isLineBreak c = false) (hsplits : SplitsInto cs (line :: ls)) :
    SplitsInto (c :: cs) ((c :: line) :: ls) := by
  cases hsplits with
  | last _ hline => exact .last (List.cons_ne_nil c _) (List.forall_mem_cons.2 ⟨hc, hline⟩)
  | cons hline hending hrest => exact .cons (List.forall_mem_cons.2 ⟨hc, hline⟩) hending hrest

theorem splitsInto_lines (cs : List Char) : SplitsInto cs (lines cs) := by
  -- A line is built from its end: a line break begins the empty one, and any other character goes in
  -- front of the line that follows it.
  fun_induction lines cs with
  | case1 => exact .nil
  | case2 cs ih => exact splitsInto_nil_cons .pair ih
  | case3 c cs hnopair hbreak ih =>
    refine splitsInto_nil_cons (.single hbreak ?_) ih
    rintro rfl hhead
    obtain ⟨rest, rfl⟩ := List.head?_eq_some_iff.1 hhead
    exact hnopair rest rfl rfl
  | case4 c cs _ hbreak hnone ih =>
    rw [hnone] at ih
    cases ih
    exact .last (by simp) (by simpa using hbreak)
  | case5 c cs _ hbreak line rest hlines ih =>
    rw [hlines] at ih
    exact splitsInto_cons (by simpa using hbreak) ih

/-- A text is split at all its line ends and nowhere else. -/
theorem lines_eq_iff : lines cs = ls ↔ SplitsInto cs ls := by
  constructor
  · rintro rfl
    exact splitsInto_lines cs
  · intro hsplits
    induction hsplits with
    | nil => rfl
    | last hne hline => exact lines_eq_singleton hline hne
    | cons hline hending _ ih => rw [lines_append_end hline hending, ih]

end SqlBridge.Text
