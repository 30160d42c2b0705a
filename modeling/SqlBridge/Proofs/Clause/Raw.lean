import SqlBridge.Proofs.Text.Trimming
import SqlBridge.Where

namespace SqlBridge

namespace Text

variable {c d : Char}

theorem toNat_toLower (c : Char) :
    c.toLower.toNat = if 0x41 ≤ c.toNat ∧ c.toNat ≤ 0x5A then c.toNat + 0x20 else c.toNat := by
  have hval : c.toNat = c.val.toNat := rfl
  have hfirst : 'A'.val.toNat = 0x41 := rfl
  have hlast : 'Z'.val.toNat = 0x5A := rfl
  have hstep : 'a'.val - 'A'.val = 0x20 := by decide
  unfold Char.toLower
  simp only [ge_iff_le, UInt32.le_iff_toNat_le]
  split_ifs with hrange
  · have hshifted : (c.val + ('a'.val - 'A'.val)).toNat = c.val.toNat + 0x20 := by
      rw [hstep, UInt32.toNat_add]
      simp
      omega
    exact hshifted
  · omega
  · omega
  · rfl

/-- Two letters have the small form of a letter, and one character that of anything else. -/
theorem toLower_eq_iff {capital : Char} (hd : 0x61 ≤ d.toNat ∧ d.toNat ≤ 0x7A)
    (hcapital : capital.toNat + 0x20 = d.toNat) : c.toLower = d ↔ c ∈ [capital, d] := by
  simp only [List.mem_cons, List.not_mem_nil, or_false, ← Char.toNat_inj, toNat_toLower]
  split_ifs <;> omega

theorem toLower_eq_space_iff : c.toLower = ' ' ↔ c = ' ' := by
  have hspace : ' '.toNat = 0x20 := rfl
  rw [← Char.toNat_inj, ← Char.toNat_inj, toNat_toLower, hspace]
  split_ifs <;> omega

end Text

open Text

namespace Clause

variable {gap gap' : Char} {text word : List Char}

/-- The letters of the keyword, each in its two forms. -/
def keyword : List (List Char) :=
  [['W', 'w'], ['H', 'h'], ['E', 'e'], ['R', 'r'], ['E', 'e']]

/-- The text begins with the keyword, in any case, and this character directly behind it. -/
def OpensWith (gap : Char) (text : List Char) : Prop :=
  ∃ word, List.Forall₂ (· ∈ ·) word keyword ∧ word ++ [gap] <+: text

/-- A text with these letters as its small form has one of the forms of each of them. -/
theorem asciiLower_eq_iff {letters : List Char} {forms : List (List Char)}
    (hforms : List.Forall₂ (fun d choice => ∀ c : Char, c.toLower = d ↔ c ∈ choice) letters forms) :
    asciiLower word = letters ↔ List.Forall₂ (· ∈ ·) word forms := by
  induction hforms generalizing word with
  | nil => simp [asciiLower]
  | @cons d choice letters forms hfirst _ ih =>
    cases word with
    | nil => simp [asciiLower]
    | cons c word =>
      have hrest : List.map Char.toLower word = letters ↔ List.Forall₂ (· ∈ ·) word forms := ih
      rw [asciiLower, List.map_cons, List.cons.injEq, List.forall₂_cons, hfirst, hrest]

theorem asciiLower_eq_where_iff :
    asciiLower word = "where".toList ↔ List.Forall₂ (· ∈ ·) word keyword := by
  apply asciiLower_eq_iff
  refine .cons ?_ (.cons ?_ (.cons ?_ (.cons ?_ (.cons ?_ .nil)))) <;> intro c <;>
    exact toLower_eq_iff (by decide) (by decide)

/-- Only a space behind the keyword counts. -/
theorem hasKeyword_iff : hasKeyword text = true ↔ OpensWith ' ' text := by
  have hform : "where ".toList = "where".toList ++ [' '] := by decide
  rw [hasKeyword, beq_iff_eq, hform, asciiLower, List.map_eq_append_iff]
  constructor
  · rintro ⟨word, gap, htake, hword, hgap⟩
    obtain ⟨c, rfl, hc⟩ := List.map_eq_singleton_iff.1 hgap
    obtain rfl := toLower_eq_space_iff.1 hc
    exact ⟨word, asciiLower_eq_where_iff.1 hword, htake ▸ List.take_prefix _ _⟩
  · rintro ⟨word, hword, hopens⟩
    have hlength : (word ++ [' ']).length = 6 := by
      rw [List.length_append, hword.length_eq]
      rfl
    refine ⟨word, [' '], ?_, asciiLower_eq_where_iff.2 hword, rfl⟩
    rw [← hlength, ← List.prefix_iff_eq_take.1 hopens]

/-- No two characters stand directly behind the keyword. -/
theorem OpensWith.unique (hopens : OpensWith gap text) (hopens' : OpensWith gap' text) :
    gap = gap' := by
  obtain ⟨word, hword, hprefix⟩ := hopens
  obtain ⟨word', hword', hprefix'⟩ := hopens'
  have hlength : (word ++ [gap]).length = (word' ++ [gap']).length := by
    simp [hword.length_eq, hword'.length_eq]
  have hsame : word ++ [gap] = word' ++ [gap'] :=
    (List.prefix_of_prefix_length_le hprefix hprefix' hlength.le).eq_of_length hlength
  exact (List.cons.inj (List.append_inj_right' hsame rfl)).1

variable {s : List Char}

theorem rawClause_of_blank (hs : ∀ c ∈ s, isBlank c = true) : rawClause s = "" := by
  have hnil : trim s = [] := by
    by_contra hne
    obtain ⟨c, hc, hletter⟩ := trimBy_ne_nil_iff.1 hne
    rw [hs c hc] at hletter
    cases hletter
  rw [rawClause, hnil]

theorem rawClause_of_ne_nil (hne : trim s ≠ []) :
    rawClause s =
      if hasKeyword (trim s) then " " ++ String.ofList (trim s)
      else " WHERE " ++ String.ofList (trim s) := by
  unfold rawClause
  split
  · contradiction
  · rfl

theorem OpensWith.ne_nil (hopens : OpensWith gap text) : text ≠ [] := by
  rintro rfl
  obtain ⟨word, -, hprefix⟩ := hopens
  simp at hprefix

/-- A text that begins with the keyword and a space is kept. -/
theorem rawClause_of_opensWith_space (hopens : OpensWith ' ' (trim s)) :
    rawClause s = " " ++ String.ofList (trim s) := by
  rw [rawClause_of_ne_nil hopens.ne_nil, if_pos (hasKeyword_iff.2 hopens)]

/-- Every other text is given the keyword. -/
theorem rawClause_of_not_opensWith_space (hne : trim s ≠ []) (hopens : ¬ OpensWith ' ' (trim s)) :
    rawClause s = " WHERE " ++ String.ofList (trim s) := by
  rw [rawClause_of_ne_nil hne, if_neg (mt hasKeyword_iff.1 hopens)]

end Clause

open Clause

/-- The clause of a raw text is the text without the white space at its ends. The keyword is put in
front, unless the text begins with it, in any case, and a space directly behind it. Behind white
space of another kind, as a tab or a line break, the keyword is not seen, and the clause then begins
with it twice. A text of white space alone makes no clause. -/
theorem formatWhere_raw_adds_keyword_unless_space_follows (quote : Quoter) (markers : Value)
    (s : String) :
    let text := trim s.toList
    let clause := formatWhere (some (.raw (.text s))) quote markers
    ((∀ c ∈ s.toList, isBlank c = true) → clause = .ok "") ∧
      (OpensWith ' ' text → clause = .ok (" " ++ String.ofList text)) ∧
      (∀ gap, isBlank gap = true → gap ≠ ' ' → OpensWith gap text →
        clause = .ok (" WHERE " ++ String.ofList text)) ∧
      ((∃ c ∈ s.toList, isBlank c = false) → (∀ gap, isBlank gap = true → ¬ OpensWith gap text) →
        clause = .ok (" WHERE " ++ String.ofList text)) := by
  intro text clause
  refine ⟨fun hblank => ?_, fun hopens => ?_, fun gap _ hother hopens => ?_, fun hsome hnone => ?_⟩
  · exact congrArg Except.ok (rawClause_of_blank hblank)
  · exact congrArg Except.ok (rawClause_of_opensWith_space hopens)
  · apply congrArg Except.ok
    apply rawClause_of_not_opensWith_space hopens.ne_nil
    intro hspace
    exact hother (hopens.unique hspace)
  · apply congrArg Except.ok
    exact rawClause_of_not_opensWith_space (trimBy_ne_nil_iff.2 hsome) (hnone ' ' (by decide))

/-- A tab behind the keyword doubles it. -/
theorem formatWhere_raw_doubles_keyword_before_tab :
    let text := "WHERE\tx = 1"
    let clause := formatWhere (some (.raw (.text text))) standardQuoter standardMarkers
    trim text.toList = text.toList ∧ OpensWith '\t' text.toList ∧ isBlank '\t' = true ∧
      clause = .ok " WHERE WHERE\tx = 1" ∧ clause ≠ .ok (" " ++ text) := by
  intro text clause
  have htrim : trim text.toList = text.toList := by decide
  have hopens : OpensWith '\t' text.toList := by
    refine ⟨"WHERE".toList, ?_, "x = 1".toList, by decide⟩
    simp [keyword]
  have hdoubled : rawClause text.toList = " WHERE WHERE\tx = 1" := by decide
  have hclause : clause = .ok " WHERE WHERE\tx = 1" := congrArg Except.ok hdoubled
  refine ⟨htrim, hopens, by decide, hclause, ?_⟩
  rw [hclause]
  intro hsame
  exact absurd (Except.ok.inj hsame) (by decide)

end SqlBridge
