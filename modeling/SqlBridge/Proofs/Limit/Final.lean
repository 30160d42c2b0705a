import SqlBridge.Proofs.Limit.Normalization

namespace SqlBridge

open Text

namespace Limit

variable {part : List Char}

theorem plain_of_mem_keyword {c : Char} (hc : c ∈ keyword.flatten) :
    isBlank c = false ∧ isDecimalDigit c = false := by
  have hforms : keyword.flatten.all
      (fun d => !isBlank d && !d.isDigit && decide (d.toNat < 0x660)) = true := by decide
  have hform := List.all_eq_true.1 hforms c hc
  simp only [Bool.and_eq_true, Bool.not_eq_true', decide_eq_true_eq] at hform
  exact ⟨hform.1.1, isDecimalDigit_of_not_isDigit hform.1.2 hform.2⟩

/-- What may stand behind a statement is no digit. -/
theorem isDecimalDigit_of_isEnd {c : Char} (hc : isBlank c = true ∨ c = ';') :
    isDecimalDigit c = false := by
  rcases hc with hblank | rfl
  · exact isDecimalDigit_of_isBlank hblank
  · exact isDecimalDigit_of_not_isDigit (by decide) (by decide)

/-- The blank in front of the number of a limit stands directly behind the keyword. -/
theorem Phrase.exists_end (hpart : Phrase part) :
    ∃ lead letter gap digit, part = lead ++ [letter, gap, digit] ∧ isBlank letter = false ∧
      isBlank gap = true ∧ isDecimalDigit digit = true := by
  obtain @⟨space, gap, digit, word, -, hword, hgap, hdigit⟩ := hpart
  simp only [keyword, List.forall₂_cons_right_iff, List.forall₂_nil_right_iff] at hword
  obtain ⟨l, _, -, ⟨i, _, -, ⟨m, _, -, ⟨i', _, -, ⟨t, _, ht, rfl, rfl⟩, rfl⟩, rfl⟩, rfl⟩, rfl⟩ := hword
  have hletter : t ∈ keyword.flatten := List.mem_flatten.2 ⟨['T', 't'], by simp [keyword], ht⟩
  exact ⟨[space, l, i, m, i'], t, gap, digit, rfl, (plain_of_mem_keyword hletter).1, hgap, hdigit⟩

end Limit

/-- The end of a statement that sets a limit of its own: white space, the keyword in any case, white
space and a number. Behind it there are white space and semicolons alone. -/
structure FinalLimit where
  space : String
  word : String
  gap : String
  digits : String
  tail : String
  space_ne : space ≠ ""
  isBlank_space : ∀ c ∈ space.toList, isBlank c = true
  word_keyword : List.Forall₂ (· ∈ ·) word.toList Limit.keyword
  gap_ne : gap ≠ ""
  isBlank_gap : ∀ c ∈ gap.toList, isBlank c = true
  digits_ne : digits ≠ ""
  isDecimalDigit_digits : ∀ c ∈ digits.toList, isDecimalDigit c = true
  isEnd_tail : ∀ c ∈ tail.toList, isBlank c = true ∨ c = ';'

namespace FinalLimit

open Limit

variable (l : FinalLimit) (base : String)

/-- The limit without what stands behind it. -/
def limit : String :=
  l.space ++ l.word ++ l.gap ++ l.digits

/-- The limit with what stands behind it. -/
def text : String :=
  l.limit ++ l.tail

theorem toList_text :
    l.text.toList = l.space.toList ++ l.word.toList ++ l.gap.toList ++ (l.digits.toList ++ l.tail.toList) := by
  simp [text, limit]

/-- A limit with one blank in front of its number is found. -/
theorem whole_limit (hgap : l.gap.length = 1) : Whole l.limit.toList := by
  obtain ⟨gap, hsingle⟩ := List.length_eq_one_iff.1 (l.gap.length_toList.trans hgap)
  have hwhole : Whole (l.space.toList ++ l.word.toList ++ gap :: l.digits.toList) := by
    apply Whole.intro
    · simpa using l.space_ne
    · exact l.isBlank_space
    · exact l.word_keyword
    · exact l.isBlank_gap gap (by simp [hsingle])
    · simpa using l.digits_ne
    · exact l.isDecimalDigit_digits
  simpa [limit, hsingle] using hwhole

/-- Nothing but its number has digits in it. -/
theorem isDecimalDigit_front {c : Char}
    (hc : c ∈ l.space.toList ++ l.word.toList ++ l.gap.toList) : isDecimalDigit c = false := by
  rw [List.mem_append, List.mem_append] at hc
  rcases hc with (hc | hc) | hc
  · exact isDecimalDigit_of_isBlank (l.isBlank_space c hc)
  · by_contra hdigit
    refine not_mem_of_forall₂ l.word_keyword (fun hletter => ?_) hc
    exact hdigit (plain_of_mem_keyword hletter).2
  · exact isDecimalDigit_of_isBlank (l.isBlank_gap c hc)

/-- What stands in front of the number ends in two blanks, when there are several. -/
theorem exists_blanks (hgap : l.gap.length ≠ 1) :
    ∃ front x y, l.space.toList ++ l.word.toList ++ l.gap.toList = front ++ [x, y] ∧
      isBlank x = true := by
  obtain ⟨blanks, y, hlast⟩ :=
    List.eq_nil_or_concat' l.gap.toList |>.resolve_left (by simpa using l.gap_ne)
  have hmore : blanks ≠ [] := by
    rintro rfl
    exact hgap (by rw [← String.length_toList, hlast]; rfl)
  obtain ⟨rest, x, rfl⟩ := List.eq_nil_or_concat' blanks |>.resolve_left hmore
  refine ⟨l.space.toList ++ l.word.toList ++ rest, x, y, ?_, ?_⟩
  · simp [hlast]
  · exact l.isBlank_gap x (by simp [hlast])

/-- When several blanks stand in front of the number, every digit follows two of them or another
digit. -/
theorem before_digit (hgap : l.gap.length ≠ 1) {before after : List Char} {digit : Char}
    (hsplit : l.text.toList = before ++ digit :: after) (hdigit : isDecimalDigit digit = true) :
    (∃ front x y, before = front ++ [x, y] ∧ isBlank x = true) ∨
      ∃ front d, before = front ++ [d] ∧ isDecimalDigit d = true := by
  obtain ⟨front, x, y, hfront, hx⟩ := l.exists_blanks hgap
  rw [toList_text] at hsplit
  rcases List.append_eq_append_iff.1 hsplit with ⟨inside, rfl, hnumber⟩ | ⟨cut, hcut, hnumber⟩
  · rcases List.eq_nil_or_concat' inside with rfl | ⟨init, d, rfl⟩
    · exact .inl ⟨front, x, y, by rw [List.append_nil, hfront], hx⟩
    · refine .inr ⟨_, d, (List.append_assoc _ _ _).symm, ?_⟩
      rcases List.append_eq_append_iff.1 hnumber with ⟨behind, -, htail⟩ | ⟨behind, hdigits, -⟩
      · have hnot := isDecimalDigit_of_isEnd (l.isEnd_tail digit (by simp [htail]))
        rw [hdigit] at hnot
        cases hnot
      · exact l.isDecimalDigit_digits d (by simp [hdigits])
  · cases cut with
    | nil => exact .inl ⟨front, x, y, by rw [← hfront, hcut, List.append_nil], hx⟩
    | cons c cut =>
      obtain ⟨rfl, -⟩ := List.cons.inj hnumber
      have hnot := l.isDecimalDigit_front (c := digit) (by rw [hcut]; simp)
      rw [hdigit] at hnot
      cases hnot

/-- A limit with several blanks in front of its number is not found. -/
theorem standsIn_of_append (hgap : l.gap.length ≠ 1) (hlimit : StandsIn (base ++ l.text).toList) :
    StandsIn base.toList := by
  obtain ⟨part, hpart, before, after, hsplit⟩ := hlimit
  obtain ⟨lead, letter, gap, digit, rfl, hletter, hblank, hdigit⟩ := hpart.exists_end
  have hdigitless : isDecimalDigit gap = false := isDecimalDigit_of_isBlank hblank
  -- The digit at the end of what is found stands in front of the final limit, or it is one of its own.
  have hown (inside : List Char) (hbefore : before ++ lead ++ [letter, gap] = base.toList ++ inside)
      (htext : l.text.toList = inside ++ digit :: after) : False := by
    rcases l.before_digit hgap htext hdigit with ⟨front, x, y, rfl, hx⟩ | ⟨front, d, rfl, hd⟩
    · rw [← List.append_assoc] at hbefore
      obtain ⟨rfl, -⟩ := List.cons.inj (List.append_inj_right' hbefore rfl)
      rw [hx] at hletter
      cases hletter
    · have hsame : before ++ lead ++ [letter] ++ [gap] = base.toList ++ front ++ [d] := by
        simpa using hbefore
      obtain ⟨rfl, -⟩ := List.cons.inj (List.append_inj_right' hsame rfl)
      rw [hd] at hdigitless
      cases hdigitless
  have hwhole : before ++ lead ++ [letter, gap] ++ digit :: after = base.toList ++ l.text.toList := by
    simpa using hsplit
  rcases List.append_eq_append_iff.1 hwhole with ⟨behind, hbase, hrest⟩ | ⟨inside, hbefore, htext⟩
  · cases behind with
    | nil => exact (hown [] (by simpa using hbase.symm) hrest.symm).elim
    | cons c behind =>
      obtain ⟨rfl, -⟩ := List.cons.inj hrest
      exact ⟨_, hpart, before, behind, by simp [hbase]⟩
  · exact (hown inside hbefore htext).elim

/-- A final limit is found just when one blank stands in front of its number. -/
theorem setsLimit_append_iff : SetsLimit (base ++ l.text) ↔ l.gap.length = 1 ∨ SetsLimit base := by
  constructor
  · intro hlimit
    by_cases hgap : l.gap.length = 1
    · exact .inl hgap
    · exact .inr (setsLimit_iff.2 (l.standsIn_of_append base hgap (setsLimit_iff.1 hlimit)))
  · rintro (hgap | ⟨part, hpart, hinside⟩)
    · refine ⟨l.limit.toList, l.whole_limit hgap, base.toList, l.tail.toList, ?_⟩
      simp [text]
    · refine ⟨part, hpart, hinside.trans ?_⟩
      rw [String.toList_append]
      exact (List.prefix_append _ _).isInfix

theorem exists_limit_eq_concat :
    ∃ front digit, l.limit.toList = front ++ [digit] ∧ isDecimalDigit digit = true := by
  obtain ⟨front, digit, hdigits⟩ :=
    List.eq_nil_or_concat' l.digits.toList |>.resolve_left (by simpa using l.digits_ne)
  refine ⟨(l.space ++ l.word ++ l.gap).toList ++ front, digit, ?_, ?_⟩
  · rw [limit, String.toList_append, hdigits, List.append_assoc]
  · exact l.isDecimalDigit_digits digit (by simp [hdigits])

variable {base} {kept cut : String}

/-- What is cut off the end of a statement with a final limit lies behind the limit, as the limit ends
in a digit. -/
theorem exists_kept_eq (hsplit : base ++ l.text = kept ++ cut)
    (hcut : ∀ c ∈ cut.toList, isBlank c = true ∨ c = ';') :
    ∃ rest : String, rest.toList <+: l.tail.toList ∧ kept = base ++ l.limit ++ rest := by
  have hlists : (base ++ l.limit).toList ++ l.tail.toList = kept.toList ++ cut.toList := by
    rw [← String.toList_append, ← String.toList_append, ← hsplit, text, String.append_assoc]
  have hend : ∀ c ∈ (base ++ l.limit).toList.getLast?, isEnd c = false := by
    obtain ⟨front, digit, hlimit, hdigit⟩ := l.exists_limit_eq_concat
    rw [String.toList_append, hlimit, ← List.append_assoc, List.getLast?_concat]
    rintro c ⟨⟩
    by_contra hmark
    rw [Bool.not_eq_false, isEnd_iff] at hmark
    rw [isDecimalDigit_of_isEnd hmark] at hdigit
    cases hdigit
  obtain ⟨rest, hkept⟩ : (base ++ l.limit).toList <+: kept.toList :=
    prefix_of_prefix_append (fun c hc => isEnd_iff.2 (hcut c hc)) ⟨l.tail.toList, hlists⟩ hend
  refine ⟨String.ofList rest, ⟨cut.toList, ?_⟩, ?_⟩
  · rw [← hkept, List.append_assoc] at hlists
    rw [String.toList_ofList, List.append_cancel_left hlists]
  · rw [← String.ofList_toList (s := kept), ← hkept, String.ofList_append, String.ofList_toList]

/-- A second limit is put behind a final limit that is not found. -/
theorem limitToOne_adds_second (hgap : l.gap.length ≠ 1) (hbase : ¬ SetsLimit base) :
    ∃ rest : String, rest.toList <+: l.tail.toList ∧
      limitToOne (base ++ l.text) = base ++ l.limit ++ rest ++ " LIMIT 1" := by
  have hnone : ¬ SetsLimit (base ++ l.text) := by
    rw [setsLimit_append_iff]
    exact not_or.2 ⟨hgap, hbase⟩
  obtain ⟨kept, cut, hsplit, hlimited, hcut⟩ := exists_limitToOne_eq_append hnone
  obtain ⟨rest, hrest, rfl⟩ := l.exists_kept_eq hsplit hcut
  exact ⟨rest, hrest, hlimited⟩

end FinalLimit

end SqlBridge
