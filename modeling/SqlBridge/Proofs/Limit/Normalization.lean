import SqlBridge.Proofs.Limit.Phrase

namespace SqlBridge

open Text

namespace Limit

variable {cs : List Char}

/-- A limit as a whole: a run of white space, the keyword in any case, one white-space character and
the digits of a number. -/
inductive Whole : List Char → Prop where
  | intro {space word digits : List Char} {gap : Char} (hne : space ≠ [])
      (hspace : ∀ c ∈ space, isBlank c = true) (hword : List.Forall₂ (· ∈ ·) word keyword)
      (hgap : isBlank gap = true) (hsome : digits ≠ [])
      (hdigits : ∀ c ∈ digits, isDecimalDigit c = true) : Whole (space ++ word ++ gap :: digits)

theorem Phrase.whole {part : List Char} (hpart : Phrase part) : Whole part := by
  obtain @⟨space, gap, digit, word, hspace, hword, hgap, hdigit⟩ := hpart
  have hwhole : Whole ([space] ++ word ++ gap :: [digit]) :=
    .intro (List.cons_ne_nil _ _) (by simpa using hspace) hword hgap (List.cons_ne_nil _ _)
      (by simpa using hdigit)
  simpa using hwhole

/-- A limit ends its white space in one character before the keyword, and begins its number with one
digit. -/
theorem Whole.exists_phrase {part : List Char} (hpart : Whole part) :
    ∃ inner, Phrase inner ∧ inner <:+: part := by
  obtain @⟨space, word, digits, gap, hne, hspace, hword, hgap, hsome, hdigits⟩ := hpart
  obtain ⟨before, last, rfl⟩ := List.eq_nil_or_concat space |>.resolve_left hne
  obtain ⟨digit, rest, rfl⟩ := List.exists_cons_of_ne_nil hsome
  refine ⟨last :: (word ++ [gap, digit]), ?_, before, rest, by simp⟩
  exact .intro (hspace last (by simp)) hword hgap (hdigits digit List.mem_cons_self)

theorem standsIn_iff_exists_whole : StandsIn cs ↔ ∃ part, Whole part ∧ part <:+: cs := by
  constructor
  · rintro ⟨part, hpart, hinside⟩
    exact ⟨part, hpart.whole, hinside⟩
  · rintro ⟨part, hpart, hinside⟩
    obtain ⟨inner, hinner, hwithin⟩ := hpart.exists_phrase
    exact ⟨inner, hinner, hwithin.trans hinside⟩

/-- The limit that is added is found again, whatever it is added to. -/
theorem standsIn_append_clause (cs : List Char) : StandsIn (cs ++ clause) := by
  have hclause : StandsIn clause := by decide
  obtain ⟨part, hpart, hinside⟩ := hclause
  exact ⟨part, hpart, hinside.trans (List.suffix_append cs clause).isInfix⟩

theorem standsIn_toOne (cs : List Char) : StandsIn (toOne cs) := by
  rw [toOne]
  by_cases hlimit : occursIn cs = true
  · rw [if_pos hlimit]
    exact occursIn_iff.1 hlimit
  · rw [if_neg hlimit]
    exact standsIn_append_clause _

/-- What may stand behind a statement: white space and semicolons. -/
def isEnd (c : Char) : Bool :=
  isBlank c || c == ';'

theorem isEnd_iff {c : Char} : isEnd c = true ↔ isBlank c = true ∨ c = ';' := by
  rw [isEnd, Bool.or_eq_true, beq_iff_eq]

/-- What is taken off the end of a text: white space, semicolons, and white space again. The text that
is kept ends in a semicolon only where white space parts it from those that are taken off. -/
structure Cut (kept gap marks outer : List Char) : Prop where
  isBlank_gap : ∀ c ∈ gap, isBlank c = true
  marks_eq : ∀ c ∈ marks, c = ';'
  isBlank_outer : ∀ c ∈ outer, isBlank c = true
  last : ∀ c ∈ kept.getLast?, isBlank c = false
  apart : ';' ∈ kept.getLast? → gap ≠ [] ∧ marks ≠ []

theorem exists_cut (cs : List Char) :
    ∃ gap marks outer, cs = trimEnd cs ++ (gap ++ marks ++ outer) ∧
      Cut (trimEnd cs) gap marks outer := by
  obtain ⟨outer, houter, houterBlank⟩ := dropRight_split isBlank cs
  obtain ⟨marks, hmarks, hmarksOnly⟩ := dropRight_split (· == ';') (dropRight isBlank cs)
  obtain ⟨gap, hgap, hgapBlank⟩ :=
    dropRight_split isBlank (dropRight (· == ';') (dropRight isBlank cs))
  refine ⟨gap, marks, outer, ?_, hgapBlank, fun c hc => by simpa using hmarksOnly c hc, houterBlank,
    fun c hc => getLast?_dropRight_eq_false hc, fun hend => ?_⟩
  · rw [trimEnd, ← List.append_assoc, ← List.append_assoc, ← hgap, ← hmarks, ← houter]
  · -- No cut leaves at the end what it takes off, so that none of them can have been for nothing.
    have hgapSome : gap ≠ [] := by
      rintro rfl
      rw [List.append_nil] at hgap
      have hmark : (';' == ';') = false := by
        refine getLast?_dropRight_eq_false (p := (· == ';')) (s := dropRight isBlank cs) ?_
        rw [hgap]
        exact hend
      cases hmark
    refine ⟨hgapSome, ?_⟩
    rintro rfl
    rw [List.append_nil] at hmarks
    obtain ⟨front, c, rfl⟩ := List.eq_nil_or_concat' gap |>.resolve_left hgapSome
    have hblank : isBlank c = false := by
      refine getLast?_dropRight_eq_false (s := cs) ?_
      rw [hmarks, hgap]
      simp
    rw [hgapBlank c (by simp)] at hblank
    cases hblank

theorem Cut.isEnd_of_mem {kept gap marks outer : List Char} (hcut : Cut kept gap marks outer) :
    ∀ c ∈ gap ++ marks ++ outer, isEnd c = true := by
  intro c hc
  rw [List.mem_append, List.mem_append] at hc
  rcases hc with (hc | hc) | hc
  · exact isEnd_iff.2 (.inl (hcut.isBlank_gap c hc))
  · exact isEnd_iff.2 (.inr (hcut.marks_eq c hc))
  · exact isEnd_iff.2 (.inl (hcut.isBlank_outer c hc))

end Limit

/-- A limit stands somewhere in a statement. -/
def SetsLimit (sql : String) : Prop :=
  ∃ part, Limit.Whole part ∧ part <:+: sql.toList

theorem setsLimit_iff {sql : String} : SetsLimit sql ↔ Limit.StandsIn sql.toList :=
  Limit.standsIn_iff_exists_whole.symm

theorem limitToOne_eq_self {sql : String} (hset : SetsLimit sql) : limitToOne sql = sql :=
  limitToOne_of_standsIn (setsLimit_iff.1 hset)

/-- What is left of a statement without a limit stands in front of the one that is added. -/
theorem exists_limitToOne_eq_append {sql : String} (hlimit : ¬ SetsLimit sql) :
    ∃ kept cut : String, sql = kept ++ cut ∧ limitToOne sql = kept ++ " LIMIT 1" ∧
      ∀ c ∈ cut.toList, isBlank c = true ∨ c = ';' := by
  obtain ⟨gap, marks, outer, hsplit, hcut⟩ := Limit.exists_cut sql.toList
  refine ⟨String.ofList (Limit.trimEnd sql.toList), String.ofList (gap ++ marks ++ outer), ?_, ?_,
    fun c hc => ?_⟩
  · rw [← String.ofList_append, ← hsplit, String.ofList_toList]
  · exact limitToOne_eq_trimEnd (mt setsLimit_iff.2 hlimit)
  · rw [String.toList_ofList] at hc
    exact Limit.isEnd_iff.1 (hcut.isEnd_of_mem c hc)

/-- To limit a statement to one row brings it into a form that stays. The result has a limit, so that
to limit it again changes nothing. A statement with a limit is in this form already. Of any other one
nothing is lost but white space and semicolons at its end, and the limit takes their place. -/
theorem limitToOne_normalizes (sql : String) :
    SetsLimit (limitToOne sql) ∧ limitToOne (limitToOne sql) = limitToOne sql ∧
      (SetsLimit sql → limitToOne sql = sql) ∧
      (¬ SetsLimit sql → ∃ kept cut : String, sql = kept ++ cut ∧
        limitToOne sql = kept ++ " LIMIT 1" ∧ ∀ c ∈ cut.toList, isBlank c = true ∨ c = ';') := by
  have hset : SetsLimit (limitToOne sql) := by
    rw [setsLimit_iff, limitToOne, String.toList_ofList]
    exact Limit.standsIn_toOne _
  exact ⟨hset, limitToOne_eq_self hset, limitToOne_eq_self, exists_limitToOne_eq_append⟩

end SqlBridge
