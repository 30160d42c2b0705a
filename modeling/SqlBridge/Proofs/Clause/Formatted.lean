import SqlBridge.Proofs.Clause.Raw

namespace SqlBridge

open Text

namespace Clause

variable {text : List Char}

/-- A clause in its final form: nothing, or a space and a text that begins with the keyword in any case
and a space, and that ends in no white space. -/
inductive IsFormatted : String → Prop where
  | empty : IsFormatted ""
  | keyword {text : List Char} (hopens : OpensWith ' ' text)
      (hlast : ∀ c ∈ text.getLast?, isBlank c = false) : IsFormatted (" " ++ String.ofList text)

/-- The keyword begins with a letter, which trimming leaves alone. -/
theorem OpensWith.head_not_blank {gap : Char} (hopens : OpensWith gap text) :
    ∀ c ∈ text.head?, isBlank c = false := by
  obtain ⟨word, hword, rest, rfl⟩ := hopens
  obtain ⟨letter, letters, hletter, -, rfl⟩ := List.forall₂_cons_right_iff.1 hword
  rintro c ⟨⟩
  simp only [List.mem_cons, List.not_mem_nil, or_false] at hletter
  rcases hletter with rfl | rfl <;> decide

theorem opensWith_keyword_append (text : List Char) : OpensWith ' ' ("WHERE ".toList ++ text) := by
  refine ⟨"WHERE".toList, ?_, List.prefix_append _ _⟩
  simp [keyword]

/-- What is made of a raw text is in the final form. -/
theorem isFormatted_rawClause (s : List Char) : IsFormatted (rawClause s) := by
  have hlast : ∀ c ∈ (trim s).getLast?, isBlank c = false := (isTrimmed_trimBy isBlank s).last
  by_cases hblank : ∀ c ∈ s, isBlank c = true
  · rw [rawClause_of_blank hblank]
    exact .empty
  have hne : trim s ≠ [] := trimBy_ne_nil_iff.2 (by simpa using hblank)
  by_cases hopens : OpensWith ' ' (trim s)
  · rw [rawClause_of_opensWith_space hopens]
    exact .keyword hopens hlast
  · have hform : " WHERE " ++ String.ofList (trim s) =
        " " ++ String.ofList ("WHERE ".toList ++ trim s) := by
      rw [String.ofList_append, ← String.append_assoc]
      rfl
    rw [rawClause_of_not_opensWith_space hne hopens, hform]
    refine .keyword (opensWith_keyword_append _) ?_
    rwa [List.getLast?_append_of_ne_nil _ hne]

/-- A clause in the final form is left as it is. -/
theorem IsFormatted.rawClause_eq {clause : String} (hformatted : IsFormatted clause) :
    rawClause clause.toList = clause := by
  cases hformatted with
  | empty => rfl
  | @keyword text hopens hlast =>
    have htrim : trim (" " ++ String.ofList text).toList = text := by
      have hspace : (" " ++ String.ofList text).toList = ' ' :: text := by simp
      rw [hspace, trim, trimBy_cons_of_pos (by decide), trimBy_eq_self hopens.head_not_blank hlast]
    rw [rawClause_of_opensWith_space (by rwa [htrim]), htrim]

theorem rawClause_eq_self_iff {s : String} : rawClause s.toList = s ↔ IsFormatted s := by
  constructor
  · intro hsame
    rw [← hsame]
    exact isFormatted_rawClause s.toList
  · exact IsFormatted.rawClause_eq

end Clause

open Clause

/-- To format a raw text twice comes to the same as to format it once, whatever quoters and markers
there are: the clause that is made of a text can be passed on as a raw text. The texts that are
clauses already are those in the final form. -/
theorem formatWhere_raw_idempotent (quote quote' : Quoter) (markers markers' : Value) (s : String) :
    (∃ clause, formatWhere (some (.raw (.text s))) quote markers = .ok clause ∧
      formatWhere (some (.raw (.text clause))) quote' markers' = .ok clause) ∧
    (formatWhere (some (.raw (.text s))) quote markers = .ok s ↔ IsFormatted s) := by
  have hclause (t : String) (q : Quoter) (m : Value) :
      formatWhere (some (.raw (.text t))) q m = .ok (rawClause t.toList) := rfl
  constructor
  · refine ⟨rawClause s.toList, rfl, ?_⟩
    exact congrArg Except.ok (isFormatted_rawClause s.toList).rawClause_eq
  · rw [hclause, Except.ok.injEq, rawClause_eq_self_iff]

end SqlBridge
