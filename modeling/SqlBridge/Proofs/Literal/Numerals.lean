import SqlBridge.Proofs.Clause.Condition

namespace SqlBridge

/-- What stands in the text of a number beside digits: signs, the point, and the letters of an exponent,
of infinity and of what is no number. -/
def numeralMarks : List Char :=
  ['-', '+', '.', 'e', 'i', 'n', 'f', 'a']

/-- The characters that numbers are written with. -/
def IsNumeral (c : Char) : Prop :=
  c.isDigit = true ∨ c ∈ numeralMarks

theorem isNumeral_of_mem_toString {n : Nat} {c : Char} (hc : c ∈ (toString n).toList) :
    IsNumeral c := by
  have hdigits : (toString n).toList = Nat.toDigits 10 n := Nat.toList_repr
  rw [hdigits] at hc
  exact .inl (Nat.isDigit_of_mem_toDigits (by decide) (by decide) hc)

theorem isNumeral_of_mem_zeros {n : Nat} {c : Char} (hc : c ∈ List.replicate n '0') :
    IsNumeral c := by
  rw [List.eq_of_mem_replicate hc]
  exact .inl (by decide)

namespace Binary64

theorem Layout.isNumeral_of_mem_exponent {form : Layout} {n : Int} {c : Char}
    (hc : c ∈ form.exponent n) : IsNumeral c := by
  simp only [exponent, List.cons_append, List.mem_cons, List.mem_append] at hc
  rcases hc with rfl | rfl | hc | hc
  · exact .inr (by decide)
  · split_ifs <;> exact .inr (by decide)
  · exact isNumeral_of_mem_zeros hc
  · exact isNumeral_of_mem_toString hc

theorem Layout.isNumeral_of_mem_write {form : Layout} {digits : Nat} {k : Int} {c : Char}
    (hc : c ∈ form.write digits k) : IsNumeral c := by
  have hdigit {d : Char} (hd : d ∈ (toString digits).toList) : IsNumeral d :=
    isNumeral_of_mem_toString hd
  have hpoint : IsNumeral '.' := .inr (by decide)
  have hzero : IsNumeral '0' := .inl (by decide)
  unfold write at hc
  generalize (toString digits).toList = ds at hc hdigit
  dsimp only at hc
  split_ifs at hc
  · simp only [List.cons_append, List.mem_cons, List.mem_append] at hc
    rcases hc with rfl | rfl | hc | hc
    · exact hzero
    · exact hpoint
    · exact isNumeral_of_mem_zeros hc
    · exact hdigit hc
  · simp only [List.mem_append, List.mem_cons, List.not_mem_nil, or_false] at hc
    rcases hc with (hc | hc) | rfl | rfl
    · exact hdigit hc
    · exact isNumeral_of_mem_zeros hc
    · exact hpoint
    · exact hzero
  · rw [List.mem_append, List.mem_cons] at hc
    rcases hc with hc | rfl | hc
    · exact hdigit (List.mem_of_mem_take hc)
    · exact hpoint
    · exact hdigit (List.mem_of_mem_drop hc)
  · split at hc
    · cases hc
    · rcases List.mem_cons.1 hc with rfl | hc
      · exact hdigit List.mem_cons_self
      · exact isNumeral_of_mem_exponent hc
    · simp only [List.cons_append, List.mem_cons, List.mem_append] at hc
      rcases hc with rfl | rfl | hc | hc
      · exact hdigit List.mem_cons_self
      · exact hpoint
      · exact hdigit (List.mem_cons_of_mem _ hc)
      · exact isNumeral_of_mem_exponent hc

theorem isNumeral_of_mem_text {x : Binary64} {c : Char} (hc : c ∈ x.text) : IsNumeral c := by
  let magnitude : List Char :=
    if x.isInfinite then ['i', 'n', 'f']
    else if x.isZero then ['0', '.', '0']
    else layout.write x.shortest.1 x.shortest.2
  have hmagnitude (hmem : c ∈ magnitude) : IsNumeral c := by
    unfold magnitude at hmem
    split_ifs at hmem
    · have hletters : ['i', 'n', 'f'] ⊆ numeralMarks := by decide
      exact .inr (hletters hmem)
    · simp only [List.mem_cons, List.not_mem_nil, or_false] at hmem
      rcases hmem with rfl | rfl | rfl
      · exact .inl (by decide)
      · exact .inr (by decide)
      · exact .inl (by decide)
    · exact Layout.isNumeral_of_mem_write hmem
  have htext : x.text = if x.isNaN then ['n', 'a', 'n']
      else if x.isNegative then '-' :: magnitude else magnitude := rfl
  rw [htext] at hc
  split_ifs at hc
  · have hletters : ['n', 'a', 'n'] ⊆ numeralMarks := by decide
    exact .inr (hletters hc)
  · rcases List.mem_cons.1 hc with rfl | hc
    · exact .inr (by decide)
    · exact hmagnitude hc
  · exact hmagnitude hc

end Binary64

theorem Value.IsNumber.isNumeral_of_mem_shown {v : Value} (hnumber : v.IsNumber) {c : Char}
    (hc : c ∈ v.shown.toList) : IsNumeral c := by
  rcases hnumber with ⟨n, rfl⟩ | ⟨x, rfl⟩
  · have hdigits : c ∈ (toString n).toList := hc
    rw [SqlLiteral.toList_toString, List.mem_append] at hdigits
    rcases hdigits with hsign | hdigit
    · split_ifs at hsign
      · rw [List.mem_singleton.1 hsign]
        exact .inr (by decide)
      · cases hsign
    · exact .inl (Nat.isDigit_of_mem_toDigits (by decide) (by decide) hdigit)
  · have htext : c ∈ (String.ofList x.text).toList := hc
    rw [String.toList_ofList] at htext
    exact Binary64.isNumeral_of_mem_text htext

end SqlBridge
