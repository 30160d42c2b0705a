import SqlBridge.Proofs.Literal.RoundTrip

namespace SqlBridge.SqlLiteral

theorem readString_length {cs s rest : List Char} (hread : readString cs = some (s, rest)) :
    rest.length < cs.length := by
  induction cs using readString.induct generalizing s with
  | case1 => simp [readString] at hread
  | case2 cs ih =>
    rw [readString] at hread
    obtain ⟨⟨s', rest'⟩, hinner, heq⟩ := Option.map_eq_some_iff.1 hread
    obtain ⟨-, rfl⟩ := Prod.mk.inj heq
    have hlt := ih hinner
    simp only [List.length_cons]
    omega
  | case3 cs hsingle =>
    rw [readString] at hread
    · obtain ⟨-, rfl⟩ := Prod.mk.inj (Option.some.inj hread)
      simp
    · exact hsingle
  | case4 c cs hdouble hsingle ih =>
    rw [readString] at hread
    · obtain ⟨⟨s', rest'⟩, hinner, heq⟩ := Option.map_eq_some_iff.1 hread
      obtain ⟨-, rfl⟩ := Prod.mk.inj heq
      have hlt := ih hinner
      simp only [List.length_cons]
      omega
    · exact hdouble
    · exact hsingle

/-- A text without its string literals, and the strings that the literals say, read from left to
right. A text in which a literal has no end is not split. -/
def splitStrings (cs : List Char) : Option (List Char × List (List Char)) :=
  match cs with
  | [] => some ([], [])
  | c :: cs =>
    if c = '\'' then
      match _hread : readString cs with
      | none => none
      | some (s, rest) => (splitStrings rest).map fun (outside, strings) => (outside, s :: strings)
    else
      (splitStrings cs).map fun (outside, strings) => (c :: outside, strings)
termination_by cs.length
decreasing_by
  · have hlt := readString_length _hread
    simp only [List.length_cons]
    omega
  · simp

theorem splitStrings_nil : splitStrings [] = some ([], []) := by
  rw [splitStrings]

theorem splitStrings_append {cs : List Char} (hquote : '\'' ∉ cs) (rest : List Char) :
    splitStrings (cs ++ rest) =
      (splitStrings rest).map fun (outside, strings) => (cs ++ outside, strings) := by
  induction cs with
  | nil => simp
  | cons c cs ih =>
    obtain ⟨hc, hcs⟩ := not_or.1 (mt List.mem_cons.2 hquote)
    rw [List.cons_append, splitStrings, if_neg (Ne.symm hc), ih hcs, Option.map_map]
    rfl

theorem splitStrings_stringLiteral (s : List Char) {rest : List Char}
    (hrest : rest.head? ≠ some '\'') :
    splitStrings (Value.stringLiteral s ++ rest) =
      (splitStrings rest).map fun (outside, strings) => (outside, s :: strings) := by
  have hread := readString_escaped s hrest
  have hform : Value.stringLiteral s ++ rest =
      '\'' :: (s.flatMap (fun c => if c = '\'' then ['\'', '\''] else [c]) ++ '\'' :: rest) := by
    simp [Value.stringLiteral]
  rw [hform, splitStrings, if_pos rfl]
  split
  · rename_i hnone
    rw [hnone] at hread
    cases hread
  · rename_i s' rest' hsome
    rw [hsome] at hread
    obtain ⟨rfl, rfl⟩ := Prod.mk.inj (Option.some.inj hread)
    rfl

end SqlBridge.SqlLiteral
