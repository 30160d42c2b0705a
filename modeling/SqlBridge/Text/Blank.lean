namespace SqlBridge.Text

/-- White space: the Unicode spaces and line breaks, and the four separator controls `0x1C` to
    `0x1F`. -/
def isBlank (c : Char) : Bool :=
  let n := c.toNat
  (9 ≤ n && n ≤ 13) || (28 ≤ n && n ≤ 32) || n == 0x85 || n == 0xA0 || n == 0x1680 ||
    (0x2000 ≤ n && n ≤ 0x200A) || n == 0x2028 || n == 0x2029 || n == 0x202F || n == 0x205F ||
    n == 0x3000

/-- Removes the longest run at the end whose characters all satisfy `p`. -/
def dropRight {α : Type} (p : α → Bool) (s : List α) : List α :=
  (s.reverse.dropWhile p).reverse

/-- Removes the characters that satisfy `p` from both ends, and none inside. -/
def trimBy {α : Type} (p : α → Bool) (s : List α) : List α :=
  dropRight p (s.dropWhile p)

/-- Removes white space from both ends. -/
def trim (s : List Char) : List Char :=
  trimBy isBlank s

@[simp] theorem dropRight_nil {α : Type} (p : α → Bool) : dropRight p [] = [] := rfl

@[simp] theorem trimBy_nil {α : Type} (p : α → Bool) : trimBy p [] = [] := rfl

/-- What is left after a cut at the end is the beginning of the text, and what was cut satisfies
    `p` throughout. -/
theorem dropRight_split {α : Type} (p : α → Bool) (s : List α) :
    ∃ cut, s = dropRight p s ++ cut ∧ ∀ c ∈ cut, p c = true := by
  refine ⟨(s.reverse.takeWhile p).reverse, ?_, ?_⟩
  · rw [dropRight, ← List.reverse_append, List.takeWhile_append_dropWhile, List.reverse_reverse]
  · intro c hc
    exact List.all_eq_true.1 List.all_takeWhile c (List.mem_reverse.1 hc)

end SqlBridge.Text
