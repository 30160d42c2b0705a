import SqlBridge.Number.Integer
import SqlBridge.Proofs.Literal.RoundTrip
import SqlBridge.Proofs.Text.Trimming

namespace SqlBridge

open Text

namespace Text

theorem isDigit_iff_toNat {c : Char} : c.isDigit = true ↔ 0x30 ≤ c.toNat ∧ c.toNat ≤ 0x39 := by
  simp [Char.isDigit, UInt32.le_iff_toNat_le]

theorem digitValue?_of_isDigit {c : Char} (hc : c.isDigit = true) :
    digitValue? c = some (c.toNat - '0'.toNat) := by
  have hrange := isDigit_iff_toNat.1 hc
  have hfirst : digitZeros.find? (fun base => base ≤ c.toNat && c.toNat ≤ base + 9) = some 0x30 :=
    List.find?_cons_of_pos (by simp [hrange])
  rw [digitValue?, hfirst]
  rfl

/-- A character that lies in the range of no digit system is no digit. -/
theorem isDecimalDigit_eq_false {c : Char}
    (hrange : ∀ base ∈ digitZeros, ¬ (base ≤ c.toNat ∧ c.toNat ≤ base + 9)) :
    isDecimalDigit c = false := by
  have hnone : digitZeros.find? (fun base => base ≤ c.toNat && c.toNat ≤ base + 9) = none := by
    refine List.find?_eq_none.2 fun base hbase hwithin => ?_
    simp only [Bool.and_eq_true, decide_eq_true_eq] at hwithin
    exact hrange base hbase hwithin
  rw [isDecimalDigit, digitValue?, hnone]
  rfl

/-- No other character at the beginning of Unicode is a decimal digit. -/
theorem isDecimalDigit_of_not_isDigit {c : Char} (hc : c.isDigit = false) (hlow : c.toNat < 0x660) :
    isDecimalDigit c = false := by
  have hzeros : ∀ base ∈ digitZeros, base = 0x30 ∨ 0x660 ≤ base := by decide
  apply isDecimalDigit_eq_false
  intro base hbase hrange
  rcases hzeros base hbase with rfl | hhigh
  · rw [isDigit_iff_toNat.2 hrange] at hc
    cases hc
  · omega

theorem isBlank_of_isDigit {c : Char} (hc : c.isDigit = true) : isBlank c = false := by
  have hrange := isDigit_iff_toNat.1 hc
  simp [isBlank]
  omega

/-- White space is no digit of any script. -/
theorem isDecimalDigit_of_isBlank {c : Char} (hc : isBlank c = true) : isDecimalDigit c = false := by
  have hzeros : ∀ base ∈ digitZeros, 0x20 < base ∧ (base + 9 < 0x85 ∨ 0xA0 < base) ∧
      (base + 9 < 0x1680 ∨ 0x1680 < base) ∧ (base + 9 < 0x2000 ∨ 0x205F < base) ∧
      (base + 9 < 0x3000 ∨ 0x3000 < base) := by decide
  apply isDecimalDigit_eq_false
  intro base hbase hrange
  have hapart := hzeros base hbase
  simp [isBlank] at hc
  omega

end Text

namespace IntegerText

variable {s : List Char}

theorem digits?_of_isDigit (hne : s ≠ []) (hs : ∀ c ∈ s, c.isDigit = true) :
    digits? s = some (s.map fun c => c.toNat - '0'.toNat) := by
  induction s with
  | nil => exact absurd rfl hne
  | cons c s ih =>
    obtain ⟨hc, hs⟩ := List.forall_mem_cons.1 hs
    have hvalue := digitValue?_of_isDigit hc
    cases s with
    | nil => rw [digits?, hvalue]; rfl
    | cons d s =>
      have hgap : d ≠ '_' := by
        rintro rfl
        exact absurd (hs '_' (by simp)) (by decide)
      rw [digits?, hvalue, ih (by simp) hs]
      · rfl
      · simp
      · simpa using hgap

theorem ofDigits_map (s : List Char) :
    ofDigits (s.map fun c => c.toNat - '0'.toNat) = Nat.ofDigitChars 10 s 0 := by
  rw [ofDigits, List.foldl_map]
  rfl

/-- A run of digits that is not too long is read as the number that it says. -/
theorem digits?_takeWhile (hne : s ≠ []) (hs : ∀ c ∈ s, c.isDigit = true) :
    digits? (s.takeWhile isDigitOrGap) = some (s.map fun c => c.toNat - '0'.toNat) ∧
      s.dropWhile isDigitOrGap = [] := by
  have hrun : ∀ c ∈ s, isDigitOrGap c = true := fun c hc => by
    simp [isDigitOrGap, isDecimalDigit, digitValue?_of_isDigit (hs c hc)]
  rw [List.takeWhile_eq_self_iff.2 hrun, List.dropWhile_eq_nil_iff.2 hrun]
  exact ⟨digits?_of_isDigit hne hs, rfl⟩

theorem splitSign_of_isDigit (hs : ∀ c ∈ s, c.isDigit = true) : splitSign s = (false, s) := by
  unfold splitSign
  split
  · exact absurd (hs '-' (by simp)) (by decide)
  · exact absurd (hs '+' (by simp)) (by decide)
  · rfl

theorem splitSign_sign_append (hs : ∀ c ∈ s, c.isDigit = true) (negative : Bool) :
    splitSign ((if negative then ['-'] else []) ++ s) = (negative, s) := by
  cases negative with
  | true => rfl
  | false => exact splitSign_of_isDigit hs

theorem isDigit_of_mem_toDigits {n : Nat} : ∀ c ∈ Nat.toDigits 10 n, c.isDigit = true :=
  fun _ hc => Nat.isDigit_of_mem_toDigits (by decide) (by decide) hc

/-- No white space stands in the decimal form of an integer. -/
theorem isBlank_of_mem_toString {n : Int} {c : Char} (hc : c ∈ (toString n).toList) :
    isBlank c = false := by
  rw [SqlLiteral.toList_toString, List.mem_append] at hc
  rcases hc with hsign | hc
  · split_ifs at hsign
    · rw [List.mem_singleton.1 hsign]
      decide
    · cases hsign
  · exact isBlank_of_isDigit (isDigit_of_mem_toDigits c hc)

/-- The decimal form of an integer is read as that integer, unless it is too long. -/
theorem read_toString {n : Int} (hdigits : (Nat.toDigits 10 n.natAbs).length ≤ digitLimit) :
    read (toString n).toList = .value n := by
  have hunpadded : ∀ c ∈ (toString n).toList, isPadding c = false := fun c hc => by
    rw [isPadding, isBlank_of_mem_toString hc, Bool.false_and]
  obtain ⟨hrun, hend⟩ := digits?_takeWhile Nat.toDigits_ne_nil (isDigit_of_mem_toDigits (n := n.natAbs))
  have hsplit := splitSign_sign_append (isDigit_of_mem_toDigits (n := n.natAbs)) (decide (n < 0))
  have hvalue : ofDigits ((Nat.toDigits 10 n.natAbs).map fun c => c.toNat - '0'.toNat) = n.natAbs := by
    rw [ofDigits_map]
    simp
  simp only [decide_eq_true_eq] at hsplit
  rw [read, trimBy_eq_self (fun c hc => hunpadded c (List.mem_of_head? hc))
    (fun c hc => hunpadded c (List.mem_of_getLast? hc)), SqlLiteral.toList_toString, hsplit]
  simp only [hrun, hend, List.length_map, if_neg (Nat.not_lt.2 hdigits), hvalue]
  by_cases hneg : n < 0
  · simp only [hneg, decide_true, if_true, ne_eq, not_true_eq_false, if_false]
    congr 1
    omega
  · simp only [hneg, decide_false, Bool.false_eq_true, ne_eq, not_true_eq_false, if_false]
    congr 1
    omega

end IntegerText

end SqlBridge
