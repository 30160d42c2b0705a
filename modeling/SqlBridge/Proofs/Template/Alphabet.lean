import Mathlib
import SqlBridge.Template

namespace SqlBridge

open Text

/-- The letters and digits of ASCII. -/
def IsAlphanumeric (c : Char) : Prop :=
  ('A' ≤ c ∧ c ≤ 'Z') ∨ ('a' ≤ c ∧ c ≤ 'z') ∨ ('0' ≤ c ∧ c ≤ '9')

/-- The characters of which the name of a placeholder is made. -/
def InNameAlphabet (c : Char) : Prop :=
  IsAlphanumeric c ∨ c ∈ ['_', '.', '-']

/-- The characters of which inserted texts and written defaults are made. -/
def InValueAlphabet (c : Char) : Prop :=
  IsAlphanumeric c ∨ c ∈ [' ', '\t', '?', '_', ':', '.', '<', '=', '>', '-']

theorem isAlphanum_iff {c : Char} : c.isAlphanum = true ↔ IsAlphanumeric c := by
  simp [Char.isAlphanum, Char.isAlpha, Char.isUpper, Char.isLower, Char.isDigit, IsAlphanumeric,
    Char.le_def, or_assoc]

theorem isNameChar_iff {c : Char} : isNameChar c = true ↔ InNameAlphabet c := by
  simp [isNameChar, InNameAlphabet, isAlphanum_iff, or_assoc]

theorem isValueChar_iff {c : Char} : isValueChar c = true ↔ InValueAlphabet c := by
  simp [isValueChar, InValueAlphabet, isAlphanum_iff, or_assoc]

instance (c : Char) : Decidable (InValueAlphabet c) :=
  decidable_of_iff (isValueChar c = true) isValueChar_iff

/-- A placeholder's name holds none of the characters that open, close or divide a placeholder. -/
theorem not_inNameAlphabet {c : Char} (hc : c ∈ ['{', '$', '}', '=']) : ¬ InNameAlphabet c := by
  rw [← isNameChar_iff]
  simp only [List.mem_cons, List.not_mem_nil, or_false] at hc
  rcases hc with rfl | rfl | rfl | rfl <;> decide

/-- A default may hold an equals sign, but no brace and no dollar sign. -/
theorem not_inValueAlphabet {c : Char} (hc : c ∈ ['{', '$', '}']) : ¬ InValueAlphabet c := by
  rw [← isValueChar_iff]
  simp only [List.mem_cons, List.not_mem_nil, or_false] at hc
  rcases hc with rfl | rfl | rfl <;> decide

private theorem IsAlphanumeric.toNat_bounds {c : Char} (hc : IsAlphanumeric c) :
    48 ≤ c.toNat ∧ c.toNat ≤ 122 := by
  simp only [IsAlphanumeric, Char.le_def, UInt32.le_iff_toNat_le] at hc
  simp only [Char.toNat, Char.reduceVal, UInt32.reduceToNat] at hc ⊢
  omega

theorem InNameAlphabet.isBlank_eq_false {c : Char} (hc : InNameAlphabet c) : isBlank c = false := by
  rcases hc with hc | hc
  · have hbounds := hc.toNat_bounds
    simp [isBlank]
    omega
  · simp only [List.mem_cons, List.not_mem_nil, or_false] at hc
    rcases hc with rfl | rfl | rfl <;> decide

end SqlBridge
