import SqlBridge.Literal
import SqlBridge.Proofs.Literal.Reader

namespace SqlBridge

open Text

namespace SqlLiteral

theorem Ends.head_ne {rest : List Char} (hends : Ends rest) {c : Char} (hne : c ≠ ')') :
    rest.head? ≠ some c := by
  rcases hends with rfl | ⟨after, rfl⟩
  · simp
  · simpa using Ne.symm hne

theorem readString_escaped (s : List Char) {rest : List Char} (hrest : rest.head? ≠ some '\'') :
    readString (s.flatMap (fun c => if c = '\'' then ['\'', '\''] else [c]) ++ '\'' :: rest) =
      some (s, rest) := by
  induction s with
  | nil =>
    -- A quote after the closing one would make it a quote of the string.
    cases rest with
    | nil => rfl
    | cons c rest =>
      have hc : c ≠ '\'' := by simpa using hrest
      simp [readString, hc]
  | cons c s ih =>
    by_cases hc : c = '\''
    · subst hc
      simp [readString, ih]
    · simp [readString, hc, ih]

theorem readsAs_stringLiteral (s : List Char) : ReadsAs (Value.stringLiteral s) (string s) := by
  intro rest hends
  have hread := readString_escaped s (hends.head_ne (c := '\'') (by decide))
  simp [Value.stringLiteral, read, hread]

theorem hexValue_hexDigit :
    ∀ n : Fin 16, hexValue? (hexDigit n) = some n.val ∧ hexDigit n ≠ '\'' := by
  decide

theorem readHex_hexBytes (data : List UInt8) (rest : List Char) :
    readHex (hexBytes data ++ '\'' :: rest) = some (data, rest) := by
  induction data with
  | nil => rfl
  | cons byte data ih =>
    have hlt := byte.toNat_lt
    obtain ⟨hhigh, hquote⟩ := hexValue_hexDigit ⟨byte.toNat / 16 % 16, Nat.mod_lt _ (by decide)⟩
    obtain ⟨hlow, _⟩ := hexValue_hexDigit ⟨byte.toNat % 16, Nat.mod_lt _ (by decide)⟩
    have hbyte : UInt8.ofNat (16 * (byte.toNat / 16 % 16) + byte.toNat % 16) = byte := by
      have hvalue : 16 * (byte.toNat / 16 % 16) + byte.toNat % 16 = byte.toNat := by omega
      rw [hvalue, UInt8.ofNat_toNat]
    have hpair : hexBytes (byte :: data) =
        hexDigit (byte.toNat / 16 % 16) :: hexDigit (byte.toNat % 16) :: hexBytes data := rfl
    simp only at hhigh hlow
    rw [hpair, List.cons_append, List.cons_append, readHex]
    · rw [hhigh, hlow, ih]
      change some (UInt8.ofNat (16 * (byte.toNat / 16 % 16) + byte.toNat % 16) :: data, rest) = _
      rw [hbyte]
    · exact hquote

theorem readsAs_hexBytes (data : List UInt8) :
    ReadsAs ('X' :: '\'' :: hexBytes data ++ ['\'']) (blob data) := by
  intro rest _
  simp [read, readHex_hexBytes]

private theorem isDigit_of_mem_decimal {n : Nat} {c : Char} (hc : c ∈ Nat.toDigits 10 n) :
    c.isDigit = true :=
  Nat.isDigit_of_mem_toDigits (by decide) (by decide) hc

theorem readDigits_toDigits (n : Nat) {rest : List Char} (hends : Ends rest) :
    readDigits (Nat.toDigits 10 n ++ rest) = some (n, rest) := by
  have hdigit : ∀ c ∈ Nat.toDigits 10 n, c.isDigit = true := fun c hc => isDigit_of_mem_decimal hc
  have hne : Nat.toDigits 10 n ≠ [] := Nat.toDigits_ne_nil
  have hstop : rest.takeWhile Char.isDigit = [] ∧ rest.dropWhile Char.isDigit = rest ∧
      rest.head?.any (fun c => isWordChar c || c == '.') = false := by
    rcases hends with rfl | ⟨after, rfl⟩ <;> exact ⟨rfl, rfl, rfl⟩
  obtain ⟨htake, hdrop, hhead⟩ := hstop
  rw [readDigits, List.takeWhile_append_of_pos hdigit, List.dropWhile_append_of_pos hdigit, htake,
    hdrop, hhead]
  simp [hne]

private theorem read_of_isDigit {c : Char} {cs : List Char} (hc : c.isDigit = true) :
    read (c :: cs) = readUnmarked (c :: cs) := by
  have hne {d : Char} (hd : d.isDigit = false) : c ≠ d := by
    rintro rfl
    rw [hc] at hd
    cases hd
  have hquote : c ≠ '\'' := hne (by decide)
  have hhex : c ≠ 'X' ∧ c ≠ 'x' := ⟨hne (by decide), hne (by decide)⟩
  have hsign : c ≠ '-' ∧ c ≠ '+' := ⟨hne (by decide), hne (by decide)⟩
  simp [read, hquote, hhex, hsign]

theorem readsAs_toDigits (n : Nat) : ReadsAs (Nat.toDigits 10 n) (number n) := by
  intro rest hends
  have hread := readDigits_toDigits n hends
  have hdigit : ∀ c ∈ Nat.toDigits 10 n, c.isDigit = true := fun c hc => isDigit_of_mem_decimal hc
  obtain ⟨c, cs, hdecimal⟩ := List.exists_cons_of_ne_nil (Nat.toDigits_ne_nil (n := n) (b := 10))
  rw [hdecimal, List.cons_append] at hread ⊢
  rw [read_of_isDigit (hdigit c (by simp [hdecimal])), readUnmarked, hread]

/-- The decimal form of an integer is a run of digits, after a hyphen when it is negative. -/
theorem toList_toString (n : Int) :
    (toString n).toList = (if n < 0 then ['-'] else []) ++ Nat.toDigits 10 n.natAbs := by
  cases n with
  | ofNat n => simp [Int.repr_eq_if]
  | negSucc n => simp [Int.repr_eq_if]

theorem readsAs_toString (n : Int) : ReadsAs (toString n).toList (number n) := by
  rw [toList_toString]
  by_cases hneg : n < 0
  · intro rest hends
    have hvalue : -(n.natAbs : Int) = n := by omega
    rw [if_pos hneg, List.singleton_append, List.cons_append, read,
      readDigits_toDigits n.natAbs hends]
    change some (number (-(n.natAbs : Int)), rest) = some (number n, rest)
    rw [hvalue]
  · have hvalue : (n.natAbs : Int) = n := by omega
    have hread := readsAs_toDigits n.natAbs
    rw [hvalue] at hread
    rwa [if_neg hneg, List.nil_append]

theorem readsAs_null : ReadsAs ['N', 'U', 'L', 'L'] null := by
  rintro rest (rfl | ⟨after, rfl⟩) <;> rfl

end SqlLiteral

namespace Value

open SqlLiteral

/-- The literal that says a value, for the values that a literal can say exactly. -/
inductive Denotes : Value → SqlLiteral → Prop where
  | null : Denotes .null .null
  | bool (b : Bool) : Denotes (.bool b) (.number (if b then 1 else 0))
  | int {n : Int} (hdigits : (Nat.toDigits 10 n.natAbs).length ≤ IntegerText.digitLimit) :
      Denotes (.int n) (.number n)
  | text (s : String) : Denotes (.text s) (.string s.toList)
  | bytes (form : ByteForm) (data : List UInt8) : Denotes (.bytes form data) (.blob data)

theorem readsAs_literal {v : Value} {literal : SqlLiteral} (hdenotes : v.Denotes literal) :
    ReadsAs v.literal.toList literal := by
  cases hdenotes with
  | null => simpa [Value.literal] using readsAs_null
  | bool b =>
    cases b with
    | false => exact readsAs_toDigits 0
    | true => exact readsAs_toDigits 1
  | int _ => exact readsAs_toString _
  | text s => simpa [Value.literal, shown] using readsAs_stringLiteral s.toList
  | bytes form data => simpa [Value.literal] using readsAs_hexBytes data

theorem coerce_str (v : Value) :
    v.coerce (some .str) = .ok (.text (if v.isNull then "" else v.shown)) := by
  cases v <;> rfl

/-- What a literal can say exactly is read back from its quoted form. As a string every value is one
    quoted string that says the value's text, and as an integer nothing but an integer's digits is
    written. -/
theorem quoteLiteral_reads_back (v : Value) (type : Option ParamType) :
    (∀ c literal, v.coerce type = .ok c → c.Denotes literal →
      ∃ text, v.quoteLiteral type = .ok text ∧ ReadsAs text.toList literal) ∧
    (∃ text, v.quoteLiteral (some .str) = .ok text ∧
      ReadsAs text.toList (.string (if v.isNull then [] else v.shown.toList))) ∧
    ∀ text, v.quoteLiteral (some .int) = .ok text →
      ∃ sign digits, text.toList = sign ++ digits ∧ (sign = [] ∨ sign = ['-']) ∧
        digits ≠ [] ∧ ∀ c ∈ digits, c.isDigit = true := by
  refine ⟨?_, ?_, ?_⟩
  · intro c literal hcoerce hdenotes
    exact ⟨c.literal, by rw [quoteLiteral, hcoerce]; rfl, readsAs_literal hdenotes⟩
  · have hread := readsAs_literal (.text (if v.isNull then "" else v.shown))
    refine ⟨_, by rw [quoteLiteral, coerce_str]; rfl, ?_⟩
    cases hnull : v.isNull <;> simpa [hnull] using hread
  · intro text hquote
    rw [quoteLiteral, coerce] at hquote
    cases hint : v.toInteger with
    | error e =>
      rw [hint] at hquote
      cases hquote
    | ok n =>
      rw [hint] at hquote
      cases hquote
      refine ⟨if n < 0 then ['-'] else [], Nat.toDigits 10 n.natAbs, toList_toString n, ?_,
        Nat.toDigits_ne_nil, fun c hc => isDigit_of_mem_decimal hc⟩
      by_cases hneg : n < 0
      · exact .inr (if_pos hneg)
      · exact .inl (if_neg hneg)

end Value

end SqlBridge
