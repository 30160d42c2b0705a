import SqlBridge.Connection.Limit
import SqlBridge.Proofs.Environment.Decimal

namespace SqlBridge

open Text

section Infix

variable {α : Type} {c : α} {part xs ys : List α}

theorem prefix_append_cons_iff (hc : c ∉ part) : part <+: xs ++ c :: ys ↔ part <+: xs := by
  induction xs generalizing part with
  | nil =>
    cases part with
    | nil => simp
    | cons d part =>
      have hne : d ≠ c := fun heq => hc (heq ▸ List.mem_cons_self)
      simp [List.cons_prefix_cons, hne]
  | cons x xs ih =>
    cases part with
    | nil => simp
    | cons d part =>
      rw [List.cons_append, List.cons_prefix_cons, List.cons_prefix_cons,
        ih (fun hmem => hc (List.mem_cons_of_mem d hmem))]

/-- A part in which an element does not stand lies wholly on one side of that element. -/
theorem infix_append_cons_iff (hc : c ∉ part) :
    part <:+: xs ++ c :: ys ↔ part <:+: xs ∨ part <:+: ys := by
  induction xs with
  | nil =>
    have hstart : part <+: [] ++ c :: ys ↔ part <+: [] := prefix_append_cons_iff hc
    rw [List.nil_append] at hstart ⊢
    rw [List.infix_cons_iff, hstart, List.infix_nil, List.prefix_nil]
  | cons x xs ih =>
    have hstart : part <+: (x :: xs) ++ c :: ys ↔ part <+: x :: xs := prefix_append_cons_iff hc
    rw [List.cons_append] at hstart ⊢
    rw [List.infix_cons_iff, hstart, ih, List.infix_cons_iff, or_assoc]

end Infix

namespace Limit

variable {cs part : List Char} {c : Char}

/-- The letters of the keyword, each in all the forms that it is found in. -/
def keyword : List (List Char) :=
  [['L', 'l'], ['I', 'i', 'İ', 'ı'], ['M', 'm'], ['I', 'i', 'İ', 'ı'], ['T', 't']]

/-- What is looked for in a statement: white space, the keyword in any case, one more blank and the
first digit of a number. -/
inductive Phrase : List Char → Prop where
  | intro {space gap digit : Char} {word : List Char} (hspace : isBlank space = true)
      (hword : List.Forall₂ (· ∈ ·) word keyword) (hgap : isBlank gap = true)
      (hdigit : isDecimalDigit digit = true) : Phrase (space :: (word ++ [gap, digit]))

/-- A limit stands somewhere in the text. -/
def StandsIn (cs : List Char) : Prop :=
  ∃ part, Phrase part ∧ part <:+: cs

theorem beginsWith_iff : beginsWith cs = true ↔ ∃ part, Phrase part ∧ part <+: cs := by
  constructor
  · intro hbegins
    unfold beginsWith at hbegins
    split at hbegins
    · next space l i m i' t gap digit rest =>
      simp only [Bool.and_eq_true, Bool.or_eq_true, isLetterI, beq_iff_eq] at hbegins
      obtain ⟨⟨⟨⟨⟨⟨⟨hspace, hl⟩, hi⟩, hm⟩, hi'⟩, ht⟩, hgap⟩, hdigit⟩ := hbegins
      have hword : List.Forall₂ (· ∈ ·) [l, i, m, i', t] keyword := by
        simp [keyword, hl, hm, ht, ← or_assoc, hi, hi']
      exact ⟨_, .intro hspace hword hgap hdigit, rest, rfl⟩
    · cases hbegins
  · rintro ⟨_, ⟨hspace, hword, hgap, hdigit⟩, rest, rfl⟩
    simp only [keyword, List.forall₂_cons_right_iff, List.forall₂_nil_right_iff] at hword
    obtain ⟨l, _, hl, ⟨i, _, hi, ⟨m, _, hm, ⟨i', _, hi', ⟨t, _, ht, rfl, rfl⟩, rfl⟩, rfl⟩, rfl⟩, rfl⟩ := hword
    simp only [List.mem_cons, List.not_mem_nil, or_false] at hl hi hm hi' ht
    simp [beginsWith, isLetterI, hspace, hgap, hdigit, hl, hi, hm, hi', ht, or_assoc]

theorem occursIn_iff : occursIn cs = true ↔ StandsIn cs := by
  induction cs with
  | nil =>
    constructor
    · intro hoccurs
      cases hoccurs
    · rintro ⟨_, ⟨-, -, -, -⟩, hpart⟩
      simp at hpart
  | cons c cs ih =>
    rw [occursIn, Bool.or_eq_true, beginsWith_iff, ih, StandsIn, StandsIn, ← exists_or]
    simp only [List.infix_cons_iff, and_or_left]

instance (cs : List Char) : Decidable (StandsIn cs) :=
  decidable_of_iff _ occursIn_iff

@[simp] theorem not_standsIn_nil : ¬ StandsIn [] := by
  decide

theorem not_mem_of_forall₂ {word : List Char} {forms : List (List Char)}
    (hword : List.Forall₂ (· ∈ ·) word forms) (hletter : c ∉ forms.flatten) : c ∉ word := by
  induction hword with
  | nil => exact List.not_mem_nil
  | cons hfirst _ ih =>
    rw [List.flatten_cons, List.mem_append, not_or] at hletter
    rw [List.mem_cons, not_or]
    exact ⟨fun heq => hletter.1 (heq ▸ hfirst), ih hletter.2⟩

/-- A character that is neither white space nor a digit nor a letter of the keyword is in no limit. -/
theorem Phrase.not_mem (hpart : Phrase part) (hblank : isBlank c = false)
    (hdigit : isDecimalDigit c = false) (hletter : c ∉ keyword.flatten) : c ∉ part := by
  obtain ⟨hspace, hword, hgap, hend⟩ := hpart
  simp only [List.mem_cons, List.mem_append, List.not_mem_nil, or_false, not_or]
  refine ⟨?_, not_mem_of_forall₂ hword hletter, ?_, ?_⟩
  · exact fun heq => absurd hspace (by rw [← heq, hblank]; exact Bool.false_ne_true)
  · exact fun heq => absurd hgap (by rw [← heq, hblank]; exact Bool.false_ne_true)
  · exact fun heq => absurd hend (by rw [← heq, hdigit]; exact Bool.false_ne_true)

theorem standsIn_append_cons_iff {xs ys : List Char} (hblank : isBlank c = false)
    (hdigit : isDecimalDigit c = false) (hletter : c ∉ keyword.flatten) :
    StandsIn (xs ++ c :: ys) ↔ StandsIn xs ∨ StandsIn ys := by
  rw [StandsIn, StandsIn, StandsIn, ← exists_or]
  refine exists_congr fun part => ?_
  rw [← and_or_left]
  exact and_congr_right fun hpart => infix_append_cons_iff (hpart.not_mem hblank hdigit hletter)

/-- No digit stands directly after white space. -/
def NoNumber (cs : List Char) : Prop :=
  List.IsChain (fun c d => isBlank c = true → isDecimalDigit d = false) cs

instance (cs : List Char) : Decidable (NoNumber cs) :=
  inferInstanceAs (Decidable (List.IsChain _ cs))

theorem NoNumber.not_standsIn (hcs : NoNumber cs) : ¬ StandsIn cs := by
  rintro ⟨_, ⟨hspace, hword, hgap, hdigit⟩, hpart⟩
  have hend : NoNumber [_, _] := hcs.infix ((List.suffix_append (_ :: _) _).isInfix.trans hpart)
  simp [NoNumber, hgap, hdigit] at hend

/-- Without a digit there is no limit in a statement. -/
theorem not_standsIn_of_digitless (hcs : ∀ c ∈ cs, isDecimalDigit c = false) : ¬ StandsIn cs := by
  rintro ⟨_, @⟨_, _, digit, _, -, -, -, hdigit⟩, hpart⟩
  have hmem : digit ∈ cs := hpart.subset (by simp)
  rw [hcs digit hmem] at hdigit
  cases hdigit

theorem noNumber_of_not_blank (hcs : ∀ c ∈ cs, isBlank c = false) : NoNumber cs := by
  refine List.isChain_iff_forall_rel_of_append_cons_cons.2 fun c d before after hsplit hblank => ?_
  rw [hcs c (by simp [hsplit])] at hblank
  cases hblank

/-- Where no text begins with a digit, none comes to stand after white space. -/
theorem NoNumber.append {xs ys : List Char} (hxs : NoNumber xs) (hys : NoNumber ys)
    (hseam : ∀ c ∈ ys.head?, isDecimalDigit c = false) : NoNumber (xs ++ ys) :=
  List.isChain_append.2 ⟨hxs, hys, fun _ _ d hd _ => hseam d hd⟩

theorem trimEnd_append_blanks {gap : List Char} (hgap : ∀ c ∈ gap, isBlank c = true) :
    trimEnd (cs ++ gap) = trimEnd cs := by
  rw [trimEnd, dropRight_append_of_pos hgap, trimEnd]

theorem trimEnd_eq_self (hlast : ∀ c, cs.getLast? = some c → isBlank c = false ∧ c ≠ ';') :
    trimEnd cs = cs := by
  have hblanks : dropRight isBlank cs = cs := dropRight_eq_self fun c hc => (hlast c hc).1
  have hmarks : dropRight (· == ';') cs = cs :=
    dropRight_eq_self fun c hc => by simp [(hlast c hc).2]
  rw [trimEnd, hblanks, hmarks, hblanks]

end Limit

theorem limitToOne_of_standsIn {sql : String} (hlimit : Limit.StandsIn sql.toList) :
    limitToOne sql = sql := by
  rw [limitToOne, Limit.toOne, if_pos (Limit.occursIn_iff.2 hlimit), String.ofList_toList]

theorem limitToOne_eq_trimEnd {sql : String} (hlimit : ¬ Limit.StandsIn sql.toList) :
    limitToOne sql = String.ofList (Limit.trimEnd sql.toList) ++ " LIMIT 1" := by
  rw [limitToOne, Limit.toOne, if_neg (mt Limit.occursIn_iff.1 hlimit), String.ofList_append]
  rfl

theorem limitToOne_of_not_standsIn {sql : String} (hlimit : ¬ Limit.StandsIn sql.toList)
    (hlast : ∀ c, sql.toList.getLast? = some c → isBlank c = false ∧ c ≠ ';') :
    limitToOne sql = sql ++ " LIMIT 1" := by
  rw [limitToOne_eq_trimEnd hlimit, Limit.trimEnd_eq_self hlast, String.ofList_toList]

/-- White space at the end of a statement makes way for the limit. -/
theorem limitToOne_append_blanks {sql gap : String} (hlimit : ¬ Limit.StandsIn (sql ++ gap).toList)
    (hgap : ∀ c ∈ gap.toList, isBlank c = true)
    (hlast : ∀ c, sql.toList.getLast? = some c → isBlank c = false ∧ c ≠ ';') :
    limitToOne (sql ++ gap) = sql ++ " LIMIT 1" := by
  rw [limitToOne_eq_trimEnd hlimit, String.toList_append, Limit.trimEnd_append_blanks hgap,
    Limit.trimEnd_eq_self hlast, String.ofList_toList]

end SqlBridge
