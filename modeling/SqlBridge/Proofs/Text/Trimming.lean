import Mathlib
import SqlBridge.Text.Blank

namespace SqlBridge.Text

variable {α : Type} {p : α → Bool} {s t part : List α}

/-- What is left of a text when everything that satisfies `p` is taken off its two ends. -/
structure IsTrimmed (p : α → Bool) (s t : List α) : Prop where
  framed : ∃ before after, s = before ++ t ++ after ∧ (∀ c ∈ before, p c = true) ∧
    ∀ c ∈ after, p c = true
  first : ∀ c ∈ t.head?, p c = false
  last : ∀ c ∈ t.getLast?, p c = false

theorem dropRight_eq_self (hlast : ∀ c, s.getLast? = some c → p c = false) : dropRight p s = s := by
  rw [dropRight]
  cases hreverse : s.reverse with
  | nil => rw [List.dropWhile_nil, ← hreverse, List.reverse_reverse]
  | cons c rest =>
    have hc : p c = false := by
      refine hlast c ?_
      rw [List.getLast?_eq_head?_reverse, hreverse, List.head?_cons]
    rw [List.dropWhile_cons_of_neg (by simp [hc]), ← hreverse, List.reverse_reverse]

theorem dropRight_append_of_pos {after : List α} (hafter : ∀ c ∈ after, p c = true) :
    dropRight p (s ++ after) = dropRight p s := by
  rw [dropRight, List.reverse_append, List.dropWhile_append_of_pos (by simpa using hafter), dropRight]

theorem head?_dropWhile_eq_false {c : α} (hc : c ∈ (s.dropWhile p).head?) : p c = false := by
  have hnot := List.head?_dropWhile_not p s
  rw [hc] at hnot
  exact hnot

theorem getLast?_dropRight_eq_false {c : α} (hc : c ∈ (dropRight p s).getLast?) : p c = false := by
  rw [dropRight, List.getLast?_reverse] at hc
  exact head?_dropWhile_eq_false hc

/-- A beginning of a text that ends in nothing to take off lies wholly in what is left when some of
its end is taken off. -/
theorem prefix_of_prefix_append {kept cut : List α} (hcut : ∀ c ∈ cut, p c = true)
    (hpart : part <+: kept ++ cut) (hlast : ∀ c ∈ part.getLast?, p c = false) : part <+: kept := by
  obtain ⟨rest, hsplit⟩ := hpart
  rcases List.append_eq_append_iff.1 hsplit with ⟨behind, rfl, -⟩ | ⟨lost, rfl, hlost⟩
  · exact List.prefix_append part behind
  · rcases List.eq_nil_or_concat' lost with rfl | ⟨front, c, rfl⟩
    · rw [List.append_nil]
    · have hkeep : p c = false := hlast c (by simp)
      rw [hcut c (by simp [hlost])] at hkeep
      cases hkeep

theorem isTrimmed_trimBy (p : α → Bool) (s : List α) : IsTrimmed p s (trimBy p s) := by
  obtain ⟨cut, hsplit, hremoved⟩ := dropRight_split p (s.dropWhile p)
  have hcut : s.dropWhile p = trimBy p s ++ cut := hsplit
  refine ⟨⟨s.takeWhile p, cut, ?_, fun c hc => List.mem_takeWhile_imp hc, hremoved⟩, ?_, ?_⟩
  · rw [List.append_assoc, ← hcut, List.takeWhile_append_dropWhile]
  · intro c hc
    refine head?_dropWhile_eq_false (s := s) ?_
    have hne : trimBy p s ≠ [] := by
      intro hnil
      rw [hnil] at hc
      cases hc
    rw [hcut, List.head?_append_of_ne_nil _ hne]
    exact hc
  · exact fun c hc => getLast?_dropRight_eq_false hc

theorem trimBy_subset (p : α → Bool) (s : List α) : trimBy p s ⊆ s := by
  obtain ⟨before, after, hsplit, -⟩ := (isTrimmed_trimBy p s).framed
  exact List.IsInfix.subset ⟨before, after, hsplit.symm⟩

theorem trimBy_cons_of_pos {c : α} (hc : p c = true) : trimBy p (c :: s) = trimBy p s := by
  rw [trimBy, List.dropWhile_cons_of_pos hc, trimBy]

/-- Trimming is told by its result: between two parts that are taken off stands one with nothing to
take off at its ends. -/
theorem trimBy_eq_iff : trimBy p s = t ↔ IsTrimmed p s t := by
  constructor
  · rintro rfl
    exact isTrimmed_trimBy p s
  · rintro ⟨⟨before, after, rfl, hbefore, hafter⟩, hfirst, hlast⟩
    rw [trimBy, List.append_assoc, List.dropWhile_append_of_pos hbefore]
    -- Dropping from the front stops at the first element of `t`. Only without one does it go on to `after`.
    cases t with
    | nil => rw [List.nil_append, List.dropWhile_eq_nil_iff.2 hafter, dropRight_nil]
    | cons c t =>
      rw [List.cons_append, List.dropWhile_cons_of_neg (by simp [hfirst c rfl]), ← List.cons_append,
        dropRight_append_of_pos hafter, dropRight_eq_self hlast]

/-- Trimming leaves just those texts alone that have nothing to take off at their ends. -/
theorem isTrimmed_self_iff :
    IsTrimmed p s s ↔ (∀ c ∈ s.head?, p c = false) ∧ ∀ c ∈ s.getLast?, p c = false :=
  ⟨fun htrimmed => ⟨htrimmed.first, htrimmed.last⟩,
    fun ⟨hfirst, hlast⟩ => ⟨⟨[], [], by simp, by simp, by simp⟩, hfirst, hlast⟩⟩

/-- A text is left as it is when neither end is to be removed. -/
theorem trimBy_eq_self (hfirst : ∀ c, s.head? = some c → p c = false)
    (hlast : ∀ c, s.getLast? = some c → p c = false) : trimBy p s = s :=
  trimBy_eq_iff.2 (isTrimmed_self_iff.2 ⟨hfirst, hlast⟩)

theorem isTrimmed_framed {c : α} (hc : p c = true) (hs : ∀ d ∈ s, p d = false) :
    IsTrimmed p (c :: s ++ [c]) s :=
  ⟨⟨[c], [c], rfl, by simpa using hc, by simpa using hc⟩, fun d hd => hs d (List.mem_of_mem_head? hd),
    fun d hd => hs d (List.mem_of_mem_getLast? hd)⟩

theorem infix_dropWhile_iff (hpart : ∀ c ∈ part, p c = false) :
    part <:+: s.dropWhile p ↔ part <:+: s := by
  induction s with
  | nil => rfl
  | cons c s ih =>
    cases hc : p c with
    | false => rw [List.dropWhile_cons_of_neg (by simp [hc])]
    | true =>
      rw [List.dropWhile_cons_of_pos hc, ih, List.infix_cons_iff]
      refine ⟨.inr, ?_⟩
      rintro (hbegins | hinside)
      · cases part with
        | nil => exact List.nil_infix
        | cons d part =>
          obtain ⟨rfl, -⟩ := List.cons_prefix_cons.1 hbegins
          rw [hpart d List.mem_cons_self] at hc
          cases hc
      · exact hinside

/-- Trimming keeps every part that holds nothing of what is taken off, and makes no new one. -/
theorem infix_trimBy_iff (hpart : ∀ c ∈ part, p c = false) : part <:+: trimBy p s ↔ part <:+: s := by
  rw [trimBy, dropRight, ← List.reverse_infix, List.reverse_reverse,
    infix_dropWhile_iff (by simpa using hpart), List.reverse_infix, infix_dropWhile_iff hpart]

theorem mem_trimBy_iff {c : α} (hc : p c = false) : c ∈ trimBy p s ↔ c ∈ s := by
  have hsingle : ∀ d ∈ [c], p d = false := by simpa using hc
  rw [← List.singleton_infix_iff, infix_trimBy_iff hsingle, List.singleton_infix_iff]

/-- Something is left when not everything is to be taken off. -/
theorem trimBy_ne_nil_iff : trimBy p s ≠ [] ↔ ∃ c ∈ s, p c = false := by
  constructor
  · intro hne
    obtain ⟨c, rest, hcons⟩ := List.exists_cons_of_ne_nil hne
    have hc : p c = false := (isTrimmed_trimBy p s).first c (by rw [hcons]; rfl)
    exact ⟨c, trimBy_subset p s (by simp [hcons]), hc⟩
  · rintro ⟨c, hmem, hc⟩
    exact List.ne_nil_of_mem ((mem_trimBy_iff hc).2 hmem)

end SqlBridge.Text
