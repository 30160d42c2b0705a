import SqlBridge.Proofs.Template.Resolution

namespace SqlBridge

open Text

/-- The two characters that open a placeholder. -/
def opening : List Char := ['{', '$']

/-- Wherever a placeholder is opened in the text, one begins. -/
def OpensOnlyPlaceholders (cs : List Char) : Prop :=
  ∀ rest, opening ++ rest <:+ cs → ∃ text p, PlaceholderText text p ∧ text <+: opening ++ rest

/-- A placeholder that can be written: the name is a run of characters for names, and a default is a
run of characters for values. -/
structure Placeholder.IsWritable (p : Placeholder) : Prop where
  name_ne_empty : p.name ≠ ""
  inNameAlphabet : ∀ c ∈ p.name.toList, InNameAlphabet c
  rawDefault_spec : ∀ raw, p.rawDefault? = some raw →
    raw ≠ "" ∧ ∀ c ∈ raw.toList, InValueAlphabet c

theorem PlaceholderText.opening_prefix {text : List Char} {p : Placeholder}
    (htext : PlaceholderText text p) : opening <+: text := by
  cases htext with
  | @intro name tail _ _ _ _ _ => exact ⟨name ++ tail ++ ['}'], by simp [opening]⟩

/-- What is written for a placeholder is one of its written forms. -/
theorem Placeholder.IsWritable.placeholderText {p : Placeholder} (hp : p.IsWritable)
    {gap : List Char} (hgap : ∀ c ∈ gap, isBlank c = true) : PlaceholderText (p.source gap) p := by
  obtain ⟨hne, hname, hdefault⟩ := hp
  obtain ⟨name, assignment⟩ := p
  have hname_ne : name.toList ≠ [] := by simpa using hne
  have hof {tail : List Char}
      (htail : AssignmentText tail (Placeholder.mk name assignment).hasEquals
        (Placeholder.mk name assignment).rawDefault?) :
      PlaceholderText ('{' :: '$' :: name.toList ++ tail ++ ['}']) ⟨name, assignment⟩ :=
    .intro String.ofList_toList.symm hname_ne hname htail
  cases assignment with
  | absent => exact hof .absent
  | bare => exact hof (.bare hgap)
  | preset raw =>
    obtain ⟨hraw_ne, hraw⟩ := hdefault raw rfl
    have htail : AssignmentText (gap ++ '=' :: raw.toList) true (some (String.ofList raw.toList)) :=
      .preset hgap (by simpa using hraw_ne) hraw
    rw [String.ofList_toList] at htail
    exact hof htail

/-- Every written form of a placeholder is what is written for it with some white space before the
equals sign. -/
theorem PlaceholderText.exists_source {text : List Char} {p : Placeholder}
    (htext : PlaceholderText text p) :
    p.IsWritable ∧ ∃ gap, (∀ c ∈ gap, isBlank c = true) ∧ text = p.source gap := by
  have hdefault : ∀ raw, p.rawDefault? = some raw →
      raw ≠ "" ∧ ∀ c ∈ raw.toList, InValueAlphabet c := fun _ hraw => htext.rawDefault_spec hraw
  cases htext with
  | @intro name tail _ hp hne hname htail =>
    refine ⟨⟨by simpa [hp] using hne, by simpa [hp] using hname, hdefault⟩, ?_⟩
    obtain ⟨pname, assignment⟩ := p
    obtain rfl : pname = String.ofList name := hp
    cases assignment with
    | absent =>
      have htail : AssignmentText tail false none := htail
      cases htail with
      | absent => exact ⟨[], by simp, by simp [Placeholder.source]⟩
    | bare =>
      have htail : AssignmentText tail true none := htail
      cases htail with
      | bare hgap => exact ⟨_, hgap, by simp [Placeholder.source]⟩
    | preset raw =>
      have htail : AssignmentText tail true (some raw) := htail
      cases htail with
      | preset hgap _ _ => exact ⟨_, hgap, by simp [Placeholder.source]⟩

private theorem exists_holes {texts : List (List Char)} {ps : List Placeholder}
    (htexts : List.Forall₂ PlaceholderText texts ps) :
    ∃ holes : List (Placeholder × List Char),
      (∀ hole ∈ holes, hole.1.IsWritable ∧ ∀ c ∈ hole.2, isBlank c = true) ∧
      (holes.map fun hole => hole.1.source hole.2) = texts ∧ holes.map Prod.fst = ps := by
  induction htexts with
  | nil => exact ⟨[], by simp, rfl, rfl⟩
  | @cons text p texts ps htext _ ih =>
    obtain ⟨hwritable, gap, hgap, rfl⟩ := htext.exists_source
    obtain ⟨holes, hholes, rfl, rfl⟩ := ih
    exact ⟨(p, gap) :: holes, List.forall_mem_cons.2 ⟨⟨hwritable, hgap⟩, hholes⟩, rfl, rfl⟩

/-- No placeholder begins where none is opened. -/
theorem holeAt_eq_none_of_not_opening {cs : List Char} (hopening : ¬ opening <+: cs) :
    holeAt? cs = none := by
  refine holeAt_eq_none_iff.2 fun text p htext hbegins => ?_
  exact hopening (htext.opening_prefix.trans hbegins)

/-- A text in which nothing is opened does not begin to open anything by what stands behind it, unless
it ends in a brace with a dollar sign behind. -/
theorem not_opening_begins_append {cs rest : List Char} (hne : cs ≠ []) (hcs : ¬ opening <:+: cs)
    (hseam : cs.getLast? ≠ some '{' ∨ rest.head? ≠ some '$') : ¬ opening <+: cs ++ rest := by
  intro hbegins
  cases cs with
  | nil => exact hne rfl
  | cons c cs =>
    obtain ⟨rfl, htail⟩ := List.cons_prefix_cons.1 hbegins
    cases cs with
    | nil =>
      obtain ⟨more, rfl⟩ := htail
      simp at hseam
    | cons d cs =>
      obtain ⟨rfl, -⟩ := List.cons_prefix_cons.1 htail
      exact hcs ⟨[], cs, rfl⟩

/-- A text in which nothing is opened is passed over character by character, also when it ends in a
brace, unless a dollar sign follows it. -/
theorem scan_append_of_not_opening {lit rest : List Char} (hlit : ¬ opening <:+: lit)
    (hrest : rest.head? ≠ some '$') : scan (lit ++ rest) = lit.map .char ++ scan rest := by
  induction lit with
  | nil => rfl
  | cons c lit ih =>
    have hbegins : ¬ opening <+: c :: lit ++ rest :=
      not_opening_begins_append (List.cons_ne_nil c lit) hlit (.inr hrest)
    have hlit' : ¬ opening <:+: lit := fun hopens => hlit (List.infix_cons hopens)
    rw [List.cons_append] at hbegins ⊢
    rw [scan_cons_of_none (holeAt_eq_none_of_not_opening hbegins), ih hlit', List.map_cons,
      List.cons_append]

private theorem filterMap_placeholder_chars (lit : List Char) (pieces : List Piece) :
    (lit.map Piece.char ++ pieces).filterMap Piece.placeholder? =
      pieces.filterMap Piece.placeholder? := by
  rw [List.filterMap_append, List.filterMap_eq_nil_iff.2 (by simp [Piece.placeholder?]),
    List.nil_append]

private theorem literals_chars_append (lit : List Char) (pieces : List Piece) :
    Piece.literals (lit.map .char ++ pieces) = (Piece.literals pieces).modifyHead (lit ++ ·) := by
  induction lit with
  | nil => exact (congrFun List.modifyHead_id _).symm
  | cons c lit ih =>
    rw [List.map_cons, List.cons_append, Piece.literals, ih, List.modifyHead_modifyHead]
    rfl

/-- Written placeholders are found again between any literals in which nothing is opened, and so are
the literals. -/
theorem scan_weave {lits texts : List (List Char)} {ps : List Placeholder}
    (hlength : lits.length = texts.length + 1) (hlits : ∀ lit ∈ lits, ¬ opening <:+: lit)
    (htexts : List.Forall₂ PlaceholderText texts ps) :
    (scan (weave lits texts)).filterMap Piece.placeholder? = ps ∧
      Piece.literals (scan (weave lits texts)) = lits := by
  induction htexts generalizing lits with
  | nil =>
    obtain ⟨lit, rfl⟩ := List.length_eq_one_iff.1 hlength
    have hscan : scan (lit ++ []) = lit.map .char ++ scan [] :=
      scan_append_of_not_opening (hlits lit (by simp)) (by simp)
    rw [List.append_nil] at hscan
    rw [weave, hscan, filterMap_placeholder_chars, literals_chars_append, scan_nil]
    exact ⟨rfl, by simp [Piece.literals]⟩
  | @cons text p texts ps htext _ ih =>
    cases lits with
    | nil => cases hlength
    | cons lit lits =>
      obtain ⟨hlit, hlits⟩ := List.forall_mem_cons.1 hlits
      obtain ⟨hfound, hliterals⟩ := ih (Nat.succ.inj hlength) hlits
      obtain ⟨gap, hread⟩ := htext.exists_holeAt (weave lits texts)
      have hhead : (text ++ weave lits texts).head? ≠ some '$' := by
        obtain ⟨body, rfl, -⟩ := htext.eq_cons
        simp
      rw [weave, List.append_assoc, scan_append_of_not_opening hlit hhead, scan_of_holeAt hread,
        filterMap_placeholder_chars, literals_chars_append]
      constructor
      · have hfirst : (Piece.hole p gap).placeholder? = some p := rfl
        rw [List.filterMap_cons_some hfirst, hfound]
      · rw [Piece.literals, hliterals, List.modifyHead_cons, List.append_nil]

private theorem exists_literals_cons (pieces : List Piece) :
    ∃ lit lits, Piece.literals pieces = lit :: lits ∧ lit <+: sourceOf pieces := by
  induction pieces with
  | nil => exact ⟨[], [], rfl, List.nil_prefix⟩
  | cons piece pieces ih =>
    cases piece with
    | char c =>
      obtain ⟨lit, lits, hliterals, hprefix⟩ := ih
      refine ⟨c :: lit, lits, by rw [Piece.literals, hliterals, List.modifyHead_cons], ?_⟩
      exact List.cons_prefix_cons.2 ⟨rfl, hprefix⟩
    | hole p gap => exact ⟨[], Piece.literals pieces, rfl, List.nil_prefix⟩

/-- At no place of a literal does the template go on with a placeholder. -/
theorem exists_suffix_of_mem_literals {cs lit s : List Char}
    (hlit : lit ∈ Piece.literals (scan cs)) (hs : s <:+ lit) (hne : s ≠ []) :
    ∃ after, s ++ after <:+ cs ∧ holeAt? (s ++ after) = none := by
  induction cs using scan.induct generalizing lit with
  | case1 cs p gap rest hread ih =>
    rw [scan_of_holeAt hread, Piece.literals] at hlit
    rcases List.mem_cons.1 hlit with rfl | hlit
    · exact absurd (List.suffix_nil.1 hs) hne
    · obtain ⟨after, hsuffix, hnone⟩ := ih hlit hs
      exact ⟨after, hsuffix.trans ⟨_, holeAt_source hread⟩, hnone⟩
  | case2 =>
    rw [scan_nil, Piece.literals, List.mem_singleton] at hlit
    subst hlit
    exact absurd (List.suffix_nil.1 hs) hne
  | case3 c rest hread ih =>
    obtain ⟨first, lits, hliterals, hprefix⟩ := exists_literals_cons (scan rest)
    rw [sourceOf_scan] at hprefix
    rw [hliterals] at ih
    rw [scan_cons_of_none hread, Piece.literals, hliterals, List.modifyHead_cons,
      List.mem_cons] at hlit
    have later {lit : List Char} (hlit : lit ∈ first :: lits) (hs : s <:+ lit) :
        ∃ after, s ++ after <:+ c :: rest ∧ holeAt? (s ++ after) = none := by
      obtain ⟨after, hsuffix, hnone⟩ := ih hlit hs
      exact ⟨after, hsuffix.trans (List.suffix_cons c rest), hnone⟩
    rcases hlit with rfl | hlit
    · rcases List.suffix_cons_iff.1 hs with rfl | hs
      · obtain ⟨after, rfl⟩ := hprefix
        exact ⟨after, List.suffix_rfl, hread⟩
      · exact later (by simp) hs
    · exact later (by simp [hlit]) hs

/-- No literal of a template has a written form of a placeholder in it. -/
theorem not_placeholderText_infix {cs lit text : List Char} {p : Placeholder}
    (hlit : lit ∈ literals cs) (htext : PlaceholderText text p) : ¬ text <:+: lit := by
  rintro ⟨before, after, rfl⟩
  rw [literals_eq_piece_literals] at hlit
  have hne : text ++ after ≠ [] := by
    obtain ⟨body, rfl, -⟩ := htext.eq_cons
    simp
  obtain ⟨later, -, hnone⟩ :=
    exists_suffix_of_mem_literals hlit ⟨before, (List.append_assoc ..).symm⟩ hne
  exact holeAt_eq_none_iff.1 hnone text p htext ⟨after ++ later, (List.append_assoc ..).symm⟩

/-- Where only placeholders are opened, nothing is opened in a literal. -/
theorem not_opening_infix_of_mem_literals {cs lit : List Char} (hopens : OpensOnlyPlaceholders cs)
    (hlit : lit ∈ literals cs) : ¬ opening <:+: lit := by
  rintro ⟨before, after, rfl⟩
  rw [literals_eq_piece_literals] at hlit
  obtain ⟨later, hsuffix, hnone⟩ :=
    exists_suffix_of_mem_literals hlit ⟨before, (List.append_assoc ..).symm⟩ (by simp [opening])
  rw [List.append_assoc] at hsuffix hnone
  obtain ⟨text, p, htext, hbegins⟩ := hopens _ hsuffix
  exact holeAt_eq_none_iff.1 hnone text p htext hbegins

/-- A brace and a dollar sign that begin no placeholder stand in a literal. -/
theorem opensOnlyPlaceholders_of_literals {cs : List Char}
    (hliterals : ∀ lit ∈ Piece.literals (scan cs), ¬ opening <:+: lit) :
    OpensOnlyPlaceholders cs := by
  induction cs using scan.induct with
  | case1 cs p gap rest hread ih =>
    rw [scan_of_holeAt hread, Piece.literals] at hliterals
    have ih := ih fun lit hlit => hliterals lit (by simp [hlit])
    have htext := placeholderText_of_holeAt hread
    rintro after ⟨before, heq⟩
    rw [← holeAt_source hread] at heq
    rcases List.append_eq_append_iff.1 heq with ⟨inside, hsource, hafter⟩ | ⟨between, -, hrest⟩
    · cases inside with
      | nil => exact ih after ⟨[], hafter⟩
      | cons c inside =>
        -- A brace inside a placeholder is its first character.
        obtain ⟨body, hbody, hno⟩ := htext.eq_cons
        obtain ⟨rfl, -⟩ := List.cons.inj hafter
        cases before with
        | nil => exact ⟨_, p, htext, ⟨rest, by rw [hsource, hafter]; rfl⟩⟩
        | cons d before =>
          rw [hbody] at hsource
          exact absurd (by simp [(List.cons.inj hsource).2]) hno
    · exact ih after ⟨between, hrest.symm⟩
  | case2 =>
    intro after hsuffix
    exact absurd (List.suffix_nil.1 hsuffix) (by simp [opening])
  | case3 c rest hread ih =>
    obtain ⟨first, lits, hfirst, -⟩ := exists_literals_cons (scan rest)
    rw [scan_cons_of_none hread, Piece.literals, hfirst, List.modifyHead_cons,
      List.forall_mem_cons] at hliterals
    obtain ⟨hhead, hlits⟩ := hliterals
    intro after hsuffix
    rcases List.suffix_cons_iff.1 hsuffix with heq | hsuffix
    · obtain ⟨rfl, rfl⟩ : c = '{' ∧ rest = '$' :: after := by simpa [opening, eq_comm] using heq
      have hdollar : holeAt? ('$' :: after) = none :=
        holeAt_eq_none_of_not_opening (by simp [opening])
      rw [scan_cons_of_none hdollar, Piece.literals] at hfirst
      obtain ⟨next, nexts, hnext, -⟩ := exists_literals_cons (scan after)
      rw [hnext, List.modifyHead_cons] at hfirst
      obtain ⟨rfl, -⟩ := List.cons.inj hfirst
      exact absurd ⟨[], next, rfl⟩ hhead
    · refine ih ?_ after hsuffix
      rw [hfirst, List.forall_mem_cons]
      exact ⟨fun hopens => hhead (List.infix_cons hopens), hlits⟩

theorem opensOnlyPlaceholders_iff {cs : List Char} :
    OpensOnlyPlaceholders cs ↔ ∀ lit ∈ literals cs, ¬ opening <:+: lit := by
  constructor
  · exact fun hopens lit hlit => not_opening_infix_of_mem_literals hopens hlit
  · intro hliterals
    rw [literals_eq_piece_literals] at hliterals
    exact opensOnlyPlaceholders_of_literals hliterals

/-- Printing placeholders and finding them are inverse. Placeholders that are printed between literals
in which nothing is opened are found again just as they are, and the literals are what stands between
them. Every template is made in this way of the placeholders found in it and the literals between
them; no literal has a placeholder in it, and one in which something is opened is there only if the
template opens something that is no placeholder. -/
theorem findPlaceholders_inverts_printing :
    (∀ (lits : List (List Char)) (holes : List (Placeholder × List Char)),
      lits.length = holes.length + 1 → (∀ lit ∈ lits, ¬ opening <:+: lit) →
      (∀ hole ∈ holes, hole.1.IsWritable ∧ ∀ c ∈ hole.2, isBlank c = true) →
      let printed := weave lits (holes.map fun hole => hole.1.source hole.2)
      findPlaceholders (String.ofList printed) = holes.map Prod.fst ∧ literals printed = lits) ∧
    ∀ t : String, ∃ holes : List (Placeholder × List Char),
      (∀ hole ∈ holes, hole.1.IsWritable ∧ ∀ c ∈ hole.2, isBlank c = true) ∧
      holes.map Prod.fst = findPlaceholders t ∧
      (literals t.toList).length = holes.length + 1 ∧
      weave (literals t.toList) (holes.map fun hole => hole.1.source hole.2) = t.toList ∧
      (∀ lit ∈ literals t.toList, ∀ text p, PlaceholderText text p → ¬ text <:+: lit) ∧
      (OpensOnlyPlaceholders t.toList ↔ ∀ lit ∈ literals t.toList, ¬ opening <:+: lit) := by
  constructor
  · intro lits holes hlength hlits hholes printed
    have htexts : List.Forall₂ PlaceholderText (holes.map fun hole => hole.1.source hole.2)
        (holes.map Prod.fst) := by
      rw [List.forall₂_map_left_iff, List.forall₂_map_right_iff, List.forall₂_same]
      intro hole hmem
      obtain ⟨hwritable, hgap⟩ := hholes hole hmem
      exact hwritable.placeholderText hgap
    obtain ⟨hfound, hliterals⟩ := scan_weave (by simpa using hlength) hlits htexts
    constructor
    · rw [findPlaceholders, String.toList_ofList, hfound]
    · rw [literals_eq_piece_literals, hliterals]
  · intro t
    obtain ⟨holes, hholes, hmarks, hfound⟩ := exists_holes (marks_forall₂ t)
    refine ⟨holes, hholes, hfound, ?_, ?_, ?_, opensOnlyPlaceholders_iff⟩
    · rw [literals_length, ← hfound, List.length_map]
    · rw [hmarks, weave_literals_marks]
    · exact fun lit hlit text p htext => not_placeholderText_infix hlit htext

/-- A brace before a placeholder and a dollar sign after one open nothing. -/
example : findPlaceholders "\x7b\x7b$A\x7d$\x7b$B =\x7d\x7d\x7b$C== 1 \x7d" =
    [⟨"A", .absent⟩, ⟨"B", .bare⟩, ⟨"C", .preset "= 1 "⟩] := by
  cbv

end SqlBridge
