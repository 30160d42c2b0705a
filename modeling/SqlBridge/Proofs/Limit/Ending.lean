import SqlBridge.Proofs.Limit.Normalization

namespace SqlBridge

open Text

namespace Limit

variable {cs body tail rest gap marks outer : List Char}

/-- A text that is empty, or ends in a character that is neither white space nor a semicolon. -/
def EndsBare (cs : List Char) : Prop :=
  ∀ c ∈ cs.getLast?, isEnd c = false

/-- A statement in two parts, the first of which is its longest beginning that ends bare. -/
structure IsBody (cs body tail : List Char) : Prop where
  split : cs = body ++ tail
  bare : EndsBare body
  longest : ∀ other, other <+: cs → EndsBare other → other.length ≤ body.length

theorem isBody_of_isEnd (hsplit : cs = body ++ tail) (hbare : EndsBare body)
    (htail : ∀ c ∈ tail, isEnd c = true) : IsBody cs body tail := by
  refine ⟨hsplit, hbare, fun other hother hend => ?_⟩
  rw [hsplit] at hother
  exact (prefix_of_prefix_append htail hother hend).length_le

theorem exists_isBody (cs : List Char) :
    ∃ body tail, IsBody cs body tail ∧ ∀ c ∈ tail, isEnd c = true := by
  obtain ⟨tail, hsplit, htail⟩ := dropRight_split isEnd cs
  have hbare : EndsBare (dropRight isEnd cs) := fun c hc => getLast?_dropRight_eq_false hc
  exact ⟨dropRight isEnd cs, tail, isBody_of_isEnd hsplit hbare htail, htail⟩

theorem IsBody.unique {body' tail' : List Char} (hbody : IsBody cs body tail)
    (hbody' : IsBody cs body' tail') : body = body' ∧ tail = tail' := by
  have hbegins : body <+: cs := ⟨tail, hbody.split.symm⟩
  have hbegins' : body' <+: cs := ⟨tail', hbody'.split.symm⟩
  have hle : body.length ≤ body'.length := hbody'.longest body hbegins hbody.bare
  have hge : body'.length ≤ body.length := hbody.longest body' hbegins' hbody'.bare
  have hsame : body = body' :=
    (List.prefix_of_prefix_length_le hbegins hbegins' hle).eq_of_length_le hge
  subst hsame
  exact ⟨rfl, List.append_cancel_left (hbody.split.symm.trans hbody'.split)⟩

theorem Cut.of_append (hcut : Cut (body ++ rest) gap marks outer) : Cut rest gap marks outer where
  isBlank_gap := hcut.isBlank_gap
  marks_eq := hcut.marks_eq
  isBlank_outer := hcut.isBlank_outer
  last c hc := hcut.last c (List.mem_getLast?_append_of_mem_getLast? hc)
  apart hend := hcut.apart (List.mem_getLast?_append_of_mem_getLast? hend)

/-- The body of a statement stays whole, and what stands behind it is cut like the statement. -/
theorem IsBody.exists_rest (hbody : IsBody cs body tail) :
    ∃ rest gap marks outer, trimEnd cs = body ++ rest ∧ tail = rest ++ gap ++ marks ++ outer ∧
      Cut rest gap marks outer := by
  obtain ⟨gap, marks, outer, hsplit, hcut⟩ := exists_cut cs
  have hbegins : body <+: trimEnd cs ++ (gap ++ marks ++ outer) := by
    rw [← hsplit]
    exact ⟨tail, hbody.split.symm⟩
  obtain ⟨rest, hrest⟩ := prefix_of_prefix_append hcut.isEnd_of_mem hbegins hbody.bare
  refine ⟨rest, gap, marks, outer, hrest.symm, ?_, ?_⟩
  · have hboth : body ++ tail = body ++ (rest ++ gap ++ marks ++ outer) := by
      rw [← hbody.split, hsplit, ← hrest]
      simp
    exact List.append_cancel_left hboth
  · exact Cut.of_append (hrest ▸ hcut)

/-- White space stands somewhere between two semicolons. -/
def MarksApart (tail : List Char) : Prop :=
  ∃ before c after, tail = before ++ c :: after ∧ isBlank c = true ∧ ';' ∈ before ∧ ';' ∈ after

theorem mark_not_mem_of_isBlank (hgap : ∀ c ∈ gap, isBlank c = true) : ';' ∉ gap := by
  intro hmem
  have hblank := hgap ';' hmem
  cases hblank

/-- One run of semicolons has no white space between two of them. -/
theorem not_marksApart_of_single_run (hgap : ∀ c ∈ gap, isBlank c = true)
    (hmarks : ∀ c ∈ marks, c = ';') (houter : ∀ c ∈ outer, isBlank c = true) :
    ¬ MarksApart (gap ++ marks ++ outer) := by
  rintro ⟨before, c, after, hsplit, hc, hbefore, hafter⟩
  have hlater (inside : List Char) : outer ≠ inside ++ c :: after := by
    rintro rfl
    exact mark_not_mem_of_isBlank houter (by simp [hafter])
  rw [List.append_assoc] at hsplit
  -- Such white space would have a semicolon in front of it, so that it is not in `gap`, and one behind
  -- it, so that it is not in `outer`. Within the run there is none.
  rcases List.append_eq_append_iff.1 hsplit with ⟨run, rfl, hrest⟩ | ⟨run, rfl, -⟩
  · rcases List.append_eq_append_iff.1 hrest with ⟨inside, -, houter⟩ | ⟨inside, hrun, houter⟩
    · exact hlater inside houter
    · cases inside with
      | nil => exact hlater [] houter.symm
      | cons d inside =>
        obtain ⟨rfl, -⟩ := List.cons.inj houter
        obtain rfl := hmarks c (by simp [hrun])
        cases hc
  · exact mark_not_mem_of_isBlank hgap (by simp [hbefore])

theorem Cut.exists_lead (hcut : Cut rest gap marks outer) (hrest : ∀ c ∈ rest, isEnd c = true)
    (hne : rest ≠ []) : (∃ lead, rest = lead ++ [';']) ∧ gap ≠ [] ∧ marks ≠ [] := by
  obtain ⟨lead, c, rfl⟩ := List.eq_nil_or_concat' rest |>.resolve_left hne
  have hblank : isBlank c = false := hcut.last c (by simp)
  have hmark : c = ';' := by simpa [isEnd, hblank] using hrest c (by simp)
  subst hmark
  exact ⟨⟨lead, rfl⟩, hcut.apart (by simp)⟩

theorem Cut.marksApart_iff (hcut : Cut rest gap marks outer) (hrest : ∀ c ∈ rest, isEnd c = true) :
    MarksApart (rest ++ gap ++ marks ++ outer) ↔ rest ≠ [] := by
  constructor
  · rintro hapart rfl
    exact not_marksApart_of_single_run hcut.isBlank_gap hcut.marks_eq hcut.isBlank_outer hapart
  · intro hne
    obtain ⟨⟨lead, rfl⟩, hgap, hmarks⟩ := hcut.exists_lead hrest hne
    obtain ⟨blank, gap', rfl⟩ := List.exists_cons_of_ne_nil hgap
    obtain ⟨mark, marks', rfl⟩ := List.exists_cons_of_ne_nil hmarks
    obtain rfl := hcut.marks_eq mark List.mem_cons_self
    refine ⟨lead ++ [';'], blank, gap' ++ ';' :: marks' ++ outer, by simp, ?_, by simp, by simp⟩
    exact hcut.isBlank_gap blank List.mem_cons_self

end Limit

/-- A statement without a limit is limited directly behind its body, its longest beginning that ends
in neither white space nor a semicolon, just when no white space stands between two semicolons behind
the body. Else the last semicolons are taken off with the white space on either side of them, and the
limit stands behind a semicolon that is left. -/
theorem limitToOne_clears_end_unless_marks_apart {sql : String} (hlimit : ¬ SetsLimit sql) :
    ∃ body tail : String, Limit.IsBody sql.toList body.toList tail.toList ∧
      (limitToOne sql = body ++ " LIMIT 1" ↔ ¬ Limit.MarksApart tail.toList) ∧
      (Limit.MarksApart tail.toList → ∃ lead gap marks outer : String,
        tail = lead ++ ";" ++ gap ++ marks ++ outer ∧
        (gap ≠ "" ∧ ∀ c ∈ gap.toList, isBlank c = true) ∧
        (marks ≠ "" ∧ ∀ c ∈ marks.toList, c = ';') ∧ (∀ c ∈ outer.toList, isBlank c = true) ∧
        limitToOne sql = body ++ lead ++ ";" ++ " LIMIT 1") := by
  obtain ⟨body, tail, hbody, htail⟩ := Limit.exists_isBody sql.toList
  obtain ⟨rest, gap, marks, outer, hkept, rfl, hcut⟩ := hbody.exists_rest
  have hrest : ∀ c ∈ rest, Limit.isEnd c = true := fun c hc => htail c (by simp [hc])
  have hlimited : limitToOne sql = String.ofList body ++ String.ofList rest ++ " LIMIT 1" := by
    rw [limitToOne_eq_trimEnd (mt setsLimit_iff.2 hlimit), hkept, String.ofList_append]
  refine ⟨String.ofList body, String.ofList (rest ++ gap ++ marks ++ outer), ?_, ?_, fun hapart => ?_⟩
  · simpa using hbody
  · rw [String.toList_ofList, hcut.marksApart_iff hrest, not_not, hlimited]
    constructor
    · intro hsame
      have hlists := congrArg String.toList hsame
      simpa using hlists
    · rintro rfl
      simp
  · rw [String.toList_ofList, hcut.marksApart_iff hrest] at hapart
    obtain ⟨⟨lead, rfl⟩, hgap, hmarks⟩ := hcut.exists_lead hrest hapart
    refine ⟨String.ofList lead, String.ofList gap, String.ofList marks, String.ofList outer, ?_, ?_, ?_,
      ?_, ?_⟩
    · rw [String.ofList_append, String.ofList_append, String.ofList_append, String.ofList_append]
    · exact ⟨by simpa using hgap, by simpa using hcut.isBlank_gap⟩
    · exact ⟨by simpa using hmarks, by simpa using hcut.marks_eq⟩
    · simpa using hcut.isBlank_outer
    · rw [hlimited, String.ofList_append, ← String.append_assoc]

theorem limitToOne_clears_end_unless_marks_apart_by_line_break :
    let sql := "SELECT id FROM t;\n; ;;\t"
    let tail := ";\n; ;;\t"
    ¬ SetsLimit sql ∧ Limit.IsBody sql.toList "SELECT id FROM t".toList tail.toList ∧
      Limit.MarksApart tail.toList ∧ limitToOne sql ≠ "SELECT id FROM t LIMIT 1" ∧
      ∃ lead : String, limitToOne sql = "SELECT id FROM t" ++ lead ++ ";" ++ " LIMIT 1" := by
  intro sql tail
  have hlimit : ¬ SetsLimit sql := by
    rw [setsLimit_iff]
    decide
  have hbody : Limit.IsBody sql.toList "SELECT id FROM t".toList tail.toList := by
    apply Limit.isBody_of_isEnd (by decide)
    · simp [Limit.EndsBare, Limit.isEnd, isBlank]
    · exact List.all_eq_true.1 (by decide)
  have hapart : Limit.MarksApart tail.toList :=
    ⟨[';'], '\n', "; ;;\t".toList, by decide, by decide, by decide, by decide⟩
  obtain ⟨body, tail', hbody', hiff, hcut⟩ := limitToOne_clears_end_unless_marks_apart hlimit
  obtain ⟨hsame, hend⟩ := hbody.unique hbody'
  obtain rfl := String.toList_inj.1 hsame
  obtain rfl := String.toList_inj.1 hend
  obtain ⟨lead, gap, marks, outer, -, -, -, -, hlimited⟩ := hcut hapart
  exact ⟨hlimit, hbody, hapart, fun hcleared => hiff.1 hcleared hapart, lead, hlimited⟩

/-- A semicolon behind a blank leaves the one in front of it in the statement. -/
theorem limitToOne_leaves_mark_before_blank :
    let sql := "SELECT id FROM t; ;"
    let body := "SELECT id FROM t"
    ¬ SetsLimit sql ∧ Limit.IsBody sql.toList body.toList "; ;".toList ∧
      limitToOne sql = "SELECT id FROM t; LIMIT 1" ∧ limitToOne sql ≠ body ++ " LIMIT 1" := by
  intro sql body
  have hlimit : ¬ SetsLimit sql := by
    rw [setsLimit_iff]
    decide
  have hbody : Limit.IsBody sql.toList body.toList "; ;".toList := by
    apply Limit.isBody_of_isEnd (by decide)
    · simp [body, Limit.EndsBare, Limit.isEnd, isBlank]
    · exact List.all_eq_true.1 (by decide)
  have hlimited : limitToOne sql = "SELECT id FROM t; LIMIT 1" := by decide +kernel
  refine ⟨hlimit, hbody, hlimited, ?_⟩
  rw [hlimited]
  decide

end SqlBridge
