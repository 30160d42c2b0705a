import SqlBridge.Environment
import SqlBridge.Proofs.Text.Lines
import SqlBridge.Proofs.Text.Trimming

namespace SqlBridge

open Text

namespace Environment

/-- The word that may stand in front of an assignment, with the space behind it. -/
def exportWord : List Char :=
  ['e', 'x', 'p', 'o', 'r', 't', ' ']

/-- What a line declares. Without the white space around it, it is no comment, and without the export
word, where it begins with it, an equals sign stands in it. In front of the first one stands the name,
and behind it the value; white space around either does not count, and neither do the single quotes
around the value, nor the double ones around what is left then. -/
inductive LineDeclares (line : List Char) : String × String → Prop where
  | intro {body assigned left right bare unquoted : List Char} {key value : String}
      (hbody : IsTrimmed isBlank line body) (hcomment : body.head? ≠ some '#')
      (hexport : body = exportWord ++ assigned ∨ ¬ exportWord <+: body ∧ assigned = body)
      (hassigned : assigned = left ++ '=' :: right) (hfirst : '=' ∉ left)
      (hkey : IsTrimmed isBlank left key.toList) (hnamed : key ≠ "")
      (hbare : IsTrimmed isBlank right bare) (hsingle : IsTrimmed (· == '\'') bare unquoted)
      (hdouble : IsTrimmed (· == '"') unquoted value.toList) : LineDeclares line (key, value)

/-- What lines declare, in their order. -/
inductive LinesDeclare : List (List Char) → List (String × String) → Prop where
  | nil : LinesDeclare [] []
  | declares {line : List Char} {ls : List (List Char)} {entry : String × String}
      {entries : List (String × String)} (hline : LineDeclares line entry)
      (hrest : LinesDeclare ls entries) : LinesDeclare (line :: ls) (entry :: entries)
  | passes {line : List Char} {ls : List (List Char)} {entries : List (String × String)}
      (hline : ∀ entry, ¬ LineDeclares line entry) (hrest : LinesDeclare ls entries) :
      LinesDeclare (line :: ls) entries

/-- What a text declares, line by line. -/
def Declares (text : String) (entries : List (String × String)) : Prop :=
  ∃ ls, SplitsInto text.toList ls ∧ LinesDeclare ls entries

variable {line body assigned left right : List Char} {entry : String × String}

theorem dropExport_eq_iff : dropExport body = assigned ↔
    body = exportWord ++ assigned ∨ ¬ exportWord <+: body ∧ assigned = body := by
  unfold dropExport
  split
  · next rest =>
    have hexport : exportWord <+: 'e' :: 'x' :: 'p' :: 'o' :: 'r' :: 't' :: ' ' :: rest := ⟨rest, rfl⟩
    simp only [hexport, not_true_eq_false, false_and, or_false]
    simp [exportWord]
  · next hnot =>
    have hexport : ¬ exportWord <+: body := by
      rintro ⟨rest, rfl⟩
      exact hnot rest rfl
    have hne : body ≠ exportWord ++ assigned := by
      rintro rfl
      exact hexport ⟨assigned, rfl⟩
    simp only [hexport, hne, not_false_eq_true, true_and, false_or, eq_comm]

/-- The export word holds no equals sign, so the sign of a line stands behind it. -/
theorem equals_mem_dropExport_iff : '=' ∈ dropExport body ↔ '=' ∈ body := by
  unfold dropExport
  split
  · simp
  · rfl

theorem ofLine?_of_assigned (hbody : trim line = body) (hcomment : body.head? ≠ some '#')
    (hassigned : dropExport body = left ++ '=' :: right) (hfirst : '=' ∉ left) :
    ofLine? line = if trim left = [] then none
      else some (String.ofList (trim left), String.ofList (unquote right)) := by
  have hmem : '=' ∈ body := equals_mem_dropExport_iff.1 (by simp [hassigned])
  have hkept : ∀ c ∈ left, (c != '=') = true := by
    intro c hc
    simp only [bne_iff_ne, ne_eq]
    rintro rfl
    exact hfirst hc
  have hname : (left ++ '=' :: right).takeWhile (· != '=') = left := by
    rw [List.takeWhile_append_of_pos hkept]
    simp
  have hvalue : ((left ++ '=' :: right).dropWhile (· != '=')).drop 1 = right := by
    rw [List.dropWhile_append_of_pos hkept]
    simp
  have hempty : body ≠ [] := List.ne_nil_of_mem hmem
  rw [ofLine?, hbody]
  simp [hassigned, hname, hvalue, hmem, hempty, hcomment]

/-- Every line that is read as a declaration has an assignment in it. -/
theorem exists_assigned_of_ofLine? (hread : ofLine? line = some entry) :
    (trim line).head? ≠ some '#' ∧
      ∃ left right, dropExport (trim line) = left ++ '=' :: right ∧ '=' ∉ left := by
  rw [ofLine?] at hread
  split at hread
  · cases hread
  · next hplain =>
    simp only [Bool.or_eq_true, not_or, beq_iff_eq, Bool.not_eq_true', Bool.not_eq_false,
      List.contains_iff_mem] at hplain
    obtain ⟨⟨-, hcomment⟩, hmem⟩ := hplain
    exact ⟨hcomment, List.eq_append_cons_of_mem (equals_mem_dropExport_iff.2 hmem)⟩

theorem ofLine?_eq_some_iff : ofLine? line = some entry ↔ LineDeclares line entry := by
  constructor
  · intro hread
    obtain ⟨hcomment, left, right, hassigned, hfirst⟩ := exists_assigned_of_ofLine? hread
    rw [ofLine?_of_assigned rfl hcomment hassigned hfirst] at hread
    split at hread
    · cases hread
    · next hnamed =>
      obtain rfl := Option.some.inj hread
      refine .intro (trimBy_eq_iff.1 rfl) hcomment (dropExport_eq_iff.1 rfl) hassigned hfirst ?_ ?_
        (trimBy_eq_iff.1 rfl) (trimBy_eq_iff.1 rfl) ?_
      · rw [String.toList_ofList]
        exact isTrimmed_trimBy isBlank left
      · simpa using hnamed
      · rw [String.toList_ofList]
        exact isTrimmed_trimBy (· == '"') _
  · rintro ⟨hbody, hcomment, hexport, hassigned, hfirst, hkey, hnamed, hbare, hsingle, hdouble⟩
    have hassigned := (dropExport_eq_iff.2 hexport).trans hassigned
    rw [ofLine?_of_assigned (trimBy_eq_iff.2 hbody) hcomment hassigned hfirst, trim,
      trimBy_eq_iff.2 hkey, unquote, trim, trimBy_eq_iff.2 hbare, trimBy_eq_iff.2 hsingle,
      trimBy_eq_iff.2 hdouble]
    simp [hnamed]

theorem ofLine?_eq_none_iff : ofLine? line = none ↔ ∀ entry, ¬ LineDeclares line entry := by
  simp only [← ofLine?_eq_some_iff, Option.eq_none_iff_forall_ne_some, ne_eq]

theorem filterMap_ofLine?_eq_iff {ls : List (List Char)} {entries : List (String × String)} :
    ls.filterMap ofLine? = entries ↔ LinesDeclare ls entries := by
  constructor
  · rintro rfl
    induction ls with
    | nil => exact .nil
    | cons line ls ih =>
      cases hline : ofLine? line with
      | none =>
        rw [List.filterMap_cons_none hline]
        exact .passes (ofLine?_eq_none_iff.1 hline) ih
      | some entry =>
        rw [List.filterMap_cons_some hline]
        exact .declares (ofLine?_eq_some_iff.1 hline) ih
  · intro hdeclare
    induction hdeclare with
    | nil => rfl
    | declares hline _ ih => rw [List.filterMap_cons_some (ofLine?_eq_some_iff.2 hline), ih]
    | passes hline _ ih => rw [List.filterMap_cons_none (ofLine?_eq_none_iff.2 hline), ih]

/-- A text is read as what its lines declare. -/
theorem ofText_eq_iff {text : String} {entries : List (String × String)} :
    ofText text = entries ↔ Declares text entries := by
  simp only [ofText, Declares, filterMap_ofLine?_eq_iff, ← lines_eq_iff, exists_eq_left']

end Environment

end SqlBridge
