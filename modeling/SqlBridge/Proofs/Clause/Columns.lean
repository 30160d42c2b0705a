import SqlBridge.Proofs.Clause.Condition

namespace SqlBridge

namespace Clause

variable {quote : Quoter} {markers : List Value} {entry : String × Value}
  {entries : List (String × Value)} {fault : Fault}

/-- The entry of a column is joined by this combinator and its value written as this text. -/
def Writes (quote : Quoter) (markers : List Value) (entry : Value) (combinator : Combinator)
    (text : String) : Prop :=
  ∃ condition, Condition.GivenBy entry condition ∧
    Combinator.NamedBy condition.combinator combinator ∧
    condition.WrittenAs quote markers text

theorem Writes.unique {v : Value} {combinator combinator' : Combinator} {text text' : String}
    (hwrites : Writes quote markers v combinator text)
    (hwrites' : Writes quote markers v combinator' text') : text = text' := by
  obtain ⟨condition, hgiven, -, hwritten⟩ := hwrites
  obtain ⟨condition', hgiven', -, hwritten'⟩ := hwrites'
  have hsame : condition = condition' := by
    have hentry := Condition.ofEntry_eq_ok_iff.2 hgiven
    rw [Condition.ofEntry_eq_ok_iff.2 hgiven'] at hentry
    exact (Except.ok.inj hentry).symm
  subst hsame
  have hrender := Condition.render_eq_ok_iff.2 hwritten
  rw [Condition.render_eq_ok_iff.2 hwritten'] at hrender
  exact (Except.ok.inj hrender).symm

/-- The first of the checks of an entry that fails, in their order: how many items a row has, the
combinator, the type, and the quoter. -/
inductive Refuses (quote : Quoter) (markers : List Value) : Value → Fault → Prop where
  | length {entry : Value} {items : List Value} (hentry : entry = .list items ∨ entry = .tuple items)
      (hlength : items = [] ∨ 3 < items.length) :
      Refuses quote markers entry (.problem (.conditionLength items.length))
  | combinator {entry : Value} {condition : Condition} {p : Problem}
      (hgiven : Condition.GivenBy entry condition)
      (hmisnamed : Combinator.Misnamed condition.combinator p) :
      Refuses quote markers entry (.problem p)
  | value {entry : Value} {condition : Condition} {combinator : Combinator} {fault : Fault}
      (hgiven : Condition.GivenBy entry condition)
      (hnamed : Combinator.NamedBy condition.combinator combinator)
      (hnot : condition.NotWritten quote markers fault) : Refuses quote markers entry fault

/-- The group of a column and the combinator that joins it. -/
def IsGroup (quote : Quoter) (markers : List Value) (entry : String × Value)
    (group : Combinator × String) : Prop :=
  ∃ text, Writes quote markers entry.2 group.1 text ∧
    group.2 = "(" ++ entry.1 ++ "=" ++ text ++ ")"

theorem columnGroup_eq_ok_iff {group : Combinator × String} :
    columnGroup quote markers entry.1 entry.2 = .ok group ↔ IsGroup quote markers entry group := by
  simp only [columnGroup, bind_eq_ok_iff, mapError_eq_ok_iff, Condition.ofEntry_eq_ok_iff,
    Combinator.ofValue_eq_ok_iff, Condition.render_eq_ok_iff]
  constructor
  · rintro ⟨condition, hgiven, combinator, hnamed, text, hwritten, ⟨⟩⟩
    exact ⟨text, ⟨condition, hgiven, hnamed, hwritten⟩, rfl⟩
  · obtain ⟨combinator, group⟩ := group
    rintro ⟨text, ⟨condition, hgiven, hnamed, hwritten⟩, rfl⟩
    exact ⟨condition, hgiven, combinator, hnamed, text, hwritten, rfl⟩

theorem columnGroup_eq_error_iff :
    columnGroup quote markers entry.1 entry.2 = .error fault ↔
      Refuses quote markers entry.2 fault := by
  simp only [columnGroup, bind_eq_error_iff, mapError_eq_error_iff, mapError_eq_ok_iff,
    Condition.ofEntry_eq_ok_iff, Condition.ofEntry_eq_error_iff, Combinator.ofValue_eq_ok_iff,
    Combinator.ofValue_eq_error_iff, Condition.render_eq_error_iff]
  constructor
  · rintro (⟨p, ⟨items, hentry, hlength, rfl⟩, rfl⟩ | ⟨condition, hgiven, ⟨p, hmisnamed, rfl⟩ |
      ⟨combinator, hnamed, hnot | ⟨text, hwritten, ⟨⟩⟩⟩⟩)
    · exact .length hentry hlength
    · exact .combinator hgiven hmisnamed
    · exact .value hgiven hnamed hnot
  · intro hrefuses
    cases hrefuses with
    | length hentry hlength => exact .inl ⟨_, ⟨_, hentry, hlength, rfl⟩, rfl⟩
    | combinator hgiven hmisnamed => exact .inr ⟨_, hgiven, .inl ⟨_, hmisnamed, rfl⟩⟩
    | value hgiven hnamed hnot => exact .inr ⟨_, hgiven, .inr ⟨_, hnamed, .inl hnot⟩⟩

theorem columnGroups_cons_eq_ok_iff {groups : List (Combinator × String)} :
    columnGroups quote markers (entry :: entries) = .ok groups ↔
      ∃ first rest, IsGroup quote markers entry first ∧
        columnGroups quote markers entries = .ok rest ∧ groups = first :: rest := by
  simp only [columnGroups, bind_eq_ok_iff, columnGroup_eq_ok_iff]
  constructor
  · rintro ⟨first, hfirst, rest, hrest, ⟨⟩⟩
    exact ⟨first, rest, hfirst, hrest, rfl⟩
  · rintro ⟨first, rest, hfirst, hrest, rfl⟩
    exact ⟨first, hfirst, rest, hrest, rfl⟩

theorem columnGroups_cons_eq_error_iff :
    columnGroups quote markers (entry :: entries) = .error fault ↔
      Refuses quote markers entry.2 fault ∨
        (∃ group, IsGroup quote markers entry group) ∧
          columnGroups quote markers entries = .error fault := by
  simp only [columnGroups, bind_eq_error_iff, columnGroup_eq_ok_iff, columnGroup_eq_error_iff]
  constructor
  · rintro (hrefuses | ⟨first, hfirst, hrest | ⟨rest, hrest, ⟨⟩⟩⟩)
    · exact .inl hrefuses
    · exact .inr ⟨⟨first, hfirst⟩, hrest⟩
  · rintro (hrefuses | ⟨⟨first, hfirst⟩, hrest⟩)
    · exact .inl hrefuses
    · exact .inr ⟨first, hfirst, .inl hrest⟩

/-- The groups of columns are those of each of them, in order. -/
theorem columnGroups_eq_ok_iff {groups : List (Combinator × String)} :
    columnGroups quote markers entries = .ok groups ↔
      List.Forall₂ (IsGroup quote markers) entries groups := by
  induction entries generalizing groups with
  | nil =>
    rw [List.forall₂_nil_left_iff, columnGroups, Except.ok.injEq]
    exact eq_comm
  | cons entry entries ih =>
    rw [List.forall₂_cons_left_iff, columnGroups_cons_eq_ok_iff]
    simp only [ih]

/-- The fault of columns is that of the first one that has one. -/
theorem columnGroups_eq_error_iff :
    columnGroups quote markers entries = .error fault ↔
      ∃ before entry after, entries = before ++ entry :: after ∧
        (∀ earlier ∈ before, ∃ group, IsGroup quote markers earlier group) ∧
        Refuses quote markers entry.2 fault := by
  induction entries with
  | nil =>
    constructor
    · intro hgroups
      cases hgroups
    · rintro ⟨before, entry, after, hnil, -⟩
      simp at hnil
  | cons entry entries ih =>
    rw [columnGroups_cons_eq_error_iff, ih]
    constructor
    · rintro (hrefuses | ⟨hgroup, before, later, after, rfl, hbefore, hrefuses⟩)
      · exact ⟨[], entry, entries, rfl, by simp, hrefuses⟩
      · exact ⟨entry :: before, later, after, rfl, List.forall_mem_cons.2 ⟨hgroup, hbefore⟩, hrefuses⟩
    · rintro ⟨_ | ⟨earlier, before⟩, later, after, hsplit, hbefore, hrefuses⟩
      · cases hsplit
        exact .inl hrefuses
      · cases hsplit
        obtain ⟨hgroup, hbefore⟩ := List.forall_mem_cons.1 hbefore
        exact .inr ⟨hgroup, before, later, after, rfl, hbefore, hrefuses⟩

/-- A clause of columns that is written has a group for each of them. -/
theorem exists_groups_of_columns {markers : Value} {clause : String} (hne : entries ≠ [])
    (hclause : formatWhere (some (.columns entries)) quote markers = .ok clause) :
    ∃ items groups, markers.items = .ok items ∧
      List.Forall₂ (IsGroup quote items) entries groups ∧ clause = " WHERE " ++ joinGroups groups := by
  cases hitems : markers.items with
  | error p =>
    rw [formatWhere_columns_error hitems hne] at hclause
    cases hclause
  | ok items =>
    rw [formatWhere_columns hitems hne] at hclause
    cases hgroups : columnGroups quote items entries with
    | error fault =>
      rw [hgroups] at hclause
      cases hclause
    | ok groups =>
      rw [hgroups] at hclause
      exact ⟨items, groups, rfl, columnGroups_eq_ok_iff.1 hgroups, (Except.ok.inj hclause).symm⟩

theorem joinFollowing_eq (groups : List (Combinator × String)) :
    joinFollowing groups =
      String.join (groups.map fun later => " " ++ later.1.word ++ " " ++ later.2) := by
  induction groups with
  | nil => rfl
  | cons group groups ih => rw [joinFollowing, ih, List.map_cons, String.join_cons]

theorem joinGroups_cons (group : Combinator × String) (groups : List (Combinator × String)) :
    joinGroups (group :: groups) =
      group.2 ++ String.join (groups.map fun later => " " ++ later.1.word ++ " " ++ later.2) :=
  congrArg (group.2 ++ ·) (joinFollowing_eq groups)

/-- Only the condition of an entry matters, not the form that it is written in. -/
theorem columnGroups_congr {entries' : List (String × Value)}
    (hsame : List.Forall₂ (fun entry entry' => entry.1 = entry'.1 ∧
      Condition.WrittenOut entry.2 entry'.2) entries entries') :
    columnGroups quote markers entries' = columnGroups quote markers entries := by
  induction hsame with
  | nil => rfl
  | @cons entry entry' _ _ hentry _ ih =>
    have hfirst : columnGroup quote markers entry'.1 entry'.2 =
        columnGroup quote markers entry.1 entry.2 := by
      rw [columnGroup, columnGroup, hentry.1, hentry.2.ofEntry_eq]
    rw [columnGroups, columnGroups, hfirst, ih]

end Clause

/-- A clause of columns is written column by column. It has the group of each column in order, and
between any two of them the keyword of the later one's own combinator with a space on either side of
it; the combinator of the first column is looked at but not written. When an entry is refused, the
first such entry decides, and of its checks the first that fails. A row of one to three items says
the same as the condition of these items. -/
theorem formatWhere_writes_columns_in_order {quote : Quoter} {markers : Value} {items : List Value}
    (hmarkers : markers.items = .ok items) (first : String × Value)
    (rest : List (String × Value)) :
    (∀ clause, formatWhere (some (.columns (first :: rest))) quote markers = .ok clause ↔
      ∃ group groups, Clause.IsGroup quote items first group ∧
        List.Forall₂ (Clause.IsGroup quote items) rest groups ∧
        clause = " WHERE " ++ group.2 ++
          String.join (groups.map fun later => " " ++ later.1.word ++ " " ++ later.2)) ∧
    (∀ fault, formatWhere (some (.columns (first :: rest))) quote markers = .error fault ↔
      ∃ before entry after, first :: rest = before ++ entry :: after ∧
        (∀ earlier ∈ before, ∃ group, Clause.IsGroup quote items earlier group) ∧
        Clause.Refuses quote items entry.2 fault) ∧
    ∀ entries, List.Forall₂ (fun entry entry' => entry.1 = entry'.1 ∧
        Condition.WrittenOut entry.2 entry'.2) (first :: rest) entries →
      formatWhere (some (.columns entries)) quote markers =
        formatWhere (some (.columns (first :: rest))) quote markers := by
  have hformat : formatWhere (some (.columns (first :: rest))) quote markers =
      (columnGroups quote items (first :: rest)).map fun groups => " WHERE " ++ joinGroups groups :=
    Clause.formatWhere_columns hmarkers (List.cons_ne_nil _ _)
  refine ⟨fun clause => ⟨fun hclause => ?_, ?_⟩, fun fault => ?_, fun entries hsame => ?_⟩
  · obtain ⟨items', groups, hitems, hgroups, rfl⟩ :=
      Clause.exists_groups_of_columns (List.cons_ne_nil _ _) hclause
    cases hmarkers.symm.trans hitems
    obtain ⟨group, later, hgroup, hlater, rfl⟩ := List.forall₂_cons_left_iff.1 hgroups
    refine ⟨group, later, hgroup, hlater, ?_⟩
    rw [String.append_assoc, ← Clause.joinGroups_cons]
  · rintro ⟨group, groups, hgroup, hgroups, rfl⟩
    rw [hformat, Clause.columnGroups_eq_ok_iff.2 (.cons hgroup hgroups), Except.map,
      String.append_assoc, ← Clause.joinGroups_cons]
  · rw [hformat, ← Clause.columnGroups_eq_error_iff]
    cases columnGroups quote items (first :: rest) with
    | error fault' => rw [Except.map, Except.error.injEq, Except.error.injEq]
    | ok groups => simp [Except.map]
  · have hne : entries ≠ [] := by
      rintro rfl
      cases hsame
    rw [Clause.formatWhere_columns hmarkers hne, Clause.columnGroups_congr hsame, hformat]

theorem formatWhere_writes_columns_in_order_of_mixed_entries :
    let first : String × Value := ("a", .list [.bool true, .null, .text " and\n"])
    let rest : List (String × Value) :=
      [("b", .tuple [.text "?"]), ("c", .condition (.text "x'") (.text "str") (.text "And"))]
    standardMarkers.items = .ok [.text "?"] ∧
      formatWhere (some (.columns (first :: rest))) standardQuoter standardMarkers =
        .ok " WHERE (a=1) OR (b=?) AND (c='x''')" ∧
      formatWhere (some (.columns (first :: (rest ++ [("d", .list []), ("e", .tuple [])]))))
        standardQuoter standardMarkers = .error (.problem (.conditionLength 0)) := by
  intro first rest
  have hmarkers : standardMarkers.items = .ok [.text "?"] := rfl
  have hfirst : Clause.IsGroup standardQuoter [.text "?"] first (.and, "(a=1)") :=
    ⟨"1", ⟨_, .list (.joined _ _ _), .keyword (by decide), .bool true _ _⟩, rfl⟩
  have hmarked : Clause.IsGroup standardQuoter [.text "?"] ("b", .tuple [.text "?"]) (.or, "(b=?)") :=
    ⟨"?", ⟨_, .tuple (.value _), .unnamed, .marker ⟨"?", rfl, _, List.mem_singleton_self _, rfl⟩⟩, rfl⟩
  have hquoted : Clause.IsGroup standardQuoter [.text "?"]
      ("c", .condition (.text "x'") (.text "str") (.text "And")) (.and, "(c='x''')") := by
    refine ⟨"'x'''", ⟨_, .condition _ _ _, .keyword (by decide), ?_⟩, rfl⟩
    have htype : ParamType.NamedBy (.text "str") (some .str) := .named rfl
    refine .quoted ?_ htype rfl
    simp [NeedsQuoting, Value.IsNumber, EqualsMarker, Value.text?]
  refine ⟨hmarkers, ?_, ?_⟩
  · refine ((formatWhere_writes_columns_in_order hmarkers first rest).1 _).2 ?_
    exact ⟨_, _, hfirst, .cons hmarked (.cons hquoted .nil), rfl⟩
  · refine ((formatWhere_writes_columns_in_order hmarkers first _).2.1 _).2 ?_
    refine ⟨first :: rest, ("d", .list []), [("e", .tuple [])], rfl, ?_, .length (.inl rfl) (.inl rfl)⟩
    simp only [rest, List.forall_mem_cons]
    exact ⟨⟨_, hfirst⟩, ⟨_, hmarked⟩, ⟨_, hquoted⟩, by simp⟩

end SqlBridge
