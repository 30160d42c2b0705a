import SqlBridge.Proofs.Clause.Columns
import SqlBridge.Proofs.Connection.Executions
import SqlBridge.Proofs.Limit.Phrase
import SqlBridge.Proofs.Template.Alphabet

namespace SqlBridge

open SqlBridge.Action SqlBridge.Limit SqlBridge.Text

section Names

variable {s : String} {c : Char}

theorem toNat_of_isAlpha (hc : c.isAlpha = true) : 0x41 ≤ c.toNat ∧ c.toNat ≤ 0x7A := by
  simp only [Char.isAlpha, Char.isUpper, Char.isLower, Bool.or_eq_true, Bool.and_eq_true,
    decide_eq_true_eq, UInt32.le_iff_toNat_le, ge_iff_le] at hc
  have hupper : 'A'.val.toNat = 0x41 ∧ 'Z'.val.toNat = 0x5A := by decide
  have hlower : 'a'.val.toNat = 0x61 ∧ 'z'.val.toNat = 0x7A := by decide
  have hval : c.toNat = c.val.toNat := rfl
  omega

/-- A name begins with no digit, and neither white space nor a semicolon stands in it. -/
theorem plain_of_isDatabaseName (hname : Connection.isDatabaseName s = true) :
    (∃ first rest, s.toList = first :: rest ∧ isDecimalDigit first = false) ∧
      ∀ c ∈ s.toList, isBlank c = false ∧ c ≠ ';' := by
  have hplain {c : Char} (hc : c.isAlphanum = true ∨ c = '_') : isBlank c = false ∧ c ≠ ';' := by
    have hletter : InNameAlphabet c := hc.imp isAlphanum_iff.1 fun hunderscore => by simp [hunderscore]
    refine ⟨hletter.isBlank_eq_false, ?_⟩
    rintro rfl
    exact absurd hc (by decide)
  unfold Connection.isDatabaseName at hname
  split at hname
  · cases hname
  · next first rest hsplit =>
    simp only [Bool.and_eq_true, List.all_eq_true, Bool.or_eq_true, beq_iff_eq,
      Connection.isNameStart] at hname
    obtain ⟨hfirst, hrest⟩ := hname
    rw [hsplit]
    refine ⟨⟨first, rest, rfl, ?_⟩, List.forall_mem_cons.2 ⟨hplain ?_, fun c hc => hplain (hrest c hc)⟩⟩
    · rcases hfirst with halpha | rfl
      · have hrange := toNat_of_isAlpha halpha
        refine isDecimalDigit_of_not_isDigit (Bool.eq_false_iff.2 fun hdigit => ?_) (by omega)
        have hdigits := isDigit_iff_toNat.1 hdigit
        omega
      · exact isDecimalDigit_of_not_isDigit (by decide) (by decide)
    · exact hfirst.imp_left fun halpha => by rw [Char.isAlphanum, halpha, Bool.true_or]

theorem noNumber_of_isDatabaseName (hname : Connection.isDatabaseName s = true) :
    NoNumber s.toList :=
  noNumber_of_not_blank fun c hc => ((plain_of_isDatabaseName hname).2 c hc).1

end Names

namespace Clause

variable {quote : Quoter} {markers : List Value} {entry : String × Value}
  {entries : List (String × Value)} {group : Combinator × String}
  {groups : List (Combinator × String)}

/-- The value of a column is written as a text in which a limit stands. -/
def HoldsLimit (quote : Quoter) (markers : List Value) (entry : Value) : Prop :=
  ∃ combinator text, Writes quote markers entry combinator text ∧ StandsIn text.toList

/-- The marks between which a column and its value are written are part of no limit. -/
theorem standsIn_append_mark_iff {mark : Char} (hmark : mark ∈ ['(', '=', ')']) (xs ys : List Char) :
    StandsIn (xs ++ mark :: ys) ↔ StandsIn xs ∨ StandsIn ys := by
  simp only [List.mem_cons, List.not_mem_nil, or_false] at hmark
  rcases hmark with rfl | rfl | rfl <;>
    exact standsIn_append_cons_iff (by decide)
      (isDecimalDigit_of_not_isDigit (by decide) (by decide)) (by decide)

/-- Of a group and what stands around it, only the value can hold a limit, and what follows. -/
theorem IsGroup.standsIn_iff (hgroup : IsGroup quote markers entry group)
    (hname : Connection.isDatabaseName entry.1 = true) {before rest : List Char}
    (hbefore : NoNumber before) :
    StandsIn (before ++ (group.2.toList ++ rest)) ↔
      HoldsLimit quote markers entry.2 ∨ StandsIn rest := by
  obtain ⟨text, hwrites, hform⟩ := hgroup
  have hlayout : before ++ (group.2.toList ++ rest) =
      before ++ '(' :: (entry.1.toList ++ '=' :: (text.toList ++ ')' :: rest)) := by
    simp [hform]
  have hcolumn : ¬ StandsIn entry.1.toList := (noNumber_of_isDatabaseName hname).not_standsIn
  have hvalue : HoldsLimit quote markers entry.2 ↔ StandsIn text.toList := by
    constructor
    · rintro ⟨combinator, text', hwrites', hlimit⟩
      rwa [hwrites.unique hwrites']
    · exact fun hlimit => ⟨_, text, hwrites, hlimit⟩
  rw [hlayout, standsIn_append_mark_iff (by simp), standsIn_append_mark_iff (by simp),
    standsIn_append_mark_iff (by simp), hvalue]
  simp [hbefore.not_standsIn, hcolumn]

theorem standsIn_joinFollowing_iff (hgroups : List.Forall₂ (IsGroup quote markers) entries groups)
    (hnames : ∀ entry ∈ entries, Connection.isDatabaseName entry.1 = true) :
    StandsIn (joinFollowing groups).toList ↔ ∃ entry ∈ entries, HoldsLimit quote markers entry.2 := by
  induction hgroups with
  | nil => simp [joinFollowing]
  | @cons entry group entries groups hgroup _ ih =>
    obtain ⟨hname, hnames⟩ := List.forall_mem_cons.1 hnames
    have hword : NoNumber (' ' :: group.1.word.toList ++ [' ']) := by
      cases group.1 <;> decide
    rw [toList_joinFollowing_cons, hgroup.standsIn_iff hname hword, ih hnames]
    simp

/-- A limit stands in a statement that ends in a clause of columns just when one stands in the text
of a value. -/
theorem standsIn_joinGroups_iff (hgroups : List.Forall₂ (IsGroup quote markers) entries groups)
    (hnames : ∀ entry ∈ entries, Connection.isDatabaseName entry.1 = true) {before : List Char}
    (hbefore : NoNumber before) :
    StandsIn (before ++ (joinGroups groups).toList) ↔
      ∃ entry ∈ entries, HoldsLimit quote markers entry.2 := by
  cases hgroups with
  | nil => simpa [joinGroups] using hbefore.not_standsIn
  | cons hgroup hrest =>
    obtain ⟨hname, hnames⟩ := List.forall_mem_cons.1 hnames
    rw [joinGroups, String.toList_append, hgroup.standsIn_iff hname hbefore,
      standsIn_joinFollowing_iff hrest hnames]
    simp

theorem IsGroup.suffix (hgroup : IsGroup quote markers entry group) :
    [')'] <:+ group.2.toList := by
  obtain ⟨text, -, hform⟩ := hgroup
  rw [hform]
  exact ⟨("(" ++ entry.1 ++ "=" ++ text).toList, by simp⟩

theorem suffix_append_joinFollowing {before : List Char} (hbefore : [')'] <:+ before)
    (hgroups : List.Forall₂ (IsGroup quote markers) entries groups) :
    [')'] <:+ before ++ (joinFollowing groups).toList := by
  induction hgroups generalizing before with
  | nil => simpa [joinFollowing] using hbefore
  | @cons entry group entries groups hgroup _ ih =>
    rw [toList_joinFollowing_cons, ← List.append_assoc, ← List.append_assoc]
    exact ih (hgroup.suffix.trans (List.suffix_append _ _))

/-- Some value of the columns is written as a text in which a limit stands. -/
def SomeHoldsLimit (quote : Quoter) (markers : Value) (entries : List (String × Value)) : Prop :=
  ∃ items, markers.items = .ok items ∧ ∃ entry ∈ entries, HoldsLimit quote items entry.2

variable {markersOf : Value} {clause : String} {before : List Char}

/-- Behind a text without numbers, the only limit of a clause is one in the text of a value. -/
theorem standsIn_append_clause_iff (hbefore : NoNumber before)
    (hnames : ∀ entry ∈ entries, Connection.isDatabaseName entry.1 = true)
    (hclause : formatWhere (some (.columns entries)) quote markersOf = .ok clause) :
    StandsIn (before ++ clause.toList) ↔ SomeHoldsLimit quote markersOf entries := by
  by_cases hne : entries = []
  · subst hne
    cases hclause
    simpa [SomeHoldsLimit] using hbefore.not_standsIn
  · obtain ⟨items, groups, hitems, hgroups, rfl⟩ := exists_groups_of_columns hne hclause
    have hwhere : NoNumber (before ++ " WHERE ".toList) := by
      refine hbefore.append (by decide +kernel) fun c hc => ?_
      obtain rfl : ' ' = c := by simpa using hc
      exact isDecimalDigit_of_not_isDigit (by decide) (by decide)
    rw [String.toList_append, ← List.append_assoc, standsIn_joinGroups_iff hgroups hnames hwhere,
      SomeHoldsLimit, hitems]
    simp

/-- A clause ends in a group, unless it is empty. -/
theorem getLast?_append_clause {c : Char}
    (hclause : formatWhere (some (.columns entries)) quote markersOf = .ok clause)
    (hlast : (before ++ clause.toList).getLast? = some c) : before.getLast? = some c ∨ c = ')' := by
  by_cases hne : entries = []
  · subst hne
    cases hclause
    exact .inl (by simpa using hlast)
  · obtain ⟨items, groups, -, hgroups, rfl⟩ := exists_groups_of_columns hne hclause
    cases hgroups with
    | nil => exact absurd rfl hne
    | cons hgroup hrest =>
      obtain ⟨body, hbody⟩ := suffix_append_joinFollowing hgroup.suffix hrest
      rw [joinGroups, String.toList_append, String.toList_append, ← hbody, ← List.append_assoc,
        ← List.append_assoc, List.getLast?_concat] at hlast
      exact .inr (Option.some.inj hlast).symm

end Clause

namespace Connection

variable {table clause : String} {quote : Quoter} {markers : Value} {entries : List (String × Value)}

theorem noNumber_counting (htable : isDatabaseName table = true) :
    NoNumber ("SELECT COUNT(*) AS cnt FROM ".toList ++ table.toList) := by
  obtain ⟨⟨first, more, hsplit, hfirst⟩, -⟩ := plain_of_isDatabaseName htable
  refine NoNumber.append (by decide +kernel) (noNumber_of_isDatabaseName htable) fun c hc => ?_
  rw [hsplit, List.head?_cons, Option.mem_some] at hc
  rwa [← hc]

/-- Counting adds a limit to its statement, unless one stands in the text of a value. -/
theorem limitToOne_countStatement (htable : isDatabaseName table = true)
    (hnames : ∀ entry ∈ entries, isDatabaseName entry.1 = true)
    (hclause : SqlBridge.formatWhere (some (.columns entries)) quote markers = .ok clause) :
    (Clause.SomeHoldsLimit quote markers entries →
      limitToOne (countStatement table clause) = countStatement table clause) ∧
    (¬ Clause.SomeHoldsLimit quote markers entries →
      limitToOne (countStatement table clause) = countStatement table clause ++ " LIMIT 1") := by
  have hlayout : (countStatement table clause).toList =
      ("SELECT COUNT(*) AS cnt FROM ".toList ++ table.toList) ++ clause.toList := by
    unfold countStatement
    rw [String.toList_append, String.toList_append]
  have hlimit : StandsIn (countStatement table clause).toList ↔
      Clause.SomeHoldsLimit quote markers entries := by
    rw [hlayout]
    exact Clause.standsIn_append_clause_iff (noNumber_counting htable) hnames hclause
  refine ⟨fun hheld => limitToOne_of_standsIn (hlimit.2 hheld), fun hfree => ?_⟩
  refine limitToOne_of_not_standsIn (mt hlimit.1 hfree) fun c hlast => ?_
  rw [hlayout] at hlast
  obtain hlast | rfl := Clause.getLast?_append_clause hclause hlast
  · obtain ⟨⟨first, more, hsplit, -⟩, hplain⟩ := plain_of_isDatabaseName htable
    rw [List.getLast?_append_of_ne_nil _ (by simp [hsplit])] at hlast
    exact hplain c (List.mem_of_getLast? hlast)
  · decide

end Connection

namespace SqlLiteral

theorem standsIn_append_quote_iff (xs ys : List Char) :
    StandsIn (xs ++ '\'' :: ys) ↔ StandsIn xs ∨ StandsIn ys :=
  standsIn_append_cons_iff (by decide) (isDecimalDigit_of_not_isDigit (by decide) (by decide))
    (by decide)

theorem standsIn_quote_cons_iff (cs : List Char) : StandsIn ('\'' :: cs) ↔ StandsIn cs :=
  (standsIn_append_quote_iff [] cs).trans (or_iff_right not_standsIn_nil)

/-- To write quotes twice neither makes a limit in a text nor hides one, whatever stands before it. -/
theorem standsIn_append_escaped_iff (before s : List Char) :
    StandsIn (before ++ s.flatMap fun c => if c = '\'' then ['\'', '\''] else [c]) ↔
      StandsIn (before ++ s) := by
  induction s generalizing before with
  | nil => rfl
  | cons c s ih =>
    rw [List.flatMap_cons]
    by_cases hc : c = '\''
    · rw [if_pos hc, hc, List.cons_append, List.cons_append, List.nil_append,
        standsIn_append_quote_iff, standsIn_append_quote_iff, standsIn_quote_cons_iff]
      exact or_congr_right (ih [])
    · have hlayout : before ++ c :: s = before ++ [c] ++ s := by simp
      rw [if_neg hc, ← List.append_assoc, hlayout]
      exact ih (before ++ [c])

theorem standsIn_stringLiteral_iff (s : List Char) :
    StandsIn (Value.stringLiteral s) ↔ StandsIn s := by
  unfold Value.stringLiteral
  rw [List.cons_append, standsIn_quote_cons_iff, standsIn_append_quote_iff,
    or_iff_left not_standsIn_nil]
  exact standsIn_append_escaped_iff [] s

end SqlLiteral

namespace Connection

/-- What SQLite compares with a text in which a limit stands is quoted with the limit in it. -/
theorem someHoldsLimit_of_text {σ : Type} {b : Backend σ} {c : Connection} {h : Handle} {w : σ}
    (hdriver : c.driver = some h) (hengine : c.settings.engine = .sqlite)
    {entries : List (String × Value)} {column s : String} (hmem : (column, .text s) ∈ entries)
    (hlimit : StandsIn s.toList) : Clause.SomeHoldsLimit (c.quoter b w) c.markers entries := by
  have hmarkers : c.markers = .tuple [.text "?"] := by
    rw [markers, hengine]
    rfl
  have hquoted : NeedsQuoting [.text "?"] (.text s) := by
    refine ⟨by simp, by simp [Value.IsNumber], ?_⟩
    rintro ⟨_, ⟨⟩, marker, hmarker, heq⟩
    rw [List.mem_singleton.1 hmarker] at heq
    cases heq
    exact absurd hlimit (by decide)
  have hquote : c.quoter b w (.text s) none =
      .ok (String.ofList (Value.stringLiteral s.toList)) := by
    rw [quoter, live_eq hdriver, hengine]
    rfl
  rw [hmarkers]
  refine ⟨_, rfl, _, hmem, .or, _, ⟨_, .bare (by simp) (by simp), .unnamed,
    .quoted hquoted .untyped hquote⟩, ?_⟩
  rwa [String.toList_ofList, SqlLiteral.standsIn_stringLiteral_iff]

end Connection

namespace Request

variable {σ : Type} {b : Backend σ} {c : Connection} {h : Handle} {w : σ}

theorem executions_count {table clause : String} {spec : Option WhereSpec} {params : Value}
    {sent : List Execution} (hclause : (c.formatWhere b spec w).outcome = .ok clause)
    (hresult : (c.fetchResult b (limitToOne (Connection.countStatement table clause)) params).Executes
      b w sent) : executions ((count table spec params).answer b c w).events = sent :=
  ((Connection.count_executes_of_clause hclause hresult).bind fun _ => executesNothing_pure _).2

/-- What counting sends for a clause of columns. Where the cursor opens, one statement is executed:
the table, the clause as it is written, and a limit to one row. The limit is left out when one stands
in the text of a value, as the statement is searched for one with its values in it; for SQLite any
plain text with a limit in it is such a value. Where no cursor opens, nothing is executed. -/
theorem answer_count_limits_unless_values_do (b : Backend σ) (hdriver : c.driver = some h)
    {table clause : String} {entries : List (String × Value)}
    (htable : Connection.isDatabaseName table = true)
    (hnames : ∀ entry ∈ entries, Connection.isDatabaseName entry.1 = true)
    (hclause : (c.formatWhere b (some (.columns entries)) w).outcome = .ok clause) (params : Value) :
    let sent := executions ((count table (some (.columns entries)) params).answer b c w).events
    let bound := if params.truthy then some params else none
    let statement := "SELECT COUNT(*) AS cnt FROM " ++ table ++ clause
    let limited := Clause.SomeHoldsLimit (c.quoter b w) c.markers entries
    ((b.openCursor h w).1 = .ok () →
      (¬ limited → sent = [⟨h, statement ++ " LIMIT 1", bound⟩]) ∧
      (limited → sent = [⟨h, statement, bound⟩])) ∧
    (∀ failure, (b.openCursor h w).1 = .error failure → sent = []) ∧
    (c.settings.engine = .sqlite →
      ∀ column s, (column, .text s) ∈ entries → StandsIn s.toList → limited) := by
  intro sent bound statement limited
  have hlimit := Connection.limitToOne_countStatement htable hnames hclause
  refine ⟨fun hopens => ?_, fun failure hfails => ?_, fun hengine column s hmem hheld => ?_⟩
  · have hone : sent = [Connection.executionOf h _ params] :=
      executions_count hclause (Connection.fetchResult_executes hdriver hopens _ params)
    refine ⟨fun hfree => ?_, fun hheld => ?_⟩
    · rw [hlimit.2 hfree] at hone
      exact hone
    · rw [hlimit.1 hheld] at hone
      exact hone
  · exact executions_count hclause (Connection.fetchResult_executes_of_failure hdriver hfails _ params)
  · exact Connection.someHoldsLimit_of_text hdriver hengine hmem hheld

theorem answer_count_limits_unless_values_do_of_two_texts :
    let b := Backend.refusing []
    let c : Connection := ⟨{ engine := .sqlite, dbname := "app" }, some ⟨0⟩⟩
    let sent (text : String) := executions ((count "t" (some (.columns
      [("a", .text "?"), ("b", .text text)])) (.list [.int 1])).answer b c 0).events
    sent "it's (LIMIT 5)" = [⟨⟨0⟩,
        "SELECT COUNT(*) AS cnt FROM t WHERE (a=?) OR (b='it''s (LIMIT 5)') LIMIT 1",
        some (.list [.int 1])⟩] ∧
      sent "any\tlimit 5" = [⟨⟨0⟩,
        "SELECT COUNT(*) AS cnt FROM t WHERE (a=?) OR (b='any\tlimit 5')", some (.list [.int 1])⟩] := by
  intro b c sent
  have htable : Connection.isDatabaseName "t" = true := by decide
  have hnames (text : String) : ∀ entry ∈ [("a", Value.text "?"), ("b", .text text)],
      Connection.isDatabaseName entry.1 = true := by
    simp only [List.forall_mem_cons]
    exact ⟨by decide, by decide, by simp⟩
  have hfree : (c.formatWhere b (some (.columns [("a", .text "?"), ("b", .text "it's (LIMIT 5)")]))
      0).outcome = .ok " WHERE (a=?) OR (b='it''s (LIMIT 5)')" := rfl
  have hheld : (c.formatWhere b (some (.columns [("a", .text "?"), ("b", .text "any\tlimit 5")]))
      0).outcome = .ok " WHERE (a=?) OR (b='any\tlimit 5')" := rfl
  constructor
  · refine ((answer_count_limits_unless_values_do b rfl htable (hnames _) hfree _).1 rfl).1 ?_
    rw [← Clause.standsIn_append_clause_iff List.isChain_nil (hnames _) hfree]
    decide +kernel
  · obtain ⟨hopens, -, htext⟩ :=
      answer_count_limits_unless_values_do b rfl htable (hnames _) hheld (.list [.int 1])
    exact (hopens rfl).2 (htext rfl "b" "any\tlimit 5" (by simp) (by decide +kernel))

/-- A quoted text keeps counting from limiting its statement. -/
theorem answer_count_unlimited_by_quoted_text :
    let b := Backend.refusing []
    let c : Connection := ⟨{ engine := .sqlite, dbname := "app" }, some ⟨0⟩⟩
    let entries : List (String × Value) := [("note", .text "x LIMIT 5")]
    let sent := executions ((count "t" (some (.columns entries)) .null).answer b c 0).events
    Connection.isDatabaseName "t" = true ∧ Connection.isDatabaseName "note" = true ∧
      (c.formatWhere b (some (.columns entries)) 0).outcome = .ok " WHERE (note='x LIMIT 5')" ∧
      sent = [⟨⟨0⟩, "SELECT COUNT(*) AS cnt FROM t WHERE (note='x LIMIT 5')", none⟩] ∧
      sent ≠ [⟨⟨0⟩, "SELECT COUNT(*) AS cnt FROM t WHERE (note='x LIMIT 5') LIMIT 1", none⟩] := by
  intro b c entries sent
  have hclause : (c.formatWhere b (some (.columns entries)) 0).outcome =
      .ok " WHERE (note='x LIMIT 5')" := rfl
  have hkept : limitToOne (Connection.countStatement "t" " WHERE (note='x LIMIT 5')") =
      "SELECT COUNT(*) AS cnt FROM t WHERE (note='x LIMIT 5')" := by decide +kernel
  have hsent : sent = [⟨⟨0⟩, "SELECT COUNT(*) AS cnt FROM t WHERE (note='x LIMIT 5')", none⟩] := by
    have hone : sent = [Connection.executionOf ⟨0⟩ _ .null] :=
      executions_count hclause (Connection.fetchResult_executes rfl rfl _ .null)
    rwa [hkept] at hone
  refine ⟨by decide, by decide, hclause, hsent, ?_⟩
  rw [hsent]
  intro hsame
  have hsql := congrArg (List.map Execution.sql) hsame
  exact absurd hsql (by decide)

end Request

end SqlBridge
