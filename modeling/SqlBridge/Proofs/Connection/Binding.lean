import SqlBridge.Proofs.Connection.Counting
import SqlBridge.Proofs.Connection.Existence
import SqlBridge.Proofs.Limit.Normalization
import SqlBridge.Proofs.Literal.Numerals
import SqlBridge.Proofs.Template.Confinement

namespace SqlBridge

open SqlBridge.Action
open Text

section Markers

variable {marker x y : String} {m : Char} {ms : List Char}

theorem markerCount_eq_zero_iff :
    markerCount marker x = 0 ↔ ¬ marker.toList <:+: x.toList := by
  unfold markerCount
  rw [List.countP_eq_zero, List.infix_iff_prefix_suffix]
  simp only [List.mem_tails, List.isPrefixOf_iff_prefix]
  constructor
  · rintro hnone ⟨rest, hstarts, hrest⟩
    exact hnone rest hrest hstarts
  · exact fun hnone rest hrest hstarts => hnone ⟨rest, hstarts, hrest⟩

/-- What holds no beginning of a marker has none, whatever follows it. -/
theorem markerCount_append_of_free (hmarker : marker.toList = m :: ms) (hfree : m ∉ x.toList) :
    markerCount marker (x ++ y) = markerCount marker y := by
  unfold markerCount
  rw [hmarker, String.toList_append, countP_tails_append hfree]

theorem markerCount_eq_zero_of_free (hmarker : marker.toList = m :: ms) (hfree : m ∉ x.toList) :
    markerCount marker x = 0 := by
  rw [markerCount_eq_zero_iff, hmarker]
  intro hpart
  exact hfree (hpart.subset List.mem_cons_self)

/-- No marker reaches over a seam behind which no character of it stands. -/
theorem markerCount_append (hne : marker ≠ "") (hseam : ∀ c ∈ y.toList.head?, c ∉ marker.toList) :
    markerCount marker (x ++ y) = markerCount marker x + markerCount marker y := by
  have hstart (xs : List Char) : marker.toList <+: xs ++ y.toList ↔ marker.toList <+: xs := by
    cases hy : y.toList with
    | nil => rw [List.append_nil]
    | cons c ys => exact prefix_append_cons_iff (hseam c (by rw [hy]; rfl))
  have hnil : ¬ marker.toList <+: [] := by
    rw [List.prefix_nil]
    simpa using hne
  unfold markerCount
  rw [String.toList_append]
  induction x.toList with
  | nil => simp [List.isPrefixOf_iff_prefix, hnil]
  | cons c xs ih =>
    rw [List.cons_append, List.tails_cons, List.tails_cons, List.countP_cons, List.countP_cons, ih,
      ← List.cons_append]
    simp only [List.isPrefixOf_iff_prefix, hstart]
    omega

/-- The bind marker of a server, letter by letter. -/
theorem toList_serverMarker : "%s".toList = ['%', 's'] := by
  decide

end Markers

/-- The texts that a clause for a server leaves unquoted. -/
def serverMarkers : List Value :=
  [.text "?", .text "%s"]

/-- Whether a value is handed to the quoter. -/
def Value.isQuoted (markers : List Value) : Value → Bool
  | .bool _ | .int _ | .float _ => false
  | v => !isMarker markers v

theorem Value.isQuoted_iff {markers : List Value} {v : Value} :
    v.isQuoted markers = true ↔ NeedsQuoting markers v := by
  cases v <;> simp [isQuoted, NeedsQuoting, IsNumber, ← isMarker_iff]

namespace Clause

variable {quote : Quoter} {markers : List Value} {marker text : String} {combinator : Combinator}
  {entry : Value}

/-- Whether the value of an entry is this bind marker. -/
def isBound (marker : String) (entry : Value) : Bool :=
  match Condition.ofEntry entry with
  | .ok condition => condition.value.text? == some marker
  | .error _ => false

/-- What the quoter writes for the value of an entry, if it is handed to the quoter. -/
def quotedText? (quote : Quoter) (markers : List Value) (entry : Value) : Option String :=
  match Condition.ofEntry entry with
  | .ok condition =>
    if condition.value.isQuoted markers then (condition.render quote markers).toOption else none
  | .error _ => none

/-- The texts that the quoter writes for the values of columns, in order. -/
def quotedTexts (quote : Quoter) (markers : List Value) (entries : List (String × Value)) :
    List String :=
  entries.filterMap fun entry => quotedText? quote markers entry.2

theorem markerCount_shown_of_isNumber {v : Value} (hnumber : v.IsNumber) :
    markerCount "%s" v.shown = 0 := by
  apply markerCount_eq_zero_of_free toList_serverMarker
  intro hmem
  have hnumeral := hnumber.isNumeral_of_mem_shown hmem
  revert hnumeral
  unfold IsNumeral
  decide

/-- A value that equals a bind marker of a server is the text of it. -/
theorem eq_text_of_equalsMarker {v : Value} (hmarker : EqualsMarker serverMarkers v) :
    v = .text "?" ∨ v = .text "%s" := by
  obtain ⟨s, htext, marker, hmem, hsame⟩ := hmarker
  have hs : s = "?" ∨ s = "%s" := by
    rw [serverMarkers, List.mem_pair] at hmem
    rcases hmem with rfl | rfl
    · exact .inl (Option.some.inj hsame).symm
    · exact .inr (Option.some.inj hsame).symm
  cases v with
  | text s' =>
    cases htext
    exact hs.imp (congrArg Value.text) (congrArg Value.text)
  | engine e =>
    cases htext
    exact absurd hs (by cases e <;> decide)
  | _ => cases htext

theorem isBound_of_givenBy {condition : Condition} (hgiven : Condition.GivenBy entry condition) :
    isBound marker entry = (condition.value.text? == some marker) := by
  rw [isBound, Condition.ofEntry_eq_ok_iff.2 hgiven]

theorem quotedText?_of_givenBy {condition : Condition} (hgiven : Condition.GivenBy entry condition)
    (hrender : condition.render quote markers = .ok text) :
    quotedText? quote markers entry =
      if condition.value.isQuoted markers then some text else none := by
  rw [quotedText?, Condition.ofEntry_eq_ok_iff.2 hgiven]
  dsimp only
  rw [hrender]
  rfl

/-- The markers of a value: one if it is the marker itself, and else those of its quoted text. -/
theorem Writes.markerCount_eq (hwrites : Writes quote serverMarkers entry combinator text) :
    markerCount "%s" text = (if isBound "%s" entry then 1 else 0) +
      (quotedText? quote serverMarkers entry).elim 0 (markerCount "%s") := by
  obtain ⟨⟨v, type, word⟩, hgiven, -, hwritten⟩ := hwrites
  rw [isBound_of_givenBy hgiven, quotedText?_of_givenBy hgiven (Condition.render_eq_ok_iff.2 hwritten)]
  cases hwritten with
  | bool b =>
    have hcount : markerCount "%s" (if b then "1" else "0") = 0 := by
      cases b <;> decide
    simpa [Value.text?, Value.isQuoted] using hcount
  | number hnumber =>
    rw [markerCount_shown_of_isNumber hnumber]
    rcases hnumber with ⟨n, rfl⟩ | ⟨x, rfl⟩ <;> simp [Value.text?, Value.isQuoted]
  | marker hmarker =>
    have hunquoted : v.isQuoted serverMarkers = false := by
      rw [Bool.eq_false_iff]
      exact fun hquoted => (Value.isQuoted_iff.1 hquoted).2.2 hmarker
    rcases eq_text_of_equalsMarker hmarker with rfl | rfl
    · have hcount : markerCount "%s" "?" = 0 := by decide
      simpa [hunquoted, Value.text?, Value.shown] using hcount
    · have hcount : markerCount "%s" "%s" = 1 := by decide
      simpa [hunquoted, Value.text?, Value.shown] using hcount
  | quoted hquoted htype hquote =>
    have hother : v.text? ≠ some "%s" := by
      intro htext
      exact hquoted.2.2 ⟨"%s", htext, .text "%s", by simp [serverMarkers], rfl⟩
    simp [hother, Value.isQuoted_iff.2 hquoted]

variable {entries : List (String × Value)} {group : Combinator × String}
  {groups : List (Combinator × String)}

/-- How many markers columns bring with them: one for each value that is the marker, and those that
stand in the quoted texts. -/
def addedMarkers (quote : Quoter) (markers : List Value) (marker : String)
    (entries : List (String × Value)) : Nat :=
  entries.countP (fun entry => isBound marker entry.2) +
    ((quotedTexts quote markers entries).map (markerCount marker)).sum

theorem addedMarkers_cons (first : String × Value) :
    addedMarkers quote markers marker (first :: entries) =
      (if isBound marker first.2 then 1 else 0) +
        (quotedText? quote markers first.2).elim 0 (markerCount marker) +
        addedMarkers quote markers marker entries := by
  unfold addedMarkers quotedTexts
  rw [List.countP_cons, List.filterMap_cons]
  cases quotedText? quote markers first.2 with
  | none =>
    simp only [Option.elim_none]
    omega
  | some text =>
    simp only [Option.elim_some, List.map_cons, List.sum_cons]
    omega

/-- A group has the markers of its value, whatever stands around it. -/
theorem IsGroup.markerCount_append {first : String × Value}
    (hgroup : IsGroup quote serverMarkers first group) (hname : '%' ∉ first.1.toList)
    {lead : String} (hlead : '%' ∉ lead.toList) (rest : String) :
    markerCount "%s" (lead ++ group.2 ++ rest) =
      (if isBound "%s" first.2 then 1 else 0) +
        (quotedText? quote serverMarkers first.2).elim 0 (markerCount "%s") +
        markerCount "%s" rest := by
  obtain ⟨text, hwrites, hform⟩ := hgroup
  have hlayout : lead ++ group.2 ++ rest =
      (lead ++ "(" ++ first.1 ++ "=") ++ (text ++ (")" ++ rest)) := by
    simp only [hform, String.append_assoc]
  have hfront : '%' ∉ (lead ++ "(" ++ first.1 ++ "=").toList := by
    simp [hlead, hname]
  -- Whatever the value ends in, the parenthesis behind it completes no marker.
  have hseam : ∀ c ∈ (")" ++ rest).toList.head?, c ∉ "%s".toList := by
    simp [toList_serverMarker]
  rw [hlayout, markerCount_append_of_free toList_serverMarker hfront,
    SqlBridge.markerCount_append (by decide) hseam,
    markerCount_append_of_free toList_serverMarker (by decide), hwrites.markerCount_eq]

theorem markerCount_joinFollowing
    (hgroups : List.Forall₂ (IsGroup quote serverMarkers) entries groups)
    (hnames : ∀ entry ∈ entries, '%' ∉ entry.1.toList) :
    markerCount "%s" (joinFollowing groups) =
      addedMarkers quote serverMarkers "%s" entries := by
  induction hgroups with
  | nil => rfl
  | @cons first group entries groups hgroup _ ih =>
    obtain ⟨hname, hnames⟩ := List.forall_mem_cons.1 hnames
    have hword : '%' ∉ (" " ++ group.1.word ++ " ").toList := by
      cases group.1 <;> decide
    rw [joinFollowing, hgroup.markerCount_append hname hword, ih hnames, addedMarkers_cons]

/-- Behind a text without percent signs, a clause has just the markers of its columns. -/
theorem markerCount_append_clause {quote : Quoter} {clause before : String}
    (hbefore : '%' ∉ before.toList) (hnames : ∀ entry ∈ entries, '%' ∉ entry.1.toList)
    (hclause : formatWhere (some (.columns entries)) quote (.tuple serverMarkers) =
      .ok clause) :
    markerCount "%s" (before ++ clause) =
      addedMarkers quote serverMarkers "%s" entries := by
  by_cases hne : entries = []
  · subst hne
    cases hclause
    rw [String.append_empty, markerCount_eq_zero_of_free toList_serverMarker hbefore]
    rfl
  · obtain ⟨items, groups, hitems, hgroups, rfl⟩ := exists_groups_of_columns hne hclause
    cases hitems
    cases hgroups with
    | nil => exact absurd rfl hne
    | @cons first group entries groups hgroup hrest =>
      obtain ⟨hname, hnames⟩ := List.forall_mem_cons.1 hnames
      have hlead : '%' ∉ (before ++ " WHERE ").toList := by
        simp [hbefore]
      rw [joinGroups, ← String.append_assoc, ← String.append_assoc,
        hgroup.markerCount_append hname hlead, markerCount_joinFollowing hrest hnames, addedMarkers_cons]

theorem addedMarkers_eq_iff :
    addedMarkers quote markers marker entries =
        entries.countP (fun entry => isBound marker entry.2) ↔
      ∀ text ∈ quotedTexts quote markers entries, ¬ marker.toList <:+: text.toList := by
  rw [addedMarkers, Nat.add_eq_left, List.sum_eq_zero_iff, List.forall_mem_map]
  simp only [markerCount_eq_zero_iff]

/-- A plain text that is no bind marker is quoted, where a clause is written. -/
theorem exists_mem_quotedTexts_of_text {given : Value} {items : List Value} {clause : String}
    (hitems : given.items = .ok items)
    (hclause : formatWhere (some (.columns entries)) quote given = .ok clause)
    {column s : String} (hmem : (column, .text s) ∈ entries)
    (hother : ¬ EqualsMarker items (.text s)) :
    ∃ text ∈ quotedTexts quote items entries, quote (.text s) none = .ok text := by
  obtain ⟨items', groups, hitems', hgroups, -⟩ :=
    exists_groups_of_columns (List.ne_nil_of_mem hmem) hclause
  cases hitems.symm.trans hitems'
  obtain ⟨group, -, text, ⟨condition, hgiven, -, hwritten⟩, -⟩ :=
    exists_related_of_mem hgroups.flip hmem
  have hcondition : condition = ⟨.text s, .null, .null⟩ :=
    (Except.ok.inj (Condition.ofEntry_eq_ok_iff.2 hgiven)).symm
  subst hcondition
  have hneeds : NeedsQuoting items (.text s) := ⟨by simp, by simp [Value.IsNumber], hother⟩
  have hrender := Condition.render_eq_ok_iff.2 hwritten
  have hquoted : quotedText? quote items (.text s) = some text := by
    rw [quotedText?_of_givenBy hgiven hrender, if_pos (Value.isQuoted_iff.2 hneeds)]
  refine ⟨text, List.mem_filterMap.2 ⟨_, hmem, hquoted⟩, ?_⟩
  rw [Condition.render_of_needsQuoting hneeds] at hrender
  exact hrender

end Clause

/-- To limit a statement to one row keeps its markers. -/
theorem markerCount_limitToOne (sql : String) :
    markerCount "%s" (limitToOne sql) = markerCount "%s" sql := by
  by_cases hset : SetsLimit sql
  · rw [limitToOne_eq_self hset]
  · obtain ⟨kept, cut, hsplit, hlimited, hcut⟩ := exists_limitToOne_eq_append hset
    have hplain : ∀ c ∈ cut.toList, c ∉ "%s".toList := by
      have hletters : ∀ m ∈ ['%', 's'], isBlank m = false ∧ m ≠ ';' := by simp [isBlank]
      intro c hc hmem
      rw [toList_serverMarker] at hmem
      obtain ⟨hblank, hmark⟩ := hletters c hmem
      rcases hcut c hc with hcut | hcut
      · rw [hblank] at hcut
        cases hcut
      · exact hmark hcut
    have hlost : ∀ c ∈ cut.toList.head?, c ∉ "%s".toList := fun c hc =>
      hplain c (List.mem_of_mem_head? hc)
    have hadded : ∀ c ∈ " LIMIT 1".toList.head?, c ∉ "%s".toList := by
      simp [toList_serverMarker]
    have hcutCount : markerCount "%s" cut = 0 :=
      markerCount_eq_zero_of_free toList_serverMarker fun hmem =>
        hplain '%' hmem (by simp [toList_serverMarker])
    have hlimitCount : markerCount "%s" " LIMIT 1" = 0 :=
      markerCount_eq_zero_of_free toList_serverMarker (by decide)
    rw [hlimited, hsplit, markerCount_append (by decide) hlost, markerCount_append (by decide) hadded,
      hcutCount, hlimitCount]

namespace Connection

variable {table clause : String} {quote : Quoter} {entries : List (String × Value)}

theorem markers_eq_serverMarkers {c : Connection} (hserver : c.settings.engine ≠ .sqlite) :
    c.markers = .tuple serverMarkers := by
  unfold markers
  cases hengine : c.settings.engine with
  | sqlite => exact absurd hengine hserver
  | _ => rfl

/-- The statement that counts rows has the markers of the columns of its clause. -/
theorem markerCount_countStatement (htable : '%' ∉ table.toList)
    (hnames : ∀ entry ∈ entries, '%' ∉ entry.1.toList)
    (hclause : SqlBridge.formatWhere (some (.columns entries)) quote
      (.tuple serverMarkers) = .ok clause) :
    markerCount "%s" (limitToOne (countStatement table clause)) =
      Clause.addedMarkers quote serverMarkers "%s" entries := by
  have hbefore : '%' ∉ ("SELECT COUNT(*) AS cnt FROM " ++ table).toList := by
    rw [String.toList_append, List.mem_append, not_or]
    exact ⟨by decide, htable⟩
  rw [markerCount_limitToOne]
  unfold countStatement
  exact Clause.markerCount_append_clause hbefore hnames hclause

end Connection

namespace Request

variable {σ : Type} {c : Connection} {h : Handle} {w : σ}

/-- How many bind markers stand in the statement that a server is sent by counting, when neither the
table nor a column has a percent sign in its name. They are those of the values that are the marker,
one each, and those that stand in the quoted texts. So the parameters have as many markers as they are
meant for just when no quoted text holds one. Where the quoter keeps the markers of a text, a value
with a marker inside is one too many. -/
theorem answer_count_has_markers_of_quoted_texts (b : Backend σ) (hdriver : c.driver = some h)
    (hserver : c.settings.engine ≠ .sqlite) {table clause : String}
    {entries : List (String × Value)} (htable : '%' ∉ table.toList)
    (hnames : ∀ entry ∈ entries, '%' ∉ entry.1.toList)
    (hclause : (c.formatWhere b (some (.columns entries)) w).outcome = .ok clause) {params : Value}
    (hparams : params.truthy = true) :
    let statement := limitToOne ("SELECT COUNT(*) AS cnt FROM " ++ table ++ clause)
    let sent := executions ((count table (some (.columns entries)) params).answer b c w).events
    let bound := entries.countP fun entry => Clause.isBound "%s" entry.2
    let quoted := Clause.quotedTexts (c.quoter b w) serverMarkers entries
    let keeps := ∀ s text, c.quoter b w (.text s) none = .ok text →
      "%s".toList <:+: s.toList → "%s".toList <:+: text.toList
    ((b.openCursor h w).1 = .ok () → sent = [⟨h, statement, some params⟩]) ∧
      (∀ failure, (b.openCursor h w).1 = .error failure → sent = []) ∧
      markerCount "%s" statement = bound + (quoted.map (markerCount "%s")).sum ∧
      (markerCount "%s" statement = bound ↔ ∀ text ∈ quoted, ¬ "%s".toList <:+: text.toList) ∧
      (keeps → ∀ column s, (column, .text s) ∈ entries → s ≠ "%s" → "%s".toList <:+: s.toList →
        bound < markerCount "%s" statement) := by
  intro statement sent bound quoted keeps
  have hmarkers : c.markers = .tuple serverMarkers := Connection.markers_eq_serverMarkers hserver
  have hformat : SqlBridge.formatWhere (some (.columns entries)) (c.quoter b w)
      (.tuple serverMarkers) = .ok clause := by
    rw [← hmarkers]
    exact hclause
  have hcount : markerCount "%s" statement = bound + (quoted.map (markerCount "%s")).sum :=
    Connection.markerCount_countStatement htable hnames hformat
  have hexact : markerCount "%s" statement = bound ↔
      ∀ text ∈ quoted, ¬ "%s".toList <:+: text.toList := by
    rw [hcount]
    exact Clause.addedMarkers_eq_iff
  refine ⟨fun hopens => ?_, fun failure hfails => ?_, hcount, hexact, ?_⟩
  · have hone : sent = [Connection.executionOf h statement params] :=
      executions_count hclause (Connection.fetchResult_executes hdriver hopens _ params)
    rwa [Connection.executionOf, if_pos hparams] at hone
  · exact executions_count hclause (Connection.fetchResult_executes_of_failure hdriver hfails _ params)
  · intro hkeeps column s hmem hother hinside
    have hplain : ¬ EqualsMarker serverMarkers (.text s) := by
      intro hmarker
      rcases Clause.eq_text_of_equalsMarker hmarker with hs | hs
      · cases hs
        revert hinside
        decide
      · cases hs
        exact hother rfl
    obtain ⟨text, htext, hquote⟩ :=
      Clause.exists_mem_quotedTexts_of_text rfl hformat hmem hplain
    have hmore : markerCount "%s" statement ≠ bound := by
      rw [Ne, hexact]
      exact fun hfree => hfree text htext (hkeeps s text hquote hinside)
    omega

theorem answer_count_has_markers_of_quoted_texts_of_two_texts :
    let b := { Backend.refusing [] with escape := fun _ v _ => "'" ++ v.shown ++ "'" }
    let c : Connection := ⟨{ engine := .mysql, dbname := "app" }, some ⟨0⟩⟩
    let params : Value := .list [.int 1]
    let sent (text : String) := executions ((count "t" (some (.columns
      [("a", .text "%s"), ("b", .text text)])) params).answer b c 0).events
    let plain := limitToOne "SELECT COUNT(*) AS cnt FROM t WHERE (a=%s) OR (b='50% off')"
    let mixed := limitToOne "SELECT COUNT(*) AS cnt FROM t WHERE (a=%s) OR (b='50%sale')"
    sent "50% off" = [⟨⟨0⟩, plain, some params⟩] ∧ markerCount "%s" plain = 1 ∧
      sent "50%sale" = [⟨⟨0⟩, mixed, some params⟩] ∧ 1 < markerCount "%s" mixed := by
  intro b c params sent plain mixed
  have hnames (text : String) : ∀ entry ∈ [("a", Value.text "%s"), ("b", .text text)],
      '%' ∉ entry.1.toList := by
    simp only [List.forall_mem_cons]
    exact ⟨by decide, by decide, by simp⟩
  have hplain : (c.formatWhere b (some (.columns [("a", .text "%s"), ("b", .text "50% off")]))
      0).outcome = .ok " WHERE (a=%s) OR (b='50% off')" := rfl
  have hmixed : (c.formatWhere b (some (.columns [("a", .text "%s"), ("b", .text "50%sale")]))
      0).outcome = .ok " WHERE (a=%s) OR (b='50%sale')" := rfl
  have htable : '%' ∉ "t".toList := by decide
  have hparams : params.truthy = true := rfl
  have hserver : c.settings.engine ≠ .sqlite := by decide
  obtain ⟨hsent, -, -, hexact, -⟩ :=
    answer_count_has_markers_of_quoted_texts b rfl hserver htable (hnames _) hplain hparams
  obtain ⟨hsent', -, -, -, hmore⟩ :=
    answer_count_has_markers_of_quoted_texts b rfl hserver htable (hnames _) hmixed hparams
  refine ⟨hsent rfl, hexact.2 ?_, hsent' rfl, ?_⟩
  · have hquoted : Clause.quotedTexts (c.quoter b 0) serverMarkers
        [("a", .text "%s"), ("b", .text "50% off")] = ["'50% off'"] := rfl
    rw [hquoted, List.forall_mem_singleton]
    decide
  · apply hmore _ "b" "50%sale" (by simp) (by decide) (by decide)
    intro s text hquote hinside
    have htext : "'" ++ s ++ "'" = text := Except.ok.inj hquote
    rw [← htext]
    exact hinside.trans ⟨['\''], ['\''], by simp⟩

/-- A quoted text brings a marker with it that no parameter is meant for. -/
theorem answer_count_takes_quoted_text_for_marker :
    let b := { Backend.refusing [] with escape := fun _ v _ => "'" ++ v.shown ++ "'" }
    let c : Connection := ⟨{ engine := .mysql, dbname := "app" }, some ⟨0⟩⟩
    let entries : List (String × Value) := [("a", .text "%s"), ("b", .text "50%sale")]
    let params : Value := .list [.int 1]
    let statement := "SELECT COUNT(*) AS cnt FROM t WHERE (a=%s) OR (b='50%sale') LIMIT 1"
    let sent := executions ((count "t" (some (.columns entries)) params).answer b c 0).events
    (∀ entry ∈ entries, '%' ∉ entry.1.toList) ∧
      (c.formatWhere b (some (.columns entries)) 0).outcome =
        .ok " WHERE (a=%s) OR (b='50%sale')" ∧
      params.truthy = true ∧ sent = [⟨⟨0⟩, statement, some params⟩] ∧
      (entries.countP fun entry => Clause.isBound "%s" entry.2) = 1 ∧
      markerCount "%s" statement = 2 := by
  intro b c entries params statement sent
  have hclause : (c.formatWhere b (some (.columns entries)) 0).outcome =
      .ok " WHERE (a=%s) OR (b='50%sale')" := rfl
  have hlimited : limitToOne (Connection.countStatement "t" " WHERE (a=%s) OR (b='50%sale')") =
      statement := by decide +kernel
  have hsent : sent = [⟨⟨0⟩, statement, some params⟩] := by
    have hone : sent = [Connection.executionOf ⟨0⟩ _ params] :=
      executions_count hclause (Connection.fetchResult_executes rfl rfl _ params)
    rwa [hlimited] at hone
  refine ⟨?_, hclause, rfl, hsent, by decide, by decide +kernel⟩
  unfold entries
  simp only [List.forall_mem_cons]
  exact ⟨by decide, by decide, by simp⟩

end Request

end SqlBridge
