import SqlBridge.Connection
import SqlBridge.Proofs.Clause.Strings
import SqlBridge.Proofs.Driver.Calls

namespace SqlBridge

open SqlLiteral

/-- A column of a clause without the text that it is compared with: its name, and the type and the
combinator of its condition. -/
structure ColumnShape where
  name : String
  type : Value
  combinator : Value

namespace ColumnShape

/-- The entries of a clause that compare the columns of these shapes with these texts, whichever
form the condition of each column is written in. -/
inductive Compares : List ColumnShape → List String → List (String × Value) → Prop where
  | nil : Compares [] [] []
  | cons {shape : ColumnShape} {s : String} {entry : Value} {shapes : List ColumnShape}
      {texts : List String} {entries : List (String × Value)}
      (hentry : Condition.ofEntry entry = .ok ⟨.text s, shape.type, shape.combinator⟩)
      (hrest : Compares shapes texts entries) :
      Compares (shape :: shapes) (s :: texts) ((shape.name, entry) :: entries)

/-- The combinator and the name of a column, or the fault of a combinator that there is not. -/
def head (shape : ColumnShape) : Except Fault (Combinator × String) :=
  match Combinator.ofValue shape.combinator with
  | .ok combinator => .ok (combinator, shape.name)
  | .error p => .error (.problem p)

theorem Compares.length_eq {shapes : List ColumnShape} {texts : List String}
    {entries : List (String × Value)} (hcompares : Compares shapes texts entries) :
    shapes.length = texts.length := by
  induction hcompares with
  | nil => rfl
  | cons _ _ ih => simp [ih]

theorem Compares.entries_ne_nil {shapes : List ColumnShape} {texts : List String}
    {entries : List (String × Value)} (hcompares : Compares shapes texts entries)
    (hne : shapes ≠ []) : entries ≠ [] := by
  cases hcompares with
  | nil => exact absurd rfl hne
  | cons _ _ => exact List.cons_ne_nil _ _

theorem names_of_heads {shapes : List ColumnShape} {heads : List (Combinator × String)}
    (hheads : shapes.mapM head = .ok heads) : heads.map Prod.snd = shapes.map name := by
  induction shapes generalizing heads with
  | nil =>
    cases hheads
    rfl
  | cons shape shapes ih =>
    rw [List.mapM_cons] at hheads
    cases hcombinator : Combinator.ofValue shape.combinator with
    | error p =>
      have hhead : shape.head = .error (.problem p) := by rw [head, hcombinator]
      rw [hhead] at hheads
      cases hheads
    | ok combinator =>
      have hhead : shape.head = .ok (combinator, shape.name) := by rw [head, hcombinator]
      cases hrest : shapes.mapM head with
      | error fault =>
        rw [hhead, hrest] at hheads
        cases hheads
      | ok rest =>
        rw [hhead, hrest] at hheads
        cases hheads
        rw [List.map_cons, List.map_cons, ih hrest]

end ColumnShape

namespace Clause

/-- A group in which a literal stands on the right side. -/
def groupWith (literal : List Char) (head : Combinator × String) : Combinator × String :=
  (head.1, String.ofList ('(' :: head.2.toList ++ '=' :: literal ++ [')']))

/-- The groups of columns that are compared with texts. -/
def groups (heads : List (Combinator × String)) (texts : List String) :
    List (Combinator × String) :=
  heads.zipWith (fun head s => groupWith (Value.stringLiteral s.toList) head) texts

/-- Two clauses, or refusals to write one, that tell the texts in them apart by nothing but their
string literals: both are refused for one fault, or both are the same text once their string
literals are removed, and the literals say exactly the texts. -/
def Confined (texts₁ texts₂ : List String) : Except Fault String → Except Fault String → Prop
  | .ok clause₁, .ok clause₂ => ∃ outside,
      splitStrings clause₁.toList = some (outside, texts₁.map String.toList) ∧
      splitStrings clause₂.toList = some (outside, texts₂.map String.toList)
  | .error fault₁, .error fault₂ => fault₁ = fault₂
  | _, _ => False

theorem splitStrings_group {head : Combinator × String} (hname : '\'' ∉ head.2.toList) (s : String)
    (rest : List Char) :
    splitStrings ((groupWith (Value.stringLiteral s.toList) head).2.toList ++ rest) =
      (splitStrings rest).map fun (outside, strings) =>
        ((groupWith [] head).2.toList ++ outside, s.toList :: strings) := by
  have hbefore : '\'' ∉ '(' :: head.2.toList ++ ['='] := by simpa using hname
  have hform : (groupWith (Value.stringLiteral s.toList) head).2.toList ++ rest =
      ('(' :: head.2.toList ++ ['=']) ++ (Value.stringLiteral s.toList ++ ([')'] ++ rest)) := by
    simp [groupWith]
  rw [hform, splitStrings_append hbefore, splitStrings_stringLiteral _ (by simp),
    splitStrings_append (by simp), Option.map_map, Option.map_map]
  cases splitStrings rest with
  | none => simp only [Option.map_none]
  | some split => simp [groupWith]

theorem toList_joinFollowing_cons (group : Combinator × String)
    (groups : List (Combinator × String)) :
    (joinFollowing (group :: groups)).toList =
      (' ' :: group.1.word.toList ++ [' ']) ++ (group.2.toList ++ (joinFollowing groups).toList) := by
  simp [joinFollowing]

theorem quote_not_mem_word (combinator : Combinator) :
    '\'' ∉ ' ' :: combinator.word.toList ++ [' '] := by
  cases combinator <;> decide

theorem splitStrings_joinFollowing {heads : List (Combinator × String)} {texts : List String}
    (hlength : heads.length = texts.length) (hnames : ∀ head ∈ heads, '\'' ∉ head.2.toList) :
    splitStrings (joinFollowing (groups heads texts)).toList =
      some ((joinFollowing (heads.map (groupWith []))).toList, texts.map String.toList) := by
  induction heads generalizing texts with
  | nil =>
    obtain rfl := List.eq_nil_of_length_eq_zero hlength.symm
    simp [groups, joinFollowing, splitStrings_nil]
  | cons head heads ih =>
    cases texts with
    | nil => cases hlength
    | cons s texts =>
      obtain ⟨hname, hrest⟩ := List.forall_mem_cons.1 hnames
      -- After the first group no literal is open, so the groups behind it are read on their own.
      have htail := ih (Nat.succ.inj hlength) hrest
      rw [groups, List.zipWith_cons_cons, toList_joinFollowing_cons,
        splitStrings_append (quote_not_mem_word _), splitStrings_group hname]
      rw [groups] at htail
      rw [htail, List.map_cons, toList_joinFollowing_cons]
      rfl

theorem splitStrings_joinGroups {heads : List (Combinator × String)} {texts : List String}
    (hlength : heads.length = texts.length) (hnames : ∀ head ∈ heads, '\'' ∉ head.2.toList) :
    splitStrings (joinGroups (groups heads texts)).toList =
      some ((joinGroups (heads.map (groupWith []))).toList, texts.map String.toList) := by
  cases heads with
  | nil =>
    obtain rfl := List.eq_nil_of_length_eq_zero hlength.symm
    simp [groups, joinGroups, splitStrings_nil]
  | cons head heads =>
    cases texts with
    | nil => cases hlength
    | cons s texts =>
      obtain ⟨hname, hrest⟩ := List.forall_mem_cons.1 hnames
      have htail := splitStrings_joinFollowing (Nat.succ.inj hlength) hrest
      rw [groups] at htail
      rw [groups, List.zipWith_cons_cons, joinGroups, String.toList_append,
        splitStrings_group hname, htail, List.map_cons, joinGroups, String.toList_append]
      rfl

/-- The strings are written as literals, without a type and as strings. -/
def WritesLiterals (quote : Quoter) : Prop :=
  ∀ s type, type = none ∨ type = some ParamType.str →
    quote (.text s) type = .ok (String.ofList (Value.stringLiteral s.toList))

theorem standardQuoter_writesLiterals : WritesLiterals standardQuoter := by
  rintro s type (rfl | rfl) <;> rfl

theorem render_text (quote : Quoter) (combinator : Value) {markers : List Value} {s : String}
    {type : Value} (htype : type = .null ∨ type = .text "str")
    (hfree : isMarker markers (.text s) = false) :
    ∃ paramType, (paramType = none ∨ paramType = some ParamType.str) ∧
      (Condition.mk (.text s) type combinator).render quote markers =
        quote (.text s) paramType := by
  rcases htype with rfl | rfl
  · refine ⟨none, .inl rfl, ?_⟩
    simp only [Condition.render, hfree]
    rfl
  · refine ⟨some .str, .inr rfl, ?_⟩
    simp only [Condition.render, hfree]
    rfl

theorem columnGroup_bind {quote : Quoter} {markers : List Value} {shape : ColumnShape} {s : String}
    {entry : Value}
    (hentry : Condition.ofEntry entry = .ok ⟨.text s, shape.type, shape.combinator⟩) :
    columnGroup quote markers shape.name entry =
      ((Combinator.ofValue shape.combinator).mapError Fault.problem >>= fun combinator =>
        (Condition.mk (.text s) shape.type shape.combinator).render quote markers >>= fun text =>
          .ok (combinator, "(" ++ shape.name ++ "=" ++ text ++ ")")) := by
  rw [columnGroup, hentry]
  rfl

theorem columnGroup_eq {quote : Quoter} {markers : List Value} {shape : ColumnShape} {s : String}
    {entry : Value} (hquote : WritesLiterals quote)
    (hentry : Condition.ofEntry entry = .ok ⟨.text s, shape.type, shape.combinator⟩)
    (htype : shape.type = .null ∨ shape.type = .text "str")
    (hfree : isMarker markers (.text s) = false) :
    columnGroup quote markers shape.name entry =
      shape.head.map (groupWith (Value.stringLiteral s.toList)) := by
  obtain ⟨type, hparam, hrender⟩ :=
    render_text quote shape.combinator htype hfree
  rw [columnGroup_bind hentry, hrender, hquote s type hparam]
  cases hcombinator : Combinator.ofValue shape.combinator with
  | error p =>
    rw [ColumnShape.head, hcombinator]
    rfl
  | ok combinator =>
    have hgroup : "(" ++ shape.name ++ "=" ++ String.ofList (Value.stringLiteral s.toList) ++ ")" =
        (groupWith (Value.stringLiteral s.toList) (combinator, shape.name)).2 := by
      apply String.toList_injective
      simp [groupWith]
    rw [ColumnShape.head, hcombinator]
    change Except.ok (combinator, _) = Except.ok _
    rw [hgroup]
    rfl

theorem columnGroups_eq {quote : Quoter} {markers : List Value} {shapes : List ColumnShape}
    {texts : List String} {entries : List (String × Value)} (hquote : WritesLiterals quote)
    (hcompares : ColumnShape.Compares shapes texts entries)
    (htypes : ∀ shape ∈ shapes, shape.type = .null ∨ shape.type = .text "str")
    (hfree : ∀ s ∈ texts, isMarker markers (.text s) = false) :
    columnGroups quote markers entries =
      (shapes.mapM ColumnShape.head).map fun heads => groups heads texts := by
  induction hcompares with
  | nil => rfl
  | @cons shape s entry shapes texts entries hentry hrest ih =>
    obtain ⟨htype, htypes⟩ := List.forall_mem_cons.1 htypes
    obtain ⟨hfirst, hfree⟩ := List.forall_mem_cons.1 hfree
    rw [columnGroups, columnGroup_eq hquote hentry htype hfirst, ih htypes hfree, List.mapM_cons]
    cases shape.head with
    | error fault => rfl
    | ok first =>
      cases shapes.mapM ColumnShape.head with
      | error fault => rfl
      | ok rest => rfl

theorem columnGroup_refused {quote : Quoter} {fault : Fault} {markers : List Value}
    {shape : ColumnShape} {s : String} {entry : Value}
    (hquote : ∀ v type, quote v type = .error fault)
    (hentry : Condition.ofEntry entry = .ok ⟨.text s, shape.type, shape.combinator⟩)
    (htype : shape.type = .null ∨ shape.type = .text "str")
    (hfree : isMarker markers (.text s) = false) :
    columnGroup quote markers shape.name entry =
      ((Combinator.ofValue shape.combinator).mapError Fault.problem >>= fun _ => .error fault) := by
  obtain ⟨type, -, hrender⟩ :=
    render_text quote shape.combinator htype hfree
  rw [columnGroup_bind hentry, hrender, hquote]
  rfl

theorem columnGroups_refused {quote : Quoter} {fault : Fault} {markers : List Value}
    {shapes : List ColumnShape} {texts₁ texts₂ : List String}
    {entries₁ entries₂ : List (String × Value)} (hquote : ∀ v type, quote v type = .error fault)
    (hcompares₁ : ColumnShape.Compares shapes texts₁ entries₁)
    (hcompares₂ : ColumnShape.Compares shapes texts₂ entries₂)
    (htypes : ∀ shape ∈ shapes, shape.type = .null ∨ shape.type = .text "str")
    (hfree : ∀ s ∈ texts₁ ++ texts₂, isMarker markers (.text s) = false) (hne : entries₁ ≠ []) :
    ∃ fault', columnGroups quote markers entries₁ = .error fault' ∧
      columnGroups quote markers entries₂ = .error fault' := by
  cases hcompares₁ with
  | nil => exact absurd rfl hne
  | @cons shape s₁ entry₁ _ _ _ hentry₁ _ =>
    cases hcompares₂ with
    | @cons _ s₂ entry₂ _ _ _ hentry₂ _ =>
      have htype := htypes shape (by simp)
      rw [columnGroups, columnGroups,
        columnGroup_refused hquote hentry₁ htype (hfree s₁ (by simp)),
        columnGroup_refused hquote hentry₂ htype (hfree s₂ (by simp))]
      cases Combinator.ofValue shape.combinator with
      | error p => exact ⟨.problem p, rfl, rfl⟩
      | ok combinator => exact ⟨fault, rfl, rfl⟩

theorem formatWhere_columns {quote : Quoter} {markers : Value} {items : List Value}
    (hitems : markers.items = .ok items) {entries : List (String × Value)} (hne : entries ≠ []) :
    formatWhere (some (.columns entries)) quote markers =
      (columnGroups quote items entries).map fun groups => " WHERE " ++ joinGroups groups := by
  cases entries with
  | nil => exact absurd rfl hne
  | cons entry entries =>
    rw [formatWhere, hitems]
    · change (columnGroups quote items (entry :: entries) >>= fun groups =>
        .ok (" WHERE " ++ joinGroups groups)) = _
      cases columnGroups quote items (entry :: entries) with
      | error fault => rfl
      | ok groups => rfl
    · exact hne

theorem formatWhere_columns_error {quote : Quoter} {markers : Value} {p : Problem}
    (hitems : markers.items = .error p) {entries : List (String × Value)} (hne : entries ≠ []) :
    formatWhere (some (.columns entries)) quote markers = .error (.problem p) := by
  cases entries with
  | nil => exact absurd rfl hne
  | cons entry entries =>
    rw [formatWhere, hitems]
    · rfl
    · exact hne

theorem splitStrings_clause {shapes : List ColumnShape} {heads : List (Combinator × String)}
    {texts : List String} (hheads : shapes.mapM ColumnShape.head = .ok heads)
    (hnames : ∀ shape ∈ shapes, '\'' ∉ shape.name.toList) (hlength : shapes.length = texts.length) :
    splitStrings (" WHERE " ++ joinGroups (groups heads texts)).toList =
      some (" WHERE ".toList ++ (joinGroups (heads.map (groupWith []))).toList,
        texts.map String.toList) := by
  have hsame := ColumnShape.names_of_heads hheads
  have hlength' : heads.length = texts.length := by
    rw [← hlength, ← List.length_map (f := Prod.snd), hsame, List.length_map]
  have hquotes : ∀ head ∈ heads, '\'' ∉ head.2.toList := by
    intro head hmem
    have hname : head.2 ∈ shapes.map ColumnShape.name := hsame ▸ List.mem_map_of_mem hmem
    obtain ⟨shape, hshape, hname⟩ := List.mem_map.1 hname
    exact hname ▸ hnames shape hshape
  rw [String.toList_append, splitStrings_append (by decide),
    splitStrings_joinGroups hlength' hquotes]
  rfl

theorem confined_of_quoter {quote : Quoter} {markers : Value} {shapes : List ColumnShape}
    {texts₁ texts₂ : List String} {entries₁ entries₂ : List (String × Value)}
    (hquote : WritesLiterals quote ∨ ∃ fault, ∀ v type, quote v type = .error fault)
    (hnames : ∀ shape ∈ shapes, '\'' ∉ shape.name.toList)
    (htypes : ∀ shape ∈ shapes, shape.type = .null ∨ shape.type = .text "str")
    (hcompares₁ : ColumnShape.Compares shapes texts₁ entries₁)
    (hcompares₂ : ColumnShape.Compares shapes texts₂ entries₂)
    (hfree : ∀ items, markers.items = .ok items →
      ∀ s ∈ texts₁ ++ texts₂, isMarker items (.text s) = false) :
    Confined texts₁ texts₂ (formatWhere (some (.columns entries₁)) quote markers)
      (formatWhere (some (.columns entries₂)) quote markers) := by
  by_cases hempty : shapes = []
  · subst hempty
    cases hcompares₁
    cases hcompares₂
    exact ⟨[], splitStrings_nil, splitStrings_nil⟩
  · have hne₁ := hcompares₁.entries_ne_nil hempty
    have hne₂ := hcompares₂.entries_ne_nil hempty
    cases hitems : markers.items with
    | error p =>
      rw [formatWhere_columns_error hitems hne₁, formatWhere_columns_error hitems hne₂]
      exact rfl
    | ok items =>
      have hfree := hfree items hitems
      rw [formatWhere_columns hitems hne₁, formatWhere_columns hitems hne₂]
      rcases hquote with hquote | ⟨fault, hquote⟩
      · rw [columnGroups_eq hquote hcompares₁ htypes fun s hs => hfree s (by simp [hs]),
          columnGroups_eq hquote hcompares₂ htypes fun s hs => hfree s (by simp [hs])]
        cases hheads : shapes.mapM ColumnShape.head with
        | error fault => exact rfl
        | ok heads =>
          exact ⟨_, splitStrings_clause hheads hnames hcompares₁.length_eq,
            splitStrings_clause hheads hnames hcompares₂.length_eq⟩
      · obtain ⟨fault', hgroups₁, hgroups₂⟩ :=
          columnGroups_refused hquote hcompares₁ hcompares₂ htypes hfree hne₁
        rw [hgroups₁, hgroups₂]
        exact rfl

end Clause

namespace Connection

/-- A connection to a database file quotes without its driver, unless it is closed. -/
theorem quoter_of_sqlite {σ : Type} (b : Backend σ) {c : Connection}
    (hengine : c.settings.engine = .sqlite) (w : σ) :
    Clause.WritesLiterals (c.quoter b w) ∨ ∃ fault, ∀ v type, c.quoter b w v type = .error fault := by
  cases hdriver : c.driver with
  | none =>
    refine .inr ⟨failed c.info "Connection is closed" none, fun v type => ?_⟩
    rw [quoter, live, hdriver]
    rfl
  | some h =>
    left
    rintro s type htype
    rw [quoter, live, hdriver, hengine]
    rcases htype with rfl | rfl <;> rfl

theorem markers_of_sqlite {c : Connection} (hengine : c.settings.engine = .sqlite) :
    c.markers.items = .ok [.text "?"] := by
  rw [markers, hengine]
  rfl

end Connection

/-- The texts that columns are compared with cannot reshape a clause: two clauses over columns of the
same shapes differ by nothing but their string literals, and these say exactly the texts. That goes
for clauses on their own and for those of a connection to a database file, open or closed. -/
theorem formatWhere_confines_texts {shapes : List ColumnShape} {texts₁ texts₂ : List String}
    {entries₁ entries₂ : List (String × Value)}
    (hnames : ∀ shape ∈ shapes, '\'' ∉ shape.name.toList)
    (htypes : ∀ shape ∈ shapes, shape.type = .null ∨ shape.type = .text "str")
    (hcompares₁ : ColumnShape.Compares shapes texts₁ entries₁)
    (hcompares₂ : ColumnShape.Compares shapes texts₂ entries₂) :
    (∀ markers : Value, (∀ items, markers.items = .ok items →
        ∀ s ∈ texts₁ ++ texts₂, isMarker items (.text s) = false) →
      Clause.Confined texts₁ texts₂ (formatWhere (some (.columns entries₁)) standardQuoter markers)
        (formatWhere (some (.columns entries₂)) standardQuoter markers)) ∧
    ∀ {σ : Type} (b : Backend σ) (c : Connection) (w : σ), c.settings.engine = .sqlite →
      (∀ s ∈ texts₁ ++ texts₂, s ≠ "?") →
      Clause.Confined texts₁ texts₂ (c.formatWhere b (some (.columns entries₁)) w).outcome
        (c.formatWhere b (some (.columns entries₂)) w).outcome := by
  constructor
  · intro markers hfree
    exact Clause.confined_of_quoter (.inl Clause.standardQuoter_writesLiterals) hnames htypes
      hcompares₁ hcompares₂ hfree
  · intro σ b c w hengine hfree
    refine Clause.confined_of_quoter (c.quoter_of_sqlite b hengine w) hnames htypes
      hcompares₁ hcompares₂ ?_
    intro items hitems s hs
    rw [Connection.markers_of_sqlite hengine] at hitems
    cases hitems
    simpa [isMarker, Value.text?] using Ne.symm (hfree s hs)

theorem formatWhere_confines_texts_injection :
    let entries₁ : List (String × Value) :=
      [("a", .text "x"), ("b", .list [.text "y", .text "str", .text "and"])]
    let entries₂ : List (String × Value) :=
      [("a", .tuple [.text "') OR 1=1 --"]), ("b", .condition (.text "'") (.text "str") (.text "and"))]
    let c : Connection := ⟨⟨.sqlite, "", "shop.db", "", "", some "UTF8", .null, true⟩, some ⟨0⟩⟩
    formatWhere (some (.columns entries₂)) standardQuoter standardMarkers =
        .ok " WHERE (a=''') OR 1=1 --') AND (b='''')" ∧
      Clause.Confined ["x", "y"] ["') OR 1=1 --", "'"]
        (formatWhere (some (.columns entries₁)) standardQuoter standardMarkers)
        (formatWhere (some (.columns entries₂)) standardQuoter standardMarkers) ∧
      Clause.Confined ["x", "y"] ["') OR 1=1 --", "'"]
        (c.formatWhere (Backend.refusing []) (some (.columns entries₁)) 1).outcome
        (c.formatWhere (Backend.refusing []) (some (.columns entries₂)) 1).outcome := by
  intro entries₁ entries₂ c
  let shapes : List ColumnShape := [⟨"a", .null, .null⟩, ⟨"b", .text "str", .text "and"⟩]
  have hnames : ∀ shape ∈ shapes, '\'' ∉ shape.name.toList := by decide
  have hcompares₁ : ColumnShape.Compares shapes ["x", "y"] entries₁ := .cons rfl (.cons rfl .nil)
  have hcompares₂ : ColumnShape.Compares shapes ["') OR 1=1 --", "'"] entries₂ :=
    .cons rfl (.cons rfl .nil)
  obtain ⟨hconfined, hconfinedFile⟩ :=
    formatWhere_confines_texts hnames (by simp [shapes]) hcompares₁ hcompares₂
  refine ⟨rfl, hconfined standardMarkers ?_, hconfinedFile (Backend.refusing []) c 1 rfl (by decide)⟩
  rintro items ⟨⟩
  decide

end SqlBridge
