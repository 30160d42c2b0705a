import SqlBridge.Proofs.Connection.Executions
import SqlBridge.Proofs.Driver.Answers

namespace SqlBridge

open SqlBridge.Action

namespace Row

/-- The items of a row, without the names of their columns. -/
def items : Row → List Value
  | assoc fields => fields.map Prod.snd
  | num items => items

/-- A row by name: every name has one field, in the order in which the names come first, and it holds
the item of the last column of that name. -/
structure Names (columns : List String) (items : List Value) (fields : List (String × Value)) :
    Prop where
  keys_eq : fields.map Prod.fst = columns.eraseDups
  lookup_eq : ∀ (j : Nat) column, columns[j]? = some column →
    (∀ k : Nat, j < k → columns[k]? ≠ some column) → fields.lookup column = items[j]?

/-- A row as a style has it. -/
inductive Shows (columns : List String) (items : List Value) : FetchStyle → Row → Prop where
  | assoc {fields : List (String × Value)} (hnames : Names columns items fields) :
      Shows columns items .assoc (.assoc fields)
  | num : Shows columns items .num (.num items)

variable {fields : List (String × Value)} {columns : List String} {items : List Value}

theorem keys_assign_of_mem {column : String} (hmem : column ∈ fields.map Prod.fst) (v : Value) :
    (assign fields column v).map Prod.fst = fields.map Prod.fst := by
  induction fields with
  | nil => cases hmem
  | cons field fields ih =>
    obtain ⟨name, old⟩ := field
    rw [assign]
    split_ifs with hname
    · rfl
    · rw [List.map_cons, List.map_cons, ih ((List.mem_cons.1 hmem).resolve_left (Ne.symm hname))]

theorem assign_of_not_mem {column : String} (hnew : column ∉ fields.map Prod.fst) (v : Value) :
    assign fields column v = fields ++ [(column, v)] := by
  induction fields with
  | nil => rfl
  | cons field fields ih =>
    obtain ⟨name, old⟩ := field
    rw [List.map_cons, List.mem_cons, not_or] at hnew
    rw [assign, if_neg (Ne.symm hnew.1), ih hnew.2, List.cons_append]

theorem lookup_assign (fields : List (String × Value)) (column name : String) (v : Value) :
    (assign fields column v).lookup name = if name = column then some v else fields.lookup name := by
  induction fields with
  | nil =>
    by_cases hname : name = column
    · simp [assign, hname]
    · simp [assign, List.lookup_cons, hname, beq_false_of_ne hname]
  | cons field fields ih =>
    obtain ⟨key, old⟩ := field
    rw [assign]
    split_ifs with hkey hname hname
    · simp [hkey, hname]
    · rw [← hkey] at hname
      simp [List.lookup_cons, beq_false_of_ne hname]
    · subst hname
      simp [List.lookup_cons, beq_false_of_ne (Ne.symm hkey), ih]
    · rw [List.lookup_cons, List.lookup_cons, ih, if_neg hname]

/-- Columns that are there already add no field. -/
theorem keys_fieldsFrom {fields' : List (String × Value)}
    (hfields : fieldsFrom fields columns items = .ok fields') :
    fields'.map Prod.fst =
      fields.map Prod.fst ++ (columns.removeAll (fields.map Prod.fst)).eraseDups := by
  induction columns generalizing fields items with
  | nil =>
    cases hfields
    simp [List.removeAll]
  | cons column columns ih =>
    cases items with
    | nil => cases hfields
    | cons v items =>
      rw [ih hfields]
      by_cases hmem : column ∈ fields.map Prod.fst
      · rw [keys_assign_of_mem hmem]
        simp [List.removeAll, hmem]
      · have hrest : columns.removeAll (fields.map Prod.fst ++ [column]) =
            (columns.removeAll (fields.map Prod.fst)).filter fun name => !name == column := by
          rw [List.removeAll, List.removeAll, List.filter_filter]
          refine List.filter_congr fun name _ => ?_
          rw [Bool.eq_iff_iff]
          simp [and_comm]
        have hfirst : (column :: columns).removeAll (fields.map Prod.fst) =
            column :: columns.removeAll (fields.map Prod.fst) := by
          simp [List.removeAll, hmem]
        rw [assign_of_not_mem hmem, List.map_append, List.map_singleton, hrest, hfirst,
          List.eraseDups_cons, List.append_assoc, List.singleton_append]

theorem lookup_fieldsFrom_of_not_mem {fields' : List (String × Value)} {name : String}
    (hfields : fieldsFrom fields columns items = .ok fields') (hname : name ∉ columns) :
    fields'.lookup name = fields.lookup name := by
  induction columns generalizing fields items with
  | nil =>
    cases hfields
    rfl
  | cons column columns ih =>
    cases items with
    | nil => cases hfields
    | cons v items =>
      rw [List.mem_cons, not_or] at hname
      rw [ih hfields hname.2, lookup_assign, if_neg hname.1]

/-- An item is overwritten by that of a later column of the same name alone. -/
theorem lookup_fieldsFrom {fields' : List (String × Value)} {j : Nat} {name : String}
    (hfields : fieldsFrom fields columns items = .ok fields') (hname : columns[j]? = some name)
    (hlast : ∀ k, j < k → columns[k]? ≠ some name) : fields'.lookup name = items[j]? := by
  induction columns generalizing fields items j with
  | nil => cases hname
  | cons column columns ih =>
    cases items with
    | nil => cases hfields
    | cons v items =>
      have hrest : fieldsFrom (assign fields column v) columns items = .ok fields' := hfields
      cases j with
      | zero =>
        obtain rfl : column = name := Option.some.inj hname
        have hgone : column ∉ columns := by
          intro hmem
          obtain ⟨k, hk⟩ := List.mem_iff_getElem?.1 hmem
          exact hlast (k + 1) k.succ_pos hk
        rw [lookup_fieldsFrom_of_not_mem hrest hgone, lookup_assign, if_pos rfl]
        rfl
      | succ j =>
        rw [List.getElem?_cons_succ] at hname ⊢
        exact ih hrest hname fun k hk => hlast (k + 1) (Nat.succ_lt_succ hk)

theorem exists_fieldsFrom (fields : List (String × Value)) (hwide : columns.length ≤ items.length) :
    ∃ fields', fieldsFrom fields columns items = .ok fields' := by
  induction columns generalizing fields items with
  | nil => exact ⟨fields, rfl⟩
  | cons column columns ih =>
    cases items with
    | nil => cases hwide
    | cons v items => exact ih _ (Nat.le_of_succ_le_succ hwide)

/-- Where no two columns have one name, every column has a field of its own. -/
theorem fieldsFrom_of_nodup (hnodup : (fields.map Prod.fst ++ columns).Nodup)
    (hwide : columns.length ≤ items.length) :
    fieldsFrom fields columns items = .ok (fields ++ columns.zip items) := by
  induction columns generalizing fields items with
  | nil => simp [fieldsFrom]
  | cons column columns ih =>
    cases items with
    | nil => cases hwide
    | cons v items =>
      have hnew : column ∉ fields.map Prod.fst := by
        intro hmem
        exact (List.nodup_append.1 hnodup).2.2 column hmem column (List.mem_cons_self ..) rfl
      have hassigned : ((assign fields column v).map Prod.fst ++ columns).Nodup := by
        rw [assign_of_not_mem hnew]
        simpa using hnodup
      rw [fieldsFrom, ih hassigned (Nat.le_of_succ_le_succ hwide), assign_of_not_mem hnew]
      simp

theorem ofItems_names (hwide : columns.length ≤ items.length) :
    ∃ fields, ofItems columns items = .ok (.assoc fields) ∧ Names columns items fields := by
  obtain ⟨fields, hfields⟩ := exists_fieldsFrom [] hwide
  refine ⟨fields, by rw [ofItems, hfields]; rfl, ?_, ?_⟩
  · rw [keys_fieldsFrom hfields]
    simp [List.removeAll]
  · intro j column hcolumn hlast
    exact lookup_fieldsFrom hfields hcolumn hlast

theorem ofItems_of_nodup (hnodup : columns.Nodup) (hwide : columns.length ≤ items.length) :
    ofItems columns items = .ok (.assoc (columns.zip items)) := by
  have hfields : fieldsFrom [] columns items = .ok (columns.zip items) :=
    fieldsFrom_of_nodup hnodup hwide
  rw [ofItems, hfields]
  rfl

end Row

namespace ResultSet

variable {result : ResultSet}

/-- The first item of the first row. -/
def first? (result : ResultSet) : Option Value :=
  result.rows.head?.bind List.head?

theorem scalar_eq (result : ResultSet) (default : Value) :
    result.scalar default = result.first?.getD default := by
  rw [scalar, first?]
  rcases result.rows with _ | ⟨_ | ⟨v, items⟩, rows⟩ <;> rfl

theorem mapM_ofItems (columns : List String) {rows : List (List Value)}
    (hwide : ∀ items ∈ rows, columns.length ≤ items.length) :
    ∃ shown, rows.mapM (Row.ofItems columns) = .ok shown ∧
      List.Forall₂ (fun items row => Row.Shows columns items .assoc row) rows shown := by
  induction rows with
  | nil => exact ⟨[], rfl, .nil⟩
  | cons items rows ih =>
    obtain ⟨hfirst, hrest⟩ := List.forall_mem_cons.1 hwide
    obtain ⟨fields, hfields, hnames⟩ := Row.ofItems_names hfirst
    obtain ⟨shown, hshown, hrows⟩ := ih hrest
    refine ⟨.assoc fields :: shown, ?_, .cons (.assoc hnames) hrows⟩
    rw [List.mapM_cons, hfields, hshown]
    rfl

theorem mapM_ofItems_of_nodup {columns : List String} (hnodup : columns.Nodup)
    {rows : List (List Value)} (hwide : ∀ items ∈ rows, columns.length ≤ items.length) :
    rows.mapM (Row.ofItems columns) = .ok (rows.map fun items => .assoc (columns.zip items)) := by
  induction rows with
  | nil => rfl
  | cons items rows ih =>
    obtain ⟨hfirst, hrest⟩ := List.forall_mem_cons.1 hwide
    rw [List.mapM_cons, Row.ofItems_of_nodup hnodup hfirst, ih hrest]
    rfl

/-- Rows that have an item for every column are shaped in either style, row by row. -/
theorem exists_shape (hwide : ∀ items ∈ result.rows, result.columns.length ≤ items.length)
    (style : FetchStyle) : ∃ shown, result.shape style = .ok shown ∧
      List.Forall₂ (fun items row => Row.Shows result.columns items style row) result.rows shown := by
  cases style with
  | assoc => exact mapM_ofItems result.columns hwide
  | num =>
    refine ⟨_, rfl, ?_⟩
    rw [List.forall₂_map_right_iff, List.forall₂_same]
    exact fun _ _ => .num

end ResultSet

namespace Connection

variable {σ : Type} {b : Backend σ} {c : Connection} {h : Handle} {w w₁ : σ} {result : ResultSet}

theorem prepare_yields {sql text : String} {vars : QueryVars}
    (htext : c.statementFor sql vars = .ok text) :
    (c.prepare sql vars : Action σ Fault String).Yields w text w := by
  rw [prepare]
  refine (yields_ofExcept htext).bind ?_
  by_cases hsame : text ≠ sql
  · simp only [hsame, ne_eq, not_false_eq_true, if_true]
    exact yields_log.bind yields_pure
  · simp only [hsame, if_false]
    exact yields_pure

/-- What the driver answers is the result of the statement. -/
theorem fetchResult_yields (hdriver : c.driver = some h) {sql : String} {params : Value}
    (hanswers : b.Answers h w sql (if params.truthy then some params else none) result) :
    ∃ w₁, (c.fetchResult b sql params).Yields w result w₁ := by
  rcases hanswers with @⟨w₁, w₂, w₃, w₄, answered, rows, hopened, hexecuted, hfetched, hclosed⟩
  have hsent : (send b h sql params).Yields w₁ answered w₂ := yields_log.bind (yields_call hexecuted)
  refine ⟨w₄, ?_⟩
  refine (yields_ofExcept (live_eq hdriver)).bind ((yields_call hopened).lift.bind ?_)
  refine Yields.withOpenCursor (Yields.rescue ?_ _) Fault.problem hclosed
  exact hsent.bind ((yields_call hfetched).bind yields_pure)

theorem fetchRows_yields (hdriver : c.driver = some h) {sql : String} {params : Value}
    (hanswers : b.Answers h w sql (if params.truthy then some params else none) result)
    {style : FetchStyle} {shown : List Row} (hshown : result.shape style = .ok shown) :
    ∃ w₁, (c.fetchRows b sql params style.name).Yields w shown w₁ := by
  obtain ⟨w₁, hresult⟩ := fetchResult_yields hdriver hanswers
  refine ⟨w₁, hresult.bind (yields_ofExcept ?_)⟩
  have hstyle : FetchStyle.parse style.name = .ok style := by
    rw [FetchStyle.parse, FetchStyle.ofName?_name]
  rw [hstyle]
  exact congrArg (Except.mapError Fault.problem) hshown

theorem fetchAll_outcome (hdriver : c.driver = some h) {sql text : String} {vars : QueryVars}
    (htext : c.statementFor sql vars = .ok text) {params : Value}
    (hanswers : b.Answers h w text (if params.truthy then some params else none) result)
    {style : FetchStyle} {shown : List Row} (hshown : result.shape style = .ok shown) :
    (c.fetchAll b sql params style.name vars w).outcome =
      .ok (if shown.isEmpty then none else some shown) := by
  obtain ⟨w₁, hrows⟩ := fetchRows_yields hdriver hanswers hshown
  exact ((prepare_yields htext).bind (hrows.map _)).outcome_eq

theorem fetchRecord_outcome (hdriver : c.driver = some h) {sql text : String} {vars : QueryVars}
    (htext : c.statementFor sql vars = .ok text) {params : Value}
    (hanswers : b.Answers h w (limitToOne text) (if params.truthy then some params else none) result)
    {style : FetchStyle} {shown : List Row} (hshown : result.shape style = .ok shown) :
    (c.fetchRecord b sql params style.name vars w).outcome = .ok shown.head? := by
  obtain ⟨w₁, hrows⟩ := fetchRows_yields hdriver hanswers hshown
  exact ((prepare_yields htext).bind (hrows.map _)).outcome_eq

theorem fetchScalar_yields (hdriver : c.driver = some h) {sql text : String} {vars : QueryVars}
    (htext : c.statementFor sql vars = .ok text) {params : Value}
    (hanswers : b.Answers h w (limitToOne text) (if params.truthy then some params else none) result)
    (default : Value) :
    ∃ w₁, (c.fetchScalar b sql params default vars).Yields w (result.first?.getD default) w₁ := by
  obtain ⟨w₁, hresult⟩ := fetchResult_yields hdriver hanswers
  rw [← ResultSet.scalar_eq]
  exact ⟨w₁, (prepare_yields htext).bind (hresult.map _)⟩

/-- The helpers that fetch are views of one result. All rows are there in order, and none are told
apart from no answer: by number with their items, by name with one field for every name. Where no two
columns have one name and no row has more items than there are columns, either style can be read off
the other. A record is the first of all rows, and a scalar the first item of the first row by number,
or the default where there is no such item. -/
theorem fetch_helpers_agree (b : Backend σ) (hdriver : c.driver = some h) {sql text : String}
    {vars : QueryVars} (htext : c.statementFor sql vars = .ok text) (params : Value)
    (hwide : ∀ items ∈ result.rows, result.columns.length ≤ items.length) :
    let sent := if params.truthy then some params else none
    ∃ shown : FetchStyle → List Row,
      let all (style : FetchStyle) := if result.rows = [] then none else some (shown style)
      let record (style : FetchStyle) := (all style).bind List.head?
      (∀ style, List.Forall₂ (fun items row => Row.Shows result.columns items style row)
        result.rows (shown style)) ∧
      (result.columns.Nodup → (∀ items ∈ result.rows, items.length = result.columns.length) →
        shown .assoc = (shown .num).map (fun row => .assoc (result.columns.zip row.items)) ∧
        shown .num = (shown .assoc).map fun row => .num row.items) ∧
      (∀ style, record style = none ↔ all style = none) ∧
      (∀ w, b.Answers h w text sent result → ∀ style,
        (c.fetchAll b sql params style.name vars w).outcome = .ok (all style)) ∧
      ∀ w, b.Answers h w (limitToOne text) sent result →
        (∀ style, (c.fetchRecord b sql params style.name vars w).outcome = .ok (record style)) ∧
        ∀ default, (c.fetchScalar b sql params default vars w).outcome =
          .ok (((record .num).bind fun row => row.items.head?).getD default) := by
  intro sent
  choose shown hshape hshown using ResultSet.exists_shape hwide
  have hlength (style : FetchStyle) : (shown style).length = result.rows.length :=
    (hshown style).length_eq.symm
  have hempty (style : FetchStyle) : shown style = [] ↔ result.rows = [] := by
    rw [← List.length_eq_zero_iff, hlength, List.length_eq_zero_iff]
  have hnum : shown .num = result.rows.map .num := (Except.ok.inj (hshape .num)).symm
  have hhead (style : FetchStyle) :
      (if result.rows = [] then none else some (shown style)).bind List.head? =
        (shown style).head? := by
    split_ifs with hrows
    · rw [(hempty style).2 hrows]
      rfl
    · rfl
  refine ⟨shown, ?_⟩
  simp only [hhead]
  refine ⟨hshown, ?_, ?_, ?_, ?_⟩
  · intro hnodup hexact
    have hassoc : shown .assoc = result.rows.map fun items => .assoc (result.columns.zip items) :=
      (Except.ok.inj ((ResultSet.mapM_ofItems_of_nodup hnodup hwide).symm.trans
        (hshape .assoc))).symm
    rw [hassoc, hnum, List.map_map, List.map_map]
    refine ⟨rfl, List.map_congr_left fun items hitems => ?_⟩
    exact congrArg Row.num (List.map_snd_zip (hexact items hitems).le).symm
  · intro style
    rw [List.head?_eq_none_iff, hempty]
    split_ifs with hrows <;> simp [hrows]
  · intro w hanswers style
    rw [fetchAll_outcome hdriver htext hanswers (hshape style)]
    simp only [List.isEmpty_iff, hempty]
  · intro w hanswers
    refine ⟨fun style => fetchRecord_outcome hdriver htext hanswers (hshape style), fun default => ?_⟩
    · obtain ⟨w₁, hscalar⟩ := fetchScalar_yields hdriver htext hanswers default
      rw [hscalar.outcome_eq, hnum, List.head?_map, Option.bind_map]
      rfl

theorem fetch_helpers_agree_on_repeated_column :
    let rows : List (List Value) :=
      [[.null, .text "ada", .int 2], [.int 1, .text "bob", .int 3, .bool true]]
    let b := { Backend.refusing [] with
      execute := fun _ _ _ n => (.ok ⟨some ["id", "name", "id"], .int 2⟩, n)
      fetchAll := fun _ n => (.ok rows, n) }
    let c : Connection := ⟨{ engine := .sqlite, dbname := "shop", alwaysParse := false }, some ⟨0⟩⟩
    let result : ResultSet := ⟨["id", "name", "id"], rows⟩
    c.driver = some ⟨0⟩ ∧ c.statementFor "SELECT * FROM t" [] = .ok "SELECT * FROM t" ∧
      (∀ items ∈ result.rows, result.columns.length ≤ items.length) ∧
      (∃ first second, (c.fetchAll b "SELECT * FROM t" .null "assoc" [] 0).outcome =
          .ok (some [.assoc first, .assoc second]) ∧
        first.map Prod.fst = ["id", "name"] ∧ first.lookup "id" = some (.int 2) ∧
        (c.fetchRecord b "SELECT * FROM t" .null "assoc" [] 0).outcome = .ok (some (.assoc first))) ∧
      (c.fetchScalar b "SELECT * FROM t" .null (.int 7) [] 0).outcome = .ok .null := by
  intro rows b c result
  have hdriver : c.driver = some ⟨0⟩ := rfl
  have htext : c.statementFor "SELECT * FROM t" [] = .ok "SELECT * FROM t" := rfl
  have hwide : ∀ items ∈ result.rows, result.columns.length ≤ items.length := by
    simp [result, rows]
  have hanswers (sql : String) : b.Answers ⟨0⟩ 0 sql none result :=
    @Backend.Answers.intro _ b ⟨0⟩ 0 sql none 0 0 0 0 ⟨some result.columns, .int 2⟩ rows rfl rfl rfl rfl
  refine ⟨hdriver, htext, hwide, ?_⟩
  obtain ⟨shown, hshows, -, -, hall, hone⟩ := fetch_helpers_agree b hdriver htext .null hwide
  obtain ⟨hrecord, hscalar⟩ := hone 0 (hanswers _)
  refine ⟨?_, ?_⟩
  · have hassoc := hshows .assoc
    have houtcome : (c.fetchAll b "SELECT * FROM t" .null "assoc" [] 0).outcome =
        .ok (some (shown .assoc)) := hall 0 (hanswers _) .assoc
    have hfirst : (c.fetchRecord b "SELECT * FROM t" .null "assoc" [] 0).outcome =
        .ok (shown .assoc).head? := hrecord .assoc
    generalize shown .assoc = named at hassoc houtcome hfirst
    rcases hassoc with _ | ⟨⟨hnames⟩, _ | ⟨⟨_⟩, ⟨⟩⟩⟩
    have hlast : ∀ k, 2 < k → result.columns[k]? ≠ some "id" := by
      rintro (_ | _ | _ | k) hk <;> simp [result] at hk ⊢
    exact ⟨_, _, houtcome, hnames.keys_eq, hnames.lookup_eq 2 "id" rfl hlast, hfirst⟩
  · have hnum := hshows .num
    have hnull : (c.fetchScalar b "SELECT * FROM t" .null (.int 7) [] 0).outcome =
        .ok (((shown .num).head?.bind fun row => row.items.head?).getD (.int 7)) := hscalar (.int 7)
    generalize shown .num = numbered at hnum hnull
    rcases hnum with _ | ⟨⟨⟩, _⟩
    exact hnull

end Connection

end SqlBridge
