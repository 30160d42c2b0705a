import SqlBridge.Proofs.Connection.Executions
import SqlBridge.Proofs.Limit.Final
import SqlBridge.Proofs.Template.Resolution

namespace SqlBridge

open Text

/-- A template without placeholders is rendered as it is. -/
theorem render_of_findPlaceholders_eq_nil {t : String} (hplain : findPlaceholders t = [])
    (vars : QueryVars) (info : Option Info) : render t vars info = .ok t := by
  have hmarks : marks t.toList = [] := by
    have hall := marks_forall₂ t
    rw [hplain] at hall
    exact List.forall₂_nil_right_iff.1 hall
  have hliterals : weave (literals t.toList) [] = t.toList := by
    rw [← hmarks]
    exact weave_literals_marks t.toList
  apply render_eq_ok_iff.2
  refine ⟨[], ?_, ?_⟩
  · rw [hplain]
    exact .nil
  · rw [List.map_nil, hliterals, String.ofList_toList]

theorem Connection.statementFor_of_findPlaceholders_eq_nil {sql : String}
    (hplain : findPlaceholders sql = []) (c : Connection) (vars : QueryVars) :
    c.statementFor sql vars = .ok sql := by
  rw [statementFor]
  split_ifs
  · rfl
  · exact render_of_findPlaceholders_eq_nil hplain vars _

namespace Request

variable {σ : Type} {c : Connection} {h : Handle} {w : σ}

/-- What is executed when one row or one value is asked for by a statement that ends in a limit of its
own. Where one blank stands between the keyword and the number, it is the statement as it is, and also
where a limit stands in it further ahead. Otherwise its limit is not seen, and a second one is put
behind it. -/
theorem answer_keeps_final_limit_unless_set_apart (b : Backend σ) (hdriver : c.driver = some h)
    (hopens : (b.openCursor h w).1 = .ok ()) (base : String) (l : FinalLimit)
    (hplain : findPlaceholders (base ++ l.text) = []) (params default : Value) (style : String)
    (vars : QueryVars) :
    let sql := base ++ l.text
    let bound := if params.truthy then some params else none
    let found := l.gap.length = 1 ∨ SetsLimit base
    ∀ request ∈ [fetchRecord sql params style vars, fetchScalar sql params default vars],
      (found → executions (request.answer b c w).events = [⟨h, sql, bound⟩]) ∧
      (¬ found → ∃ rest : String, rest.toList <+: l.tail.toList ∧
        executions (request.answer b c w).events =
          [⟨h, base ++ l.limit ++ rest ++ " LIMIT 1", bound⟩]) := by
  intro sql bound found request hrequest
  have hsent : executions (request.answer b c w).events = [⟨h, limitToOne sql, bound⟩] := by
    have htext := Connection.statementFor_of_findPlaceholders_eq_nil hplain c vars
    rw [List.mem_pair] at hrequest
    rcases hrequest with rfl | rfl
    · exact (answer_executes_of_resolved rfl htext hdriver hopens).2
    · exact (answer_executes_of_resolved rfl htext hdriver hopens).2
  rw [hsent]
  constructor
  · intro hfound
    have hset : SetsLimit sql := (l.setsLimit_append_iff base).2 hfound
    rw [limitToOne_eq_self hset]
  · intro hnone
    obtain ⟨hgap, hbase⟩ := not_or.1 hnone
    obtain ⟨rest, hrest, hlimited⟩ := l.limitToOne_adds_second hgap hbase
    exact ⟨rest, hrest, by rw [hlimited]⟩

theorem answer_keeps_final_limit_unless_set_apart_by_two_blanks :
    let b := Backend.refusing []
    let c : Connection := ⟨{ engine := .sqlite, dbname := "app" }, some ⟨0⟩⟩
    let sent (request : Request) := executions (request.answer b c 0).events
    let near := "SELECT id FROM t\n  Limit\t10 ;\n"
    let apart := "SELECT id FROM t LIMIT  5;"
    sent (fetchScalar near (.list [.int 1]) .null []) = [⟨⟨0⟩, near, some (.list [.int 1])⟩] ∧
      ∃ rest : String, rest.toList <+: ";".toList ∧ sent (fetchRecord apart .null "num" []) =
        [⟨⟨0⟩, "SELECT id FROM t LIMIT  5" ++ rest ++ " LIMIT 1", none⟩] := by
  intro b c sent near apart
  let close : FinalLimit := ⟨"\n  ", "Limit", "\t", "10", " ;\n", by decide,
    List.all_eq_true.1 (by decide), by decide, by decide, List.all_eq_true.1 (by decide), by decide,
    List.all_eq_true.1 (by decide), by simp [isBlank]⟩
  let wide : FinalLimit := ⟨" ", "LIMIT", "  ", "5", ";", by decide,
    List.all_eq_true.1 (by decide), by decide, by decide, List.all_eq_true.1 (by decide), by decide,
    List.all_eq_true.1 (by decide), by simp⟩
  have hnear : findPlaceholders ("SELECT id FROM t" ++ close.text) = [] := by cbv
  have hapart : findPlaceholders ("SELECT id FROM t" ++ wide.text) = [] := by cbv
  have hbase : ¬ SetsLimit "SELECT id FROM t" := by
    rw [setsLimit_iff]
    decide
  constructor
  · have hkept := answer_keeps_final_limit_unless_set_apart (c := c) (h := ⟨0⟩) (w := 0) b rfl rfl
      "SELECT id FROM t" close hnear (.list [.int 1]) .null "num" []
    exact (hkept _ (List.mem_cons_of_mem _ (List.mem_singleton_self _))).1 (.inl (by decide))
  · have hadded := answer_keeps_final_limit_unless_set_apart (c := c) (h := ⟨0⟩) (w := 0) b rfl rfl
      "SELECT id FROM t" wide hapart .null .null "num" []
    obtain ⟨rest, hrest, hsent⟩ := (hadded _ List.mem_cons_self).2 (not_or.2 ⟨by decide, hbase⟩)
    have hlimit : "SELECT id FROM t" ++ wide.limit = "SELECT id FROM t LIMIT  5" := by decide
    have htext : "SELECT id FROM t" ++ wide.text = apart := by decide
    rw [hlimit, htext] at hsent
    exact ⟨rest, hrest, hsent⟩

/-- Two blanks in front of its number hide the limit of a statement, which is then sent with two. -/
theorem answer_adds_second_limit :
    let b := Backend.refusing []
    let c : Connection := ⟨{ engine := .sqlite, dbname := "app" }, some ⟨0⟩⟩
    let sql := "SELECT id FROM t LIMIT  5"
    let sent := executions ((fetchRecord sql .null "assoc" []).answer b c 0).events
    (∃ l : FinalLimit, sql = "SELECT id FROM t" ++ l.text) ∧ findPlaceholders sql = [] ∧
      sent = [⟨⟨0⟩, "SELECT id FROM t LIMIT  5 LIMIT 1", none⟩] ∧ sent ≠ [⟨⟨0⟩, sql, none⟩] := by
  intro b c sql sent
  have hplain : findPlaceholders sql = [] := by cbv
  have hsent : sent = [⟨⟨0⟩, limitToOne sql, none⟩] := by
    have htext := Connection.statementFor_of_findPlaceholders_eq_nil hplain c []
    have hexecutes : ((fetchRecord sql .null "assoc" []).answer b c).Executes b 0
        [Connection.executionOf ⟨0⟩ (limitToOne sql) .null] :=
      answer_executes_of_resolved rfl htext rfl rfl
    exact hexecutes.2
  have hlimited : limitToOne sql = "SELECT id FROM t LIMIT  5 LIMIT 1" := by decide +kernel
  rw [hlimited] at hsent
  let l : FinalLimit := ⟨" ", "LIMIT", "  ", "5", "", by decide,
    List.all_eq_true.1 (by decide), by decide, by decide, List.all_eq_true.1 (by decide), by decide,
    List.all_eq_true.1 (by decide), by simp⟩
  refine ⟨⟨l, by decide⟩, hplain, hsent, ?_⟩
  rw [hsent]
  intro hsame
  have hsql := congrArg (List.map Execution.sql) hsame
  exact absurd hsql (by decide)

end Request

end SqlBridge
