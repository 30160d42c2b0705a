import SqlBridge.Proofs.Credentials.Redaction
import SqlBridge.Session

namespace SqlBridge

open SqlBridge.Action

namespace Connection

variable {σ : Type} {b : Backend σ} (c : Connection)

@[simp] theorem redacted_engine : c.redacted.settings.engine = c.settings.engine := rfl

@[simp] theorem redacted_dbname : c.redacted.settings.dbname = c.settings.dbname := rfl

@[simp] theorem redacted_charset : c.redacted.settings.charset = c.settings.charset := rfl

@[simp] theorem redacted_driver : c.redacted.driver = c.driver := rfl

@[simp] theorem redacted_info : c.redacted.info = c.info :=
  Settings.redacted_info c.settings

@[simp] theorem redacted_dsn : c.redacted.dsn = c.dsn :=
  Settings.redacted_dsn c.settings

@[simp] theorem redacted_summary : c.redacted.summary = c.summary := by
  rw [summary, summary, redacted_dsn]

@[simp] theorem redacted_live : c.redacted.live = c.live := by
  rw [live, live, redacted_info, redacted_driver]

@[simp] theorem statementFor_redacted (sql : String) (vars : QueryVars) :
    c.redacted.statementFor sql vars = c.statementFor sql vars := by
  rw [statementFor, statementFor, redacted_info]
  rfl

@[simp] theorem prepare_redacted (sql : String) (vars : QueryVars) :
    (c.prepare sql vars : Action σ Fault String).redacted = c.redacted.prepare sql vars := by
  simp [prepare]

@[simp] theorem fetchResult_redacted (sql : String) (params : Value) :
    (c.fetchResult b sql params).redacted = c.redacted.fetchResult b sql params := by
  simp [fetchResult, orQueryError, send]

@[simp] theorem fetchRows_redacted (sql : String) (params : Value) (style : String) :
    (c.fetchRows b sql params style).redacted = c.redacted.fetchRows b sql params style := by
  simp [fetchRows]

@[simp] theorem fetchAll_redacted (sql : String) (params : Value) (style : String)
    (vars : QueryVars) :
    (c.fetchAll b sql params style vars).redacted = c.redacted.fetchAll b sql params style vars := by
  simp [fetchAll]

@[simp] theorem fetchRecord_redacted (sql : String) (params : Value) (style : String)
    (vars : QueryVars) :
    (c.fetchRecord b sql params style vars).redacted =
      c.redacted.fetchRecord b sql params style vars := by
  simp [fetchRecord]

@[simp] theorem fetchScalar_redacted (sql : String) (params default : Value) (vars : QueryVars) :
    (c.fetchScalar b sql params default vars).redacted =
      c.redacted.fetchScalar b sql params default vars := by
  simp [fetchScalar]

@[simp] theorem execute_redacted (sql : String) (params : Value) (vars : QueryVars) :
    (c.execute b sql params vars).redacted = c.redacted.execute b sql params vars := by
  simp [execute, orQueryError, send]

@[simp] theorem quoter_redacted (w : σ) : c.redacted.quoter b w = c.quoter b w := by
  funext v type
  rw [quoter, quoter, redacted_live]
  rfl

@[simp] theorem quote_redacted (v type : Value) :
    (c.quote b v type).redacted = c.redacted.quote b v type := by
  simp [quote]

@[simp] theorem formatWhere_redacted (spec : Option WhereSpec) :
    (c.formatWhere b spec).redacted = c.redacted.formatWhere b spec := by
  simp only [formatWhere, quoter_redacted, redacted_observe]
  rfl

@[simp] theorem count_redacted (table : String) (spec : Option WhereSpec) (params : Value) :
    (c.count b table spec params).redacted = c.redacted.count b table spec params := by
  simp [count]

@[simp] theorem databaseExists_redacted (name : String) :
    (c.databaseExists b name).redacted = c.redacted.databaseExists b name := by
  rw [databaseExists, databaseExists, redacted_engine]
  cases c.settings.engine.databaseExists name with
  | none => rfl
  | some q => simp

@[simp] theorem tableExists_redacted (table : String) (database : Option String) :
    (c.tableExists b table database).redacted = c.redacted.tableExists b table database := by
  simp [tableExists]

@[simp] theorem close_redacted :
    (redacted <$> c.close b).redacted = c.redacted.close b := by
  rw [close, close, redacted_driver]
  cases c.driver with
  | none => rfl
  | some h =>
    rw [map_bind, redacted_bind, redacted_lift, redacted_closing]
    rw [redacted_dsn, redacted_engine]
    rfl

@[simp] theorem sendCharset_redacted (e : Engine) (h : Handle) (charset : String) :
    (sendCharset b e h charset).redacted = sendCharset b e h charset := by
  rw [sendCharset, redacted_bind]
  refine bind_congr fun command => ?_
  cases command with
  | none => rfl
  | some statement => simp

@[simp] theorem setCharset_redacted (charset : Option String) :
    (Prod.map id redacted <$> c.setCharset b charset).redacted = c.redacted.setCharset b charset := by
  unfold setCharset
  rw [redacted_engine, redacted_charset, redacted_live]
  split_ifs with hengine
  · rfl
  · cases c.settings.charset with
    | none => rfl
    | some current =>
      cases charset with
      | none => rfl
      | some wanted =>
        dsimp only
        split_ifs with hsame
        · rfl
        · simp only [map_bind, redacted_bind, redacted_ofExcept, redacted_lift, redacted_cursor,
            redacted_withOpenCursor, redacted_rescue, redacted_log, sendCharset_redacted,
            redacted_pure]
          refine bind_congr fun h => bind_congr fun _ => bind_congr fun changed => ?_
          cases changed <;> rfl

end Connection

/-- An answer without the credentials in the settings of a connection. -/
def Answer.redacted : Answer → Answer
  | .state c => .state c.redacted
  | answer => answer

/-- What a request comes to depends on the credentials as little as the answer tells of them. -/
theorem Request.answer_redacted {σ : Type} {b : Backend σ} (c : Connection) (request : Request) :
    (Prod.map Answer.redacted Connection.redacted <$> request.answer b c).redacted =
      request.answer b c.redacted := by
  cases request with
  | state => rfl
  | enter => rfl
  | setCharset charset =>
    rw [answer, answer, ← Connection.setCharset_redacted]
    simp [Answer.redacted]
  | exit =>
    rw [answer, answer, ← Connection.close_redacted]
    simp [Answer.redacted]
  | close =>
    rw [answer, answer, ← Connection.close_redacted]
    simp [Answer.redacted]
  | _ => simp [answer, Answer.redacted]

end SqlBridge
