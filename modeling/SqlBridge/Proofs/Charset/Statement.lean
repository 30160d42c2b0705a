import Mathlib
import SqlBridge.Dialect

namespace SqlBridge.Engine

theorem exists_charsetStatement {e : Engine} (hserver : e ≠ .sqlite) (name : String) :
    ∃ statement, e.charsetStatement name = some statement := by
  cases e with
  | sqlite => exact absurd rfl hserver
  | pgsql => exact ⟨_, rfl⟩
  | mysql => exact ⟨_, rfl⟩

theorem setCharset_of_server {e : Engine} (hserver : e ≠ .sqlite) (charset : Value) :
    e.setCharset charset =
      if charset.truthy then
        match charset.text? with
        | none => .error .wrongKind
        | some name =>
          if isCharsetName name then .ok (e.charsetStatement charset.shown)
          else .error (.invalidCharset charset)
      else
        .error (.invalidCharset charset) := by
  cases e with
  | sqlite => exact absurd rfl hserver
  | pgsql => rfl
  | mysql => rfl

theorem setCharset_of_isCharsetName {e : Engine} {name : String} (hserver : e ≠ .sqlite)
    (hname : isCharsetName name = true) :
    e.setCharset (.text name) = .ok (e.charsetStatement name) := by
  have htruthy : (Value.text name).truthy = true := by
    simp only [isCharsetName, Bool.and_eq_true] at hname
    exact hname.1
  rw [setCharset_of_server hserver, if_pos htruthy]
  simp [Value.text?, hname, Value.shown]

theorem setCharset_of_not_isCharsetName {e : Engine} {name : String} (hserver : e ≠ .sqlite)
    (hname : isCharsetName name = false) :
    e.setCharset (.text name) = .error (.invalidCharset (.text name)) := by
  rw [setCharset_of_server hserver]
  simp [Value.text?, hname]

/-- The statement that is sent for a charset is the one for its name, which was checked. -/
theorem charsetStatement_of_setCharset {e : Engine} {name statement : String}
    (hset : e.setCharset (.text name) = .ok (some statement)) :
    isCharsetName name = true ∧ e.charsetStatement name = some statement := by
  have hserver : e ≠ .sqlite := by
    rintro rfl
    cases hset
  cases hname : isCharsetName name with
  | false =>
    rw [setCharset_of_not_isCharsetName hserver hname] at hset
    cases hset
  | true =>
    rw [setCharset_of_isCharsetName hserver hname] at hset
    exact ⟨rfl, Except.ok.inj hset⟩

/-- A name is refused for what it is. -/
theorem invalidCharset_of_setCharset {e : Engine} {name : String} {p : Problem}
    (hset : e.setCharset (.text name) = .error p) :
    p = .invalidCharset (.text name) ∧ isCharsetName name = false := by
  have hserver : e ≠ .sqlite := by
    rintro rfl
    cases hset
  cases hname : isCharsetName name with
  | false =>
    rw [setCharset_of_not_isCharsetName hserver hname] at hset
    cases hset
    exact ⟨rfl, rfl⟩
  | true =>
    rw [setCharset_of_isCharsetName hserver hname] at hset
    cases hset

theorem eq_sqlite_of_setCharset {e : Engine} {charset : Value}
    (hset : e.setCharset charset = .ok none) : e = .sqlite := by
  by_contra hserver
  obtain ⟨statement, hstatement⟩ := exists_charsetStatement hserver charset.shown
  rw [setCharset_of_server hserver, hstatement] at hset
  split_ifs at hset
  split at hset
  · cases hset
  · split_ifs at hset
    cases hset

/-- The name that a text sets the charset to, when it is the statement that does so. -/
def charsetName? (e : Engine) (sql : String) : Option String :=
  (e.charsetStatement "").bind fun start =>
    if start.toList <+: sql.toList then
      some (String.ofList (sql.toList.drop start.toList.length))
    else
      none

end SqlBridge.Engine
