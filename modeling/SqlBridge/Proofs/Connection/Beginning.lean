import Mathlib
import SqlBridge.Connection.Query

namespace SqlBridge

open Text

theorem fill_scan_append {start : List Char} (hbrace : '{' ∉ start) (vars : QueryVars)
    (rest : List Char) :
    fill vars (scan (start ++ rest)) = (fill vars (scan rest)).map (start ++ ·) := by
  induction start with
  | nil => exact (id_map (f := Except Unresolved) _).symm
  | cons ch start ih =>
    rw [List.mem_cons, not_or] at hbrace
    have hplain : holeAt? (ch :: (start ++ rest)) = none := by
      unfold holeAt?
      split
      · next heq => exact absurd (List.cons.inj heq).1.symm hbrace.1
      · rfl
    rw [List.cons_append, scan_cons_of_none hplain, fill, ih hbrace.2]
    cases fill vars (scan rest) <;> rfl

end SqlBridge
