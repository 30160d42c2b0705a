import SqlBridge.Text.Blank
import SqlBridge.Text.Digit

namespace SqlBridge

open Text

/-- What a text says when it is read as a decimal integer. -/
inductive IntegerText where
  | value (n : Int)
  | tooLong (digits : Nat)
  | malformed
deriving DecidableEq, Repr

namespace IntegerText

/-- The most digits an integer may be read from. -/
def digitLimit : Nat := 4300

/-- White space that may stand around an integer: every blank but the separator controls. -/
def isPadding (c : Char) : Bool :=
  isBlank c && !(28 ≤ c.toNat && c.toNat ≤ 31)

/-- A character of the run of digits of an integer. -/
def isDigitOrGap (c : Char) : Bool :=
  c == '_' || isDecimalDigit c

/-- The sign in front of a number and what follows it. -/
def splitSign : List Char → Bool × List Char
  | '-' :: cs => (true, cs)
  | '+' :: cs => (false, cs)
  | cs => (false, cs)

/-- The digits of a run in which single underscores stand between digits only. -/
def digits? : List Char → Option (List Nat)
  | [] => none
  | [c] => (digitValue? c).map ([·])
  | c :: '_' :: cs => do
    let d ← digitValue? c
    let ds ← digits? cs
    some (d :: ds)
  | c :: cs => do
    let d ← digitValue? c
    let ds ← digits? cs
    some (d :: ds)

/-- The number with these decimal digits, the most significant one first. -/
def ofDigits (ds : List Nat) : Nat :=
  ds.foldl (fun n d => 10 * n + d) 0

/-- Reads a sign and a run of digits between white space. A run that is too long is reported before
    anything that follows it is looked at. -/
def read (s : List Char) : IntegerText :=
  let (negative, body) := splitSign (trimBy isPadding s)
  match digits? (body.takeWhile isDigitOrGap) with
  | none => .malformed
  | some ds =>
    if digitLimit < ds.length then .tooLong ds.length
    else if body.dropWhile isDigitOrGap ≠ [] then .malformed
    else if negative then .value (-(ofDigits ds : Int))
    else .value (ofDigits ds)

end IntegerText

end SqlBridge
