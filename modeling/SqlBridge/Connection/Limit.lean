import SqlBridge.Text.Blank
import SqlBridge.Text.Digit

namespace SqlBridge

open Text

namespace Limit

/-- The letter I in either case, with and without its dot. -/
def isLetterI (c : Char) : Bool :=
  c == 'I' || c == 'i' || c == 'İ' || c == 'ı'

/-- Whether a text begins with white space, the keyword in any case, one blank and a digit. -/
def beginsWith : List Char → Bool
  | w :: l :: i :: m :: i' :: t :: gap :: d :: _ =>
    isBlank w && (l == 'L' || l == 'l') && isLetterI i && (m == 'M' || m == 'm') && isLetterI i' &&
      (t == 'T' || t == 't') && isBlank gap && isDecimalDigit d
  | _ => false

/-- Whether a limit stands anywhere in a statement. -/
def occursIn : List Char → Bool
  | [] => false
  | c :: cs => beginsWith (c :: cs) || occursIn cs

/-- A statement without the white space and the semicolons at its end. Semicolons are removed once,
    and so is the white space on either side of them. -/
def trimEnd (s : List Char) : List Char :=
  dropRight isBlank (dropRight (· == ';') (dropRight isBlank s))

/-- The limit that is added to a statement without one. -/
def clause : List Char := " LIMIT 1".toList

/-- A statement that answers with one row at most, unless it sets a limit of its own. -/
def toOne (s : List Char) : List Char :=
  if occursIn s then s else trimEnd s ++ clause

end Limit

/-- A statement limited to one row, unless it has a limit. -/
def limitToOne (sql : String) : String :=
  String.ofList (Limit.toOne sql.toList)

end SqlBridge
