import Mathlib
import SqlBridge.Text.Case

namespace SqlBridge

/-- What a literal of standard SQL says. -/
inductive SqlLiteral where
  | null
  | number (n : Int)
  | string (s : List Char)
  | blob (data : List UInt8)
deriving DecidableEq, Repr

namespace SqlLiteral

/-- A character that would continue a word or a number. -/
def isWordChar (c : Char) : Bool :=
  c.isAlphanum || c == '_'

/-- The string after an opening quote and the text after the closing one. A quote written twice is
    a quote of the string. -/
def readString : List Char → Option (List Char × List Char)
  | [] => none
  | '\'' :: '\'' :: cs => (readString cs).map fun (s, rest) => ('\'' :: s, rest)
  | '\'' :: cs => some ([], cs)
  | c :: cs => (readString cs).map fun (s, rest) => (c :: s, rest)

/-- The number that a hexadecimal digit of either case stands for. -/
def hexValue? (c : Char) : Option Nat :=
  if '0' ≤ c ∧ c ≤ '9' then some (c.toNat - 48)
  else if 'a' ≤ c ∧ c ≤ 'f' then some (c.toNat - 87)
  else if 'A' ≤ c ∧ c ≤ 'F' then some (c.toNat - 55)
  else none

/-- The bytes written as pairs of hexadecimal digits up to a quote, and the text after the quote. -/
def readHex : List Char → Option (List UInt8 × List Char)
  | '\'' :: cs => some ([], cs)
  | high :: low :: cs => do
    let h ← hexValue? high
    let l ← hexValue? low
    let (data, rest) ← readHex cs
    some (UInt8.ofNat (16 * h + l) :: data, rest)
  | _ => none

/-- The number that a run of decimal digits says, and the text after the run. A run that goes on as
    a word or with a fraction is no integer. -/
def readDigits (cs : List Char) : Option (Nat × List Char) :=
  let digits := cs.takeWhile Char.isDigit
  let rest := cs.dropWhile Char.isDigit
  if digits.isEmpty || rest.head?.any (fun c => isWordChar c || c == '.') then none
  else some (Nat.ofDigitChars 10 digits 0, rest)

/-- The text after the word `NULL` in any case. -/
def readNull (cs : List Char) : Option (List Char) :=
  if Text.asciiUpper (cs.takeWhile isWordChar) = ['N', 'U', 'L', 'L'] then
    some (cs.dropWhile isWordChar)
  else
    none

/-- A literal that no quote and no sign announces: a number or the null value. -/
def readUnmarked (cs : List Char) : Option (SqlLiteral × List Char) :=
  match readDigits cs with
  | some (n, rest) => some (number n, rest)
  | none => (readNull cs).map fun rest => (null, rest)

/-- The literal with which a text begins, and the text after it. -/
def read : List Char → Option (SqlLiteral × List Char)
  | '\'' :: cs => (readString cs).map fun (s, rest) => (string s, rest)
  | 'X' :: '\'' :: cs | 'x' :: '\'' :: cs => (readHex cs).map fun (data, rest) => (blob data, rest)
  | '-' :: cs => (readDigits cs).map fun (n, rest) => (number (-n), rest)
  | '+' :: cs => (readDigits cs).map fun (n, rest) => (number n, rest)
  | cs => readUnmarked cs

/-- A text that ends a literal before it: nothing at all, or a closing parenthesis first. -/
def Ends (rest : List Char) : Prop :=
  rest = [] ∨ ∃ after, rest = ')' :: after

/-- Before every text that ends it, the text is read as this one literal, and nothing beyond it. -/
def ReadsAs (cs : List Char) (literal : SqlLiteral) : Prop :=
  ∀ rest, Ends rest → read (cs ++ rest) = some (literal, rest)

example : read "'it''s' OR 'x".toList = some (string "it's".toList, " OR 'x".toList) := by
  decide

end SqlLiteral

end SqlBridge
