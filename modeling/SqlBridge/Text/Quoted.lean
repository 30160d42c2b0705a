import SqlBridge.Text.Hex
import SqlBridge.Text.PrintableTable

namespace SqlBridge.Text

/-- A character that is written as it is inside a quoted text. -/
def isPrintable (c : Char) : Bool :=
  printableRanges.any fun (first, last) => first ≤ c.toNat && c.toNat ≤ last

/-- The quote around a text that holds these characters: a single one, unless the text holds a
    single quote and no double one. -/
def chooseQuote {α : Type} [BEq α] (single double : α) (s : List α) : Char :=
  if s.contains single && !s.contains double then '"' else '\''

/-- A character inside a quoted text. The quote and the backslash get a backslash, three controls
    have names, and what cannot be printed is written as a number. -/
def escapeChar (quote c : Char) : List Char :=
  if c = quote ∨ c = '\\' then ['\\', c]
  else if c = '\n' then ['\\', 'n']
  else if c = '\r' then ['\\', 'r']
  else if c = '\t' then ['\\', 't']
  else if isPrintable c then [c]
  else if c.toNat < 0x100 then '\\' :: 'x' :: hexFixed 2 c.toNat
  else if c.toNat < 0x10000 then '\\' :: 'u' :: hexFixed 4 c.toNat
  else '\\' :: 'U' :: hexFixed 8 c.toNat

/-- A text in quotes, every character legible. -/
def quoted (s : List Char) : List Char :=
  let quote := chooseQuote '\'' '"' s
  quote :: s.flatMap (escapeChar quote) ++ [quote]

/-- A byte inside a quoted byte text; only printable ASCII is written as it is, and a backslash
    stands before another one and before the character `guarded`. -/
def escapeByte (guarded : Char) (byte : UInt8) : List Char :=
  let c := Char.ofNat byte.toNat
  if c = guarded ∨ c = '\\' then ['\\', c]
  else if c = '\n' then ['\\', 'n']
  else if c = '\r' then ['\\', 'r']
  else if c = '\t' then ['\\', 't']
  else if 0x20 ≤ byte ∧ byte < 0x7F then [c]
  else '\\' :: 'x' :: hexFixed 2 byte.toNat

/-- Bytes between quotes, marked by a `b` in front. -/
def bytesBetween (quote guarded : Char) (bytes : List UInt8) : List Char :=
  'b' :: quote :: bytes.flatMap (escapeByte guarded) ++ [quote]

/-- The quote around bytes, chosen as for a text. -/
def bytesQuote (bytes : List UInt8) : Char :=
  chooseQuote 39 34 bytes

/-- Bytes in quotes; the quote that is around them gets a backslash. -/
def quotedBytes (bytes : List UInt8) : List Char :=
  bytesBetween (bytesQuote bytes) (bytesQuote bytes) bytes

/-- Bytes that can grow, in quotes; the single quote gets a backslash whichever quote is around
    them. -/
def quotedGrowable (bytes : List UInt8) : List Char :=
  bytesBetween (bytesQuote bytes) '\'' bytes

end SqlBridge.Text
