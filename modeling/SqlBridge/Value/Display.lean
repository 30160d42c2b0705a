import SqlBridge.Value
import SqlBridge.Number.Shortest
import SqlBridge.Text.Quoted

namespace SqlBridge

namespace Value

/-- How the items of a tuple stand in parentheses; a single item is followed by a comma. -/
def parenthesized : List String → String
  | [item] => "(" ++ item ++ ",)"
  | items => "(" ++ ", ".intercalate items ++ ")"

/-- Bytes as they are shown, with the name of their form unless it is the fixed one. -/
def shownBytes (form : ByteForm) (data : List UInt8) : String :=
  match form with
  | .fixed => String.ofList (Text.quotedBytes data)
  | .growable => "bytearray(" ++ String.ofList (Text.quotedGrowable data) ++ ")"
  | .view => "memoryview(" ++ String.ofList (Text.quotedBytes data) ++ ")"

mutual
/-- A value as it stands in a message or inside another value, a text in quotes. -/
def quoted : Value → String
  | null => "None"
  | bool b => if b then "True" else "False"
  | int n => toString n
  | float x => String.ofList x.text
  | text s => String.ofList (Text.quoted s.toList)
  | bytes form data => shownBytes form data
  | list items => "[" ++ ", ".intercalate (quotedItems items) ++ "]"
  | tuple items => parenthesized (quotedItems items)
  | map entries => "\x7b" ++ ", ".intercalate (quotedEntries entries) ++ "\x7d"
  | engine e => "<Engine." ++ e.label ++ ": '" ++ e.name ++ "'>"
  | condition value type combinator =>
    "Condition(value=" ++ value.quoted ++ ", type=" ++ type.quoted ++
      ", combinator=" ++ combinator.quoted ++ ")"

/-- Every item as it stands inside another value. -/
def quotedItems : List Value → List String
  | [] => []
  | item :: items => item.quoted :: quotedItems items

/-- Every entry of a map as it stands inside the map. -/
def quotedEntries : List (Value × Value) → List String
  | [] => []
  | entry :: entries => quotedEntry entry :: quotedEntries entries

/-- A key and its value with a colon between them. -/
def quotedEntry : Value × Value → String
  | (key, value) => key.quoted ++ ": " ++ value.quoted
end

/-- A value as text: a text is itself, and everything else is shown as in a message. -/
def shown : Value → String
  | text s => s
  | engine e => "Engine." ++ e.label
  | v => v.quoted

end Value

end SqlBridge
