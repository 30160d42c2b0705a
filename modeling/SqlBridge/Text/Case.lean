import SqlBridge.Text.CaseTable

namespace SqlBridge.Text

/-- The image of `n` under this run, when the run maps it. -/
def CaseRun.apply? (run : CaseRun) (n : Nat) : Option Nat :=
  if run.first ≤ n ∧ n ≤ run.last ∧ (n - run.first) % run.step = 0 then
    some (run.image + (n - run.first))
  else
    none

/-- The image of a character under the first run that maps it; a character of no run stays. -/
def mapByRuns (runs : List CaseRun) (c : Char) : Char :=
  ((runs.findSome? fun run => run.apply? c.toNat).map Char.ofNat).getD c

/-- Whether a character lies in one of the ranges. -/
def inRanges (ranges : List (Nat × Nat)) (c : Char) : Bool :=
  ranges.any fun (first, last) => first ≤ c.toNat && c.toNat ≤ last

/-- A letter that has a case. -/
def isCased (c : Char) : Bool :=
  inRanges casedRanges c

/-- A character that is passed over when looking for a neighbour with a case. -/
def isCaseIgnorable (c : Char) : Bool :=
  inRanges caseIgnorableRanges c

/-- Whether the nearest character that is not passed over has a case. -/
def meetsCased (cs : List Char) : Bool :=
  ((cs.dropWhile isCaseIgnorable).head?.map isCased).getD false

/-- The small form of one character between its neighbours, those before it nearest first. A capital
    sigma that ends a word becomes the final sigma, and the dotted capital I becomes two
    characters. -/
def lowerAt (before : List Char) (c : Char) (after : List Char) : List Char :=
  if c = 'Σ' then
    [if meetsCased before && !meetsCased after then 'ς' else 'σ']
  else if c = 'İ' then
    ['i', '\u0307']
  else
    [mapByRuns lowerRuns c]

/-- The small form of the rest of a text, given what stands before it, nearest first. -/
def lowerFrom (before : List Char) : List Char → List Char
  | [] => []
  | c :: cs => lowerAt before c cs ++ lowerFrom (c :: before) cs

/-- The small form of a text. -/
def lower (s : List Char) : List Char :=
  lowerFrom [] s

/-- The title form of one character. -/
def titleOf (c : Char) : List Char :=
  match titleExpansions.lookup c.toNat with
  | some image => image.map Char.ofNat
  | none => [mapByRuns titleRuns c]

/-- The first character in title form and the others in small form. -/
def capitalize : List Char → List Char
  | [] => []
  | c :: cs => titleOf c ++ lowerFrom [c] cs

/-- The small form with respect to the ASCII letters alone. No other letter has a form that spells
    one of the fixed words it is compared with. -/
def asciiLower (s : List Char) : List Char :=
  s.map Char.toLower

/-- The capital form with respect to the ASCII letters alone. -/
def asciiUpper (s : List Char) : List Char :=
  s.map Char.toUpper

end SqlBridge.Text
