import SqlBridge.Number.Binary64

namespace SqlBridge

namespace Binary64

/-- The reals that round to a positive finite number, and the number itself, as three numerators
    over one denominator. The ends belong to the interval when the significand is even. -/
structure Interval where
  low : Nat
  value : Nat
  high : Nat
  denominator : Nat
  closed : Bool

/-- The interval of a number other than zero, its sign apart. Below a power of two the next number
    is half as far away as above it. -/
def interval (x : Binary64) : Interval :=
  let unit := Nat.pow 2 (x.scale - 2).toNat
  let half := if x.fraction = 0 ∧ 1 < x.exponentField then 1 else 2
  { low := (4 * x.significand - half) * unit
    value := 4 * x.significand * unit
    high := (4 * x.significand + 2) * unit
    denominator := Nat.pow 2 (2 - x.scale).toNat
    closed := x.significand % 2 == 0 }

/-- Whether `n` steps of size `step` land in the interval. -/
def Interval.holds (range : Interval) (n step : Nat) : Bool :=
  if range.closed then range.low ≤ n * step && n * step ≤ range.high
  else range.low < n * step && n * step < range.high

/-- The multiple of ten to the power `k` that lies in the interval and is nearest to the value,
    divided by that power; of two equally near ones the even one. -/
def Interval.onGrid? (range : Interval) (k : Int) : Option Nat :=
  let grown : Interval :=
    { range with
      low := range.low * Nat.pow 10 (-k).toNat
      value := range.value * Nat.pow 10 (-k).toNat
      high := range.high * Nat.pow 10 (-k).toNat }
  let step := range.denominator * Nat.pow 10 k.toNat
  let below := grown.value / step
  match grown.holds below step, grown.holds (below + 1) step with
  | true, false => some below
  | false, true => some (below + 1)
  | false, false => none
  | true, true =>
    let down := grown.value - below * step
    let up := (below + 1) * step - grown.value
    if down < up ∨ (down = up ∧ below % 2 = 0) then some below else some (below + 1)

/-- The first of the exponents `k`, `k - 1`, … whose grid meets the interval, with the point of the
    grid that is met. -/
def Interval.coarsest (range : Interval) : Nat → Int → Option (Nat × Int)
  | 0, _ => none
  | steps + 1, k =>
    match range.onGrid? k with
    | some digits => some (digits, k)
    | none => range.coarsest steps (k - 1)

/-- The fewest decimal digits that round to a finite number other than zero, and the power of ten
    that the last of them counts. No number of 64 bits reaches beyond 309 places before the point or
    needs more than 345 after it. -/
def shortest (x : Binary64) : Nat × Int :=
  (x.interval.coarsest 655 309).getD (0, 0)

/-- How a decimal number is laid out: the places of the point for which it is written without an
    exponent, and the least count of digits of an exponent. -/
structure Layout where
  leastPoint : Int
  greatestPoint : Int
  exponentWidth : Nat

/-- Numbers from a ten-thousandth up to ten to the sixteenth are written out, and an exponent has
    two digits at least. -/
def layout : Layout := ⟨-3, 16, 2⟩

/-- An exponent with its sign, padded with zeros. -/
def Layout.exponent (form : Layout) (n : Int) : List Char :=
  let digits := (toString n.natAbs).toList
  'e' :: (if n < 0 then '-' else '+') ::
    List.replicate (form.exponentWidth - digits.length) '0' ++ digits

/-- The number `digits * 10 ^ k` in decimal. -/
def Layout.write (form : Layout) (digits : Nat) (k : Int) : List Char :=
  let ds := (toString digits).toList
  let point := k + ds.length
  if form.leastPoint ≤ point ∧ point ≤ form.greatestPoint then
    if point ≤ 0 then
      '0' :: '.' :: List.replicate (-point).toNat '0' ++ ds
    else if ds.length ≤ point then
      ds ++ List.replicate k.toNat '0' ++ ['.', '0']
    else
      ds.take point.toNat ++ '.' :: ds.drop point.toNat
  else
    match ds with
    | [] => []
    | [d] => d :: form.exponent (point - 1)
    | d :: rest => d :: '.' :: rest ++ form.exponent (point - 1)

/-- The text of a number: the fewest digits that read back as the same number. -/
def text (x : Binary64) : List Char :=
  if x.isNaN then ['n', 'a', 'n']
  else
    let magnitude :=
      if x.isInfinite then ['i', 'n', 'f']
      else if x.isZero then ['0', '.', '0']
      else layout.write x.shortest.1 x.shortest.2
    if x.isNegative then '-' :: magnitude else magnitude

end Binary64

end SqlBridge
