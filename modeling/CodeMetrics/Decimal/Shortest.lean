/-!
The shortest decimal that reads back as a given double. The numbers that round to the double form an
interval around it. Decimal grids are tried from the coarsest, one more digit at a time, and the
first grid with a point in the interval gives the digits; of its two points beside the double the
nearer is taken, and of two equally near ones the even or the greater. All of it is exact arithmetic
on naturals.
-/
namespace CodeMetrics.Decimal

/-- The numbers from `lower` to `upper` times `2 ^ exponent`, around `value * 2 ^ exponent`. -/
structure Interval where
  lower : Nat
  value : Nat
  upper : Nat
  exponent : Int
  closed : Bool
  deriving DecidableEq

structure Scaled where
  digits : Nat
  exponent : Int
  deriving DecidableEq

inductive Tie where
  | even
  | greater
  deriving DecidableEq

def Tie.choose : Tie → Nat → Nat
  | .even, down => if down % 2 = 0 then down else down + 1
  | .greater, down => down + 1

/-! A double has a sign bit, 11 bits of exponent and 52 of fraction. -/

def fractionBits (bits : UInt64) : Nat := bits.toNat % 4503599627370496

def exponentBits (bits : UInt64) : Nat := bits.toNat / 4503599627370496 % 2048

def signBit (bits : UInt64) : Bool := 9223372036854775808 ≤ bits.toNat

/-- In quarters of the last place: half a place on either side, but a quarter below a power of two,
where the places halve. The ends round to the double exactly when its significand is even. -/
def roundingInterval (bits : UInt64) : Interval :=
  let fraction := fractionBits bits
  let biased := exponentBits bits
  let significand := if biased = 0 then fraction else 4503599627370496 + fraction
  let below := if fraction = 0 && 1 < biased then 1 else 2
  { lower := 4 * significand - below
    value := 4 * significand
    upper := 4 * significand + 2
    exponent := (max biased 1 : Int) - 1077
    closed := significand % 2 == 0 }

/-- The factors that make `x * 2 ^ p` and `d * 10 ^ g` comparable as naturals: `x` takes the first
and `d` the second. -/
def commonScale (p g : Int) : Nat × Nat :=
  (Nat.pow 2 p.toNat * Nat.pow 10 (-g).toNat, Nat.pow 2 (-p).toNat * Nat.pow 10 g.toNat)

def Interval.holds (interval : Interval) (grid : Int) (digits : Nat) : Bool :=
  let scale := commonScale interval.exponent grid
  let point := digits * scale.2
  if interval.closed then
    interval.lower * scale.1 ≤ point && point ≤ interval.upper * scale.1
  else interval.lower * scale.1 < point && point < interval.upper * scale.1

def Interval.nearest? (tie : Tie) (interval : Interval) (grid : Int) : Option Nat :=
  let scale := commonScale interval.exponent grid
  let value := interval.value * scale.1
  let down := value / scale.2
  let up := down + 1
  match interval.holds grid down, interval.holds grid up with
  | false, false => none
  | true, false => some down
  | false, true => some up
  | true, true =>
    match compare (value - down * scale.2) (up * scale.2 - value) with
    | .lt => some down
    | .gt => some up
    | .eq => some (tie.choose down)

def digitCount (n : Nat) : Nat := (Nat.toDigits 10 n).length

/-- The `k` for which the value is at least `10 ^ (k - 1)` and below `10 ^ k`. -/
def Interval.magnitude (interval : Interval) : Int :=
  let scale := commonScale interval.exponent 0
  let value := interval.value * scale.1
  if scale.2 ≤ value then digitCount (value / scale.2)
  else 1 - (digitCount ((scale.2 - 1) / value) : Int)

/-- Seventeen digits always suffice to name a double. -/
def Interval.shortest (tie : Tie) (interval : Interval) : Scaled :=
  let magnitude := interval.magnitude
  let found := (List.range 17).findSome? fun count =>
    let grid := magnitude - (count + 1 : Nat)
    (interval.nearest? tie grid).map fun digits => Scaled.mk digits grid
  found.getD ⟨interval.value, interval.exponent⟩

def Scaled.trim : Nat → Scaled → Scaled
  | 0, scaled => scaled
  | limit + 1, scaled =>
    if scaled.digits % 10 = 0 then Scaled.trim limit ⟨scaled.digits / 10, scaled.exponent + 1⟩
    else scaled

end CodeMetrics.Decimal
