import CodeMetrics.Decimal.Shortest
/-!
How the digits of a number are laid out: with a point among them while the number is of moderate
size, with an exponent otherwise.
-/
namespace CodeMetrics.Decimal

/-- A number of magnitude `k`, at least `10 ^ (k - 1)` and below `10 ^ k`, is written without an
exponent when `k` lies between the two bounds. -/
structure Layout where
  least : Int
  greatest : Int
  tie : Tie

def Layout.positional : Layout := ⟨-400, 400, .greater⟩

/-- `magnitude` counts the digits before the point. There is always a digit on either side of it. -/
def placePoint (digits : List Char) (magnitude : Int) : List Char :=
  if magnitude ≤ 0 then '0' :: '.' :: List.replicate (-magnitude).toNat '0' ++ digits
  else
    let whole := magnitude.toNat
    if digits.length ≤ whole then
      digits ++ List.replicate (whole - digits.length) '0' ++ ['.', '0']
    else digits.take whole ++ '.' :: digits.drop whole

def placeExponent (digits : List Char) (magnitude : Int) : List Char :=
  let power := magnitude - 1
  let mantissa := match digits with
    | first :: second :: more => first :: '.' :: second :: more
    | short => short
  mantissa ++ 'e' :: (if power < 0 then '-' else '+') :: Nat.toDigits 10 power.natAbs

def Layout.write (layout : Layout) (scaled : Scaled) : List Char :=
  let digits := Nat.toDigits 10 scaled.digits
  let magnitude := digits.length + scaled.exponent
  if layout.least ≤ magnitude ∧ magnitude ≤ layout.greatest then placePoint digits magnitude
  else placeExponent digits magnitude

def Layout.float (layout : Layout) (x : Float) : List Char :=
  let bits := x.toBits
  if x.isNaN then "NaN".toList
  else
    let sign := if signBit bits then ['-'] else []
    if x.isInf then sign ++ "inf".toList
    else if fractionBits bits = 0 && exponentBits bits = 0 then sign ++ ['0', '.', '0']
    else sign ++ layout.write (((roundingInterval bits).shortest layout.tie).trim 17)

end CodeMetrics.Decimal
