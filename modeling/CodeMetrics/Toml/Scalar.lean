import CodeMetrics.Json.Number
import CodeMetrics.Json.Quote
import CodeMetrics.Toml.Value
/-!
Values of one word: truth values, numbers, dates and times.
-/
namespace CodeMetrics.Toml

def digit? (char : Char) : Option Nat :=
  if char.isDigit then some (char.toNat - '0'.toNat) else none

def digitBelow? (base : Nat) (char : Char) : Option Nat :=
  (Json.hexValue? char).filter (· < base)

/-- Digits of which any two may be parted by an underscore. -/
def grouped? (value? : Char → Option Nat) : List Char → Option (List Nat)
  | [] => none
  | [char] => (value? char).map fun digit => [digit]
  | char :: '_' :: rest => do
    let digit ← value? char
    let more ← grouped? value? rest
    return digit :: more
  | char :: rest => do
    let digit ← value? char
    let more ← grouped? value? rest
    return digit :: more

def ofDigitsIn (base : Nat) (digits : List Nat) : Nat :=
  digits.foldl (fun value digit => value * base + digit) 0

/-- No zero comes before other digits. -/
def decimalDigits? (text : List Char) : Option (List Nat) :=
  match grouped? digit? text with
  | some (0 :: _ :: _) => none
  | digits => digits

def integerValue? (text : List Char) : Option Int :=
  match text with
  | '0' :: 'x' :: digits => (grouped? (digitBelow? 16) digits).map fun found => ofDigitsIn 16 found
  | '0' :: 'o' :: digits => (grouped? (digitBelow? 8) digits).map fun found => ofDigitsIn 8 found
  | '0' :: 'b' :: digits => (grouped? (digitBelow? 2) digits).map fun found => ofDigitsIn 2 found
  | _ =>
    let sign := Number.readSign text
    (decimalDigits? sign.2).map fun found =>
      if sign.1 then -(ofDigitsIn 10 found : Int) else ofDigitsIn 10 found

def isUnderscore (char : Char) : Bool := char == '_'

/-- What stands between the underscores. -/
def splitUnderscores : List Char → List (List Char)
  | [] => [[]]
  | char :: rest =>
    match splitUnderscores rest with
    | [] => [[char]]
    | part :: parts => if isUnderscore char then [] :: part :: parts else (char :: part) :: parts

def isHexDigit (char : Char) : Bool := (Json.hexValue? char).isSome

/-- Each part after an underscore begins with a digit, and each before one ends with one. -/
def isParted : List (List Char) → Bool
  | [] => false
  | [last] => last.head?.any isHexDigit
  | part :: rest =>
    part.head?.any isHexDigit && part.getLast?.any isHexDigit && isParted rest

/-- A number that goes on after its digits and an underscore is taken for an integer whatever it goes
on with, as long as there are digits, decimal or hexadecimal, on either side of each underscore and
no mark of a decimal fraction. -/
def isLooseInteger (text : List Char) : Bool :=
  let number := (Number.readSign text).2
  let front := number.takeWhile Char.isDigit
  let rest := number.dropWhile Char.isDigit
  front.head?.any (· != '0') && rest.head?.any isUnderscore &&
    !rest.any [' ', '.', 'e', 'E'].contains && isParted (splitUnderscores number)

/-- The mark of a base without digits. -/
def isBareBase (text : List Char) : Bool :=
  ["0x".toList, "0o".toList, "0b".toList].contains text

def integer? (text : List Char) : Option Value :=
  match integerValue? text with
  | some value => some (.integer value)
  | none => if isLooseInteger text || isBareBase text then some .valueless else none

/-- The double nearest to `digits * 10 ^ exponent`, when there is a finite one. -/
def nearestDouble? (digits : Nat) (exponent : Int) : Option Float :=
  let magnitude := Decimal.digitCount digits + exponent
  if digits = 0 ∨ magnitude < -400 then some 0.0
  else if 400 < magnitude then none
  else
    let value := Float.ofScientific digits (exponent < 0) exponent.natAbs
    if value.isInf then none else some value

def splitAtChar (marks : List Char) (text : List Char) : List Char × Option (List Char) :=
  match text.dropWhile fun char => !marks.contains char with
  | [] => (text, none)
  | _ :: rest => (text.takeWhile fun char => !marks.contains char, some rest)

def power? (text : List Char) : Option Int :=
  let sign := Number.readSign text
  (grouped? digit? sign.2).map fun found =>
    if sign.1 then -(ofDigitsIn 10 found : Int) else ofDigitsIn 10 found

/-- A fraction, an exponent, or both; digits on either side of the point. -/
def finiteFloat? (text : List Char) : Option Value := do
  let sign := Number.readSign text
  let (mantissa, power) := splitAtChar ['e', 'E'] sign.2
  let (whole, fraction) := splitAtChar ['.'] mantissa
  if power.isNone && fraction.isNone then none
  let wholeDigits ← decimalDigits? whole
  let fractionDigits ← fraction.elim (some []) (grouped? digit?)
  let exponent ← power.elim (some 0) power?
  let digits := ofDigitsIn 10 (wholeDigits ++ fractionDigits)
  match nearestDouble? digits (exponent - fractionDigits.length) with
  | some size => return .float (Number.signed sign.1 size)
  | none => return .valueless

def specialFloat? (text : List Char) : Option Value :=
  let sign := Number.readSign text
  if sign.2 = "inf".toList then some (.float (Number.signed sign.1 (1.0 / 0.0)))
  else if sign.2 = "nan".toList then some (.float (0.0 / 0.0))
  else none

/-! Dates and times. -/

/-- A number of exactly so many digits, and what follows it. -/
def fixedNumber? : Nat → Nat → List Char → Option (Nat × List Char)
  | 0, value, text => some (value, text)
  | _ + 1, _, [] => none
  | count + 1, value, char :: rest =>
    (digit? char).bind fun digit => fixedNumber? count (value * 10 + digit) rest

def isLeapYear (year : Nat) : Bool := year % 4 = 0 && (year % 100 != 0 || year % 400 = 0)

def daysIn (year month : Nat) : Nat :=
  if month = 2 then (if isLeapYear year then 29 else 28)
  else if [4, 6, 9, 11].contains month then 30 else 31

def padded (width value : Nat) : List Char :=
  let digits := Nat.toDigits 10 value
  List.replicate (width - digits.length) '0' ++ digits

/-- A day of the calendar as written, and what follows it. -/
def date? (text : List Char) : Option (List Char × List Char) := do
  let (year, text) ← fixedNumber? 4 0 text
  let '-' :: text := text | none
  let (month, text) ← fixedNumber? 2 0 text
  let '-' :: text := text | none
  let (day, text) ← fixedNumber? 2 0 text
  if 1 ≤ month && month ≤ 12 && 1 ≤ day && day ≤ daysIn year month then
    return (padded 4 year ++ '-' :: padded 2 month ++ '-' :: padded 2 day, text)
  else none

/-- Of a fraction of a second nine digits are kept, without the zeros at their end. -/
def fractionText (digits : List Nat) : List Char :=
  let kept := ((digits.take 9).reverse.dropWhile (· == 0)).reverse
  if kept.isEmpty then [] else '.' :: kept.map Nat.digitChar

/-- Seconds may be left out, and are then zero; a minute may have a sixty-first one. -/
def time? (text : List Char) : Option (List Char × List Char) := do
  let (hour, text) ← fixedNumber? 2 0 text
  let ':' :: text := text | none
  let (minute, text) ← fixedNumber? 2 0 text
  if 23 < hour || 59 < minute then none
  let clock := padded 2 hour ++ ':' :: padded 2 minute
  let ':' :: text := text | some (clock ++ ":00".toList, text)
  let (second, text) ← fixedNumber? 2 0 text
  if 60 < second then none
  let clock := clock ++ ':' :: padded 2 second
  let '.' :: text := text | some (clock, text)
  let (digits, text) := Number.readDigits text
  if digits.isEmpty then none
  return (clock ++ fractionText digits, text)

/-- The distance from universal time, less than a day on either side. -/
def offset? : List Char → Option (List Char × List Char)
  | 'Z' :: rest => some (['Z'], rest)
  | 'z' :: rest => some (['Z'], rest)
  | char :: rest => do
    if char != '+' && char != '-' then none
    let (hours, rest) ← fixedNumber? 2 0 rest
    let ':' :: rest := rest | none
    let (minutes, rest) ← fixedNumber? 2 0 rest
    if 23 < hours || 59 < minutes then none
    let sign := if hours = 0 && minutes = 0 then '+' else char
    return (sign :: padded 2 hours ++ ':' :: padded 2 minutes, rest)
  | [] => none

def isTimeMark (char : Char) : Bool := char == 'T' || char == 't' || char == ' '

/-- A date, a time, or both; only both together may have an offset. -/
def moment? (text : List Char) : Option Value := do
  match date? text with
  | none =>
    let (clock, rest) ← time? text
    if rest.isEmpty then return .moment (String.ofList clock) else none
  | some (day, []) => return .moment (String.ofList day)
  | some (day, mark :: rest) =>
    if !isTimeMark mark then none
    let (clock, rest) ← time? rest
    let stamp := day ++ 'T' :: clock
    if rest.isEmpty then return .moment (String.ofList stamp)
    let (distance, rest) ← offset? rest
    if rest.isEmpty then return .moment (String.ofList (stamp ++ distance)) else none

def scalar? (text : List Char) : Option Value :=
  if text = "true".toList then some (.bool true)
  else if text = "false".toList then some (.bool false)
  else (((integer? text).or (finiteFloat? text)).or (specialFloat? text)).or (moment? text)

end CodeMetrics.Toml
