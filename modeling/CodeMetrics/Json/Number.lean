import CodeMetrics.Json.Basic
import CodeMetrics.Decimal.Layout
/-!
Numbers as text. An integer is written in full, a double in its shortest digits. Reading takes the
digits into a 64-bit significand as far as they fit, and a number with a point, an exponent or too
many digits becomes that significand as a double, scaled by a power of ten.
-/
namespace CodeMetrics.Number

/-- From `0.00001` up to below `10 ^ 16` a double is written without an exponent. -/
def layout : Decimal.Layout := ⟨-4, 16, .even⟩

def writeInt (value : Int) : List Char :=
  (if value < 0 then ['-'] else []) ++ Nat.toDigits 10 value.natAbs

def write : Number → List Char
  | .integer value _ _ => writeInt value
  | .float value _ => layout.float value

/-! The text of a number, taken apart. -/

structure Literal where
  negative : Bool
  whole : List Nat
  fraction : List Nat
  exponent : Option Int

def readDigits : List Char → List Nat × List Char
  | [] => ([], [])
  | char :: rest =>
    if char.isDigit then
      let more := readDigits rest
      ((char.toNat - '0'.toNat) :: more.1, more.2)
    else ([], char :: rest)

theorem length_readDigits (text : List Char) :
    (readDigits text).1.length + (readDigits text).2.length = text.length := by
  induction text with
  | nil => rfl
  | cons char rest ih =>
    by_cases digit : char.isDigit = true
    · simp only [readDigits, digit, if_true, List.length_cons]
      omega
    · simp [readDigits, digit]

def ofDigits (digits : List Nat) : Nat := digits.foldl (fun value digit => value * 10 + digit) 0

def readSign : List Char → Bool × List Char
  | '-' :: rest => (true, rest)
  | '+' :: rest => (false, rest)
  | text => (false, text)

/-- No part without a digit: `none` marks a point that no digit follows. -/
def readFraction : List Char → Option (List Nat × List Char)
  | '.' :: rest =>
    let more := readDigits rest
    if more.1.isEmpty then none else some more
  | text => some ([], text)

def readPower (text : List Char) : Option (Option Int × List Char) :=
  let sign := readSign text
  let more := readDigits sign.2
  if more.1.isEmpty then none
  else some (some (if sign.1 then -(ofDigits more.1 : Int) else ofDigits more.1), more.2)

def readExponent : List Char → Option (Option Int × List Char)
  | 'e' :: rest => readPower rest
  | 'E' :: rest => readPower rest
  | text => some (none, text)

/-- A zero before other digits is no number. -/
def readUnsigned (negative : Bool) (text : List Char) : Option (Literal × List Char) :=
  match readDigits text with
  | ([], _) => none
  | (0 :: _ :: _, _) => none
  | (whole, rest) => do
    let fraction ← readFraction rest
    let exponent ← readExponent fraction.2
    some (⟨negative, whole, fraction.1, exponent.1⟩, exponent.2)

def readLiteral : List Char → Option (Literal × List Char)
  | '-' :: rest => readUnsigned true rest
  | text => readUnsigned false text

/-! The value of a literal. -/

/-- Appends digits to the significand while it stays below `2 ^ 64`, and counts them. -/
def absorb (significand : Nat) : List Nat → Nat × Nat
  | [] => (significand, 0)
  | digit :: rest =>
    if significand * 10 + digit < 18446744073709551616 then
      let more := absorb (significand * 10 + digit) rest
      (more.1, more.2 + 1)
    else (significand, 0)

/-- The double nearest to `10 ^ power`, for `power` up to 308. -/
def powerOfTen (power : Nat) : Float := Float.ofScientific 1 false power

/-- The significand times `10 ^ exponent`, by one multiplication or division of doubles, or by more
divisions where no double holds the power; nothing when the product is out of range. -/
def scale (significand : Nat) (exponent : Int) : Option Float :=
  let start := significand.toUInt64.toFloat
  let size := exponent.natAbs
  if 0 ≤ exponent then
    if size ≤ 308 then
      let product := start * powerOfTen size
      if product.isInf then none else some product
    else if start == 0.0 then some start else none
  else if size ≤ 308 then some (start / powerOfTen size)
  else if start == 0.0 then some start
  else if size ≤ 616 then some (start / powerOfTen 308 / powerOfTen (size - 308))
  -- No significand is left after two such divisions.
  else some (start / powerOfTen 308 / powerOfTen 308)

def signed (negative : Bool) (value : Float) : Float := if negative then -value else value

/-- A plain integer that does not fit is taken as a double, and so is a negative zero. -/
def Literal.integer? (negative : Bool) (significand : Nat) : Option Number :=
  if negative then
    if significand = 0 ∨ 9223372036854775808 < significand then ofFloat? (-significand.toUInt64.toFloat)
    else ofInt? (-significand)
  else ofInt? significand

def Literal.value? (literal : Literal) : Option Number :=
  let whole := absorb 0 literal.whole
  let dropped := literal.whole.length - whole.2
  if literal.fraction.isEmpty && literal.exponent.isNone && dropped == 0 then
    Literal.integer? literal.negative whole.1
  else
    let fraction := absorb whole.1 literal.fraction
    let exponent := (dropped : Int) - fraction.2 + literal.exponent.getD 0
    (scale fraction.1 exponent).bind fun value => ofFloat? (signed literal.negative value)

def read? (text : List Char) : Option (Number × List Char) := do
  let literal ← readLiteral text
  let value ← literal.1.value?
  some (value, literal.2)

/-! Reading uses up at least one character. -/

theorem length_readSign (text : List Char) : (readSign text).2.length ≤ text.length := by
  unfold readSign
  split <;> simp

theorem length_readFraction {text rest : List Char} {digits : List Nat}
    (read : readFraction text = some (digits, rest)) : rest.length ≤ text.length := by
  unfold readFraction at read
  split at read
  · rename_i more
    have size := length_readDigits more
    dsimp only at read
    split at read
    · cases read
    · rw [Option.some.inj read] at size
      exact Nat.le_succ_of_le (Nat.le.intro (Nat.add_comm .. ▸ size))
  · cases read
    exact Nat.le_refl _

theorem length_readPower {text rest : List Char} {exponent : Option Int}
    (read : readPower text = some (exponent, rest)) : rest.length ≤ text.length := by
  have size := length_readDigits (readSign text).2
  have sign := length_readSign text
  simp only [readPower] at read
  split at read
  · cases read
  · rw [(Prod.mk.inj (Option.some.inj read)).2] at size
    omega

theorem length_readExponent {text rest : List Char} {exponent : Option Int}
    (read : readExponent text = some (exponent, rest)) : rest.length ≤ text.length := by
  unfold readExponent at read
  split at read
  · exact Nat.le_succ_of_le (length_readPower read)
  · exact Nat.le_succ_of_le (length_readPower read)
  · cases read
    exact Nat.le_refl _

theorem length_readUnsigned {negative : Bool} {text rest : List Char} {literal : Literal}
    (read : readUnsigned negative text = some (literal, rest)) : rest.length < text.length := by
  have size := length_readDigits text
  unfold readUnsigned at read
  split at read
  · cases read
  · cases read
  · rename_i whole more present _ digits
    obtain ⟨⟨places, afterPoint⟩, fraction, read⟩ := Option.bind_eq_some_iff.mp read
    obtain ⟨⟨power, final⟩, exponent, read⟩ := Option.bind_eq_some_iff.mp read
    cases read
    have first := length_readFraction fraction
    have second := length_readExponent exponent
    have begun := List.length_pos_iff.mpr present
    rw [digits] at size
    dsimp only at size first second ⊢
    omega

theorem length_readLiteral {text rest : List Char} {literal : Literal}
    (read : readLiteral text = some (literal, rest)) : rest.length < text.length := by
  unfold readLiteral at read
  split at read
  · exact Nat.lt_succ_of_lt (length_readUnsigned read)
  · exact length_readUnsigned read

theorem length_read {text rest : List Char} {number : Number}
    (read : read? text = some (number, rest)) : rest.length < text.length := by
  obtain ⟨⟨literal, final⟩, found, read⟩ := Option.bind_eq_some_iff.mp read
  obtain ⟨value, _, read⟩ := Option.bind_eq_some_iff.mp read
  cases read
  exact length_readLiteral found

end CodeMetrics.Number
