import CodeMetrics.Json.Number

/-!
Numbers written and read back. A written number is read up to its end, whatever follows it, as long
as that could not belong to a number. Integers are read as they were; a double is read as some
double, though it need not be the same one, or as none at all when it has become too large.
-/

namespace CodeMetrics.Number

/-! Runs of digits. -/

def digitValue (char : Char) : Nat := char.toNat - '0'.toNat

theorem readDigits_append {rest : List Char} (apart : ∀ char ∈ rest.head?, char.isDigit = false)
    (text : List Char) :
    readDigits (text ++ rest) = ((readDigits text).1, (readDigits text).2 ++ rest) := by
  induction text with
  | nil =>
      cases rest with
      | nil => rfl
      | cons char more => simp [readDigits, apart char rfl]
  | cons char text ih =>
      by_cases digit : char.isDigit = true
      · simp [readDigits, digit, ih]
      · simp [readDigits, digit]

theorem readDigits_all {text : List Char} (digits : ∀ char ∈ text, char.isDigit = true) :
    readDigits text = (text.map digitValue, []) := by
  induction text with
  | nil => rfl
  | cons char rest ih =>
      have first := digits char List.mem_cons_self
      have others := ih fun other member => digits other (List.mem_cons_of_mem char member)
      simp [readDigits, first, others, digitValue]

theorem readDigits_run {text rest : List Char} (digits : ∀ char ∈ text, char.isDigit = true)
    (apart : ∀ char ∈ rest.head?, char.isDigit = false) :
    readDigits (text ++ rest) = (text.map digitValue, rest) := by
  rw [readDigits_append apart, readDigits_all digits, List.nil_append]

theorem eq_zero_of_digitValue {char : Char} (digit : char.isDigit = true)
    (zero : digitValue char = 0) : char = '0' := by
  have least : '0'.toNat ≤ char.toNat := (Bool.and_eq_true_iff.mp digit).1 |> of_decide_eq_true
  apply Char.toNat_inj.mp
  rw [digitValue] at zero
  omega

theorem isDigit_toDigits {value : Nat} : ∀ char ∈ Nat.toDigits 10 value, char.isDigit = true :=
  fun _ member => Nat.isDigit_of_mem_toDigits (by decide) (by decide) member

theorem head_toDigits {value : Nat} (positive : 0 < value) :
    (Nat.toDigits 10 value).head? ≠ some '0' := by
  induction value using Nat.strongRecOn with
  | ind value ih =>
      rw [Nat.toDigits_eq_if (by decide)]
      by_cases single : value < 10
      · rw [if_pos single]
        simp only [List.head?_cons, ne_eq, Option.some.injEq, Nat.digitChar_eq_zero]
        omega
      · have shorter := ih (value / 10) (by omega) (by omega)
        rw [if_neg single, List.head?_append]
        cases first : (Nat.toDigits 10 (value / 10)).head? with
        | none => exact absurd (List.head?_eq_none_iff.mp first) Nat.toDigits_ne_nil
        | some char =>
            rw [first] at shorter
            exact shorter

/-! The digits before a point or an exponent, and what may come after them. -/

/-- No digits begin with a zero, but for a lone zero. -/
structure Whole (text : List Char) : Prop where
  present : text ≠ []
  digits : ∀ char ∈ text, char.isDigit = true
  lead : text.head? = some '0' → text = ['0']

theorem whole_zero : Whole ['0'] := by
  constructor <;> simp

theorem whole_toDigits (value : Nat) : Whole (Nat.toDigits 10 value) where
  present := Nat.toDigits_ne_nil
  digits := isDigit_toDigits
  lead zero := by
    by_cases positive : 0 < value
    · exact absurd zero (head_toDigits positive)
    · obtain rfl : value = 0 := by omega
      exact Nat.toDigits_zero 10

theorem Whole.readUnsigned {whole rest : List Char} (proper : Whole whole)
    (apart : ∀ char ∈ rest.head?, char.isDigit = false) (negative : Bool) :
    readUnsigned negative (whole ++ rest) = (do
      let fraction ← readFraction rest
      let exponent ← readExponent fraction.2
      some (⟨negative, whole.map digitValue, fraction.1, exponent.1⟩, exponent.2)) := by
  have read := readDigits_run proper.digits apart
  rw [Number.readUnsigned, read]
  cases whole with
  | nil => exact absurd rfl proper.present
  | cons first others =>
      cases others with
      | nil => cases value : digitValue first <;> simp [value]
      | cons second more =>
          -- Of two digits the first is no zero, for the two would be a lone zero otherwise.
          have leading : digitValue first ≠ 0 := by
            intro zero
            have same := eq_zero_of_digitValue (proper.digits first List.mem_cons_self) zero
            have short := proper.lead (congrArg some same)
            cases short
          cases value : digitValue first with
          | zero => exact absurd value leading
          | succ digit => simp [value]

/-- What may follow a number without being taken for a part of it. -/
def Ends (rest : List Char) : Prop :=
  ∀ char ∈ rest.head?, char.isDigit = false ∧ char ∉ ['.', 'e', 'E']

theorem ends_nil : Ends [] := by
  intro char member
  cases member

theorem ends_cons {char : Char} (rest : List Char) (digit : char.isDigit = false)
    (mark : char ∉ ['.', 'e', 'E']) : Ends (char :: rest) := by
  intro other member
  cases member
  exact ⟨digit, mark⟩

theorem Ends.apart {rest : List Char} (ends : Ends rest) :
    ∀ char ∈ rest.head?, char.isDigit = false :=
  fun char member => (ends char member).1

theorem Ends.readFraction {rest : List Char} (ends : Ends rest) :
    readFraction rest = some ([], rest) := by
  rw [Number.readFraction]
  intro more same
  subst same
  exact (ends '.' rfl).2 (by decide)

theorem Ends.readExponent {rest : List Char} (ends : Ends rest) :
    readExponent rest = some (none, rest) := by
  rw [Number.readExponent]
  · intro more same
    subst same
    exact (ends 'e' rfl).2 (by decide)
  · intro more same
    subst same
    exact (ends 'E' rfl).2 (by decide)

theorem readFraction_point {digits rest : List Char} (present : digits ≠ [])
    (all : ∀ char ∈ digits, char.isDigit = true)
    (apart : ∀ char ∈ rest.head?, char.isDigit = false) :
    readFraction ('.' :: (digits ++ rest)) = some (digits.map digitValue, rest) := by
  rw [readFraction, readDigits_run all apart]
  simp [present]

/-- An exponent is written with its sign. -/
theorem readExponent_power {digits rest : List Char} {sign : Char} (signs : sign = '-' ∨ sign = '+')
    (present : digits ≠ []) (all : ∀ char ∈ digits, char.isDigit = true)
    (apart : ∀ char ∈ rest.head?, char.isDigit = false) :
    readExponent ('e' :: sign :: (digits ++ rest)) =
      some (some (if sign = '-' then -(ofDigits (digits.map digitValue) : Int)
        else ofDigits (digits.map digitValue)), rest) := by
  have run := readDigits_run all apart
  rcases signs with rfl | rfl <;> simp [readExponent, readPower, readSign, run, present]

/-- A text that is read as a literal up to its end, whatever may follow a number. -/
def Written (text : List Char) (literal : Literal) : Prop :=
  ∀ rest, Ends rest → readLiteral (text ++ rest) = some (literal, rest)

/-- A literal is read from its digits before the point and what comes after them. -/
theorem written_of_whole {whole tail : List Char} {literal : Literal} (proper : Whole whole)
    (negative : Bool) (mark : ∀ rest, Ends rest → ∀ char ∈ (tail ++ rest).head?, char.isDigit = false)
    (read : ∀ rest, Ends rest → (do
      let fraction ← readFraction (tail ++ rest)
      let exponent ← readExponent fraction.2
      some ((⟨negative, whole.map digitValue, fraction.1, exponent.1⟩ : Literal), exponent.2)) =
        some (literal, rest)) :
    Written ((if negative then ['-'] else []) ++ (whole ++ tail)) literal := by
  intro rest ends
  rw [List.append_assoc, List.append_assoc, ← read rest ends,
    ← proper.readUnsigned (mark rest ends)]
  cases negative with
  | true => rfl
  | false =>
      cases whole with
      | nil => exact absurd rfl proper.present
      | cons char more =>
          have digit := proper.digits char List.mem_cons_self
          rw [if_neg (by decide), List.nil_append, List.cons_append, readLiteral]
          intro others same
          cases same
          cases digit

/-! Integers. -/

theorem written_integer (value : Int) :
    Written (writeInt value)
      ⟨value < 0, (Nat.toDigits 10 value.natAbs).map digitValue, [], none⟩ := by
  have alone : writeInt value = (if decide (value < 0) then ['-'] else []) ++
      (Nat.toDigits 10 value.natAbs ++ []) := by
    simp only [writeInt, List.append_nil, decide_eq_true_eq]
  rw [alone]
  apply written_of_whole (whole_toDigits value.natAbs)
  · exact fun _ ends => ends.apart
  · intro rest ends
    simp [ends.readFraction, ends.readExponent]

theorem le_foldl_digits (start : Nat) (digits : List Nat) :
    start ≤ digits.foldl (fun value digit => value * 10 + digit) start := by
  induction digits generalizing start with
  | nil => exact Nat.le_refl _
  | cons digit rest ih =>
      have later := ih (start * 10 + digit)
      rw [List.foldl_cons]
      omega

theorem absorb_of_fits {start : Nat} {digits : List Nat}
    (fits : digits.foldl (fun value digit => value * 10 + digit) start < 18446744073709551616) :
    absorb start digits =
      (digits.foldl (fun value digit => value * 10 + digit) start, digits.length) := by
  induction digits generalizing start with
  | nil => rfl
  | cons digit rest ih =>
      rw [List.foldl_cons] at fits ⊢
      have first := le_foldl_digits (start * 10 + digit) rest
      rw [absorb, if_pos (by omega), ih fits, List.length_cons]

theorem ofDigits_toDigits (value : Nat) :
    ofDigits ((Nat.toDigits 10 value).map digitValue) = value := by
  have folded := Nat.ofDigitChars_toDigits (b := 10) (n := value) (by decide) (by decide)
  rw [Nat.ofDigitChars_eq_foldl] at folded
  rw [ofDigits, List.foldl_map]
  simp only [Nat.mul_comm _ 10]
  exact folded

theorem value_integer {value : Int} (lower : -9223372036854775808 ≤ value)
    (upper : value < 18446744073709551616) :
    Literal.value? ⟨value < 0, (Nat.toDigits 10 value.natAbs).map digitValue, [], none⟩ =
      some (.integer value lower upper) := by
  have digits := ofDigits_toDigits value.natAbs
  have fits : ofDigits ((Nat.toDigits 10 value.natAbs).map digitValue) < 18446744073709551616 := by
    omega
  have absorbed := absorb_of_fits fits
  rw [← ofDigits, digits] at absorbed
  simp only [Literal.value?, absorbed, Nat.sub_self, List.isEmpty_nil, Option.isNone_none,
    Bool.and_self, beq_self_eq_true, if_true, Literal.integer?]
  by_cases negative : value < 0
  · have inside : ¬(value.natAbs = 0 ∨ 9223372036854775808 < value.natAbs) := by omega
    have same : -(value.natAbs : Int) = value := by omega
    rw [if_pos (by simpa using negative), if_neg inside, same, ofInt?, dif_pos ⟨lower, upper⟩]
  · have same : (value.natAbs : Int) = value := by omega
    rw [if_neg (by simpa using negative), same, ofInt?, dif_pos ⟨lower, upper⟩]

/-! Doubles: digits with a point among them or an exponent after them. -/

/-- A text that is read, up to its end, as a literal with a point or an exponent. -/
def WrittenBroken (text : List Char) : Prop :=
  ∃ literal : Literal, (literal.fraction ≠ [] ∨ literal.exponent ≠ none) ∧ Written text literal

theorem writtenBroken_point {whole fraction : List Char} (proper : Whole whole)
    (present : fraction ≠ []) (digits : ∀ char ∈ fraction, char.isDigit = true)
    (negative : Bool) :
    WrittenBroken ((if negative then ['-'] else []) ++ (whole ++ '.' :: fraction)) := by
  refine ⟨⟨negative, whole.map digitValue, fraction.map digitValue, none⟩, .inl ?_, ?_⟩
  · exact fun none => present (List.map_eq_nil_iff.mp none)
  · apply written_of_whole proper negative
    · rintro rest ends char ⟨⟩
      rfl
    · intro rest ends
      rw [List.cons_append, readFraction_point present digits ends.apart]
      simp [ends.readExponent]

theorem writtenBroken_exponent {whole fraction power : List Char} {sign : Char}
    (proper : Whole whole) (digits : ∀ char ∈ fraction, char.isDigit = true)
    (signs : sign = '-' ∨ sign = '+') (present : power ≠ [])
    (powers : ∀ char ∈ power, char.isDigit = true) (negative : Bool) :
    WrittenBroken ((if negative then ['-'] else []) ++
      (whole ++ ((if fraction = [] then [] else '.' :: fraction) ++ 'e' :: sign :: power))) := by
  let value : Int := if sign = '-' then -(ofDigits (power.map digitValue) : Int)
    else ofDigits (power.map digitValue)
  refine ⟨⟨negative, whole.map digitValue, fraction.map digitValue, some value⟩, .inr nofun, ?_⟩
  apply written_of_whole proper negative
  · intro rest ends char member
    split at member <;> cases member <;> rfl
  · intro rest ends
    have last := readExponent_power signs present powers ends.apart
    by_cases bare : fraction = []
    · subst bare
      simp [readFraction, last, value]
    · have mark : ∀ char ∈ ('e' :: sign :: (power ++ rest)).head?, char.isDigit = false := by
        rintro char ⟨⟩
        rfl
      have point := readFraction_point bare digits mark
      simp [bare, point, last, value]

/-- Digits that begin with no zero, as the digits of a double do. -/
structure Proper (digits : List Char) : Prop where
  present : digits ≠ []
  all : ∀ char ∈ digits, char.isDigit = true
  lead : digits.head? ≠ some '0'

theorem proper_toDigits {value : Nat} (positive : 0 < value) : Proper (Nat.toDigits 10 value) :=
  ⟨Nat.toDigits_ne_nil, isDigit_toDigits, head_toDigits positive⟩

theorem Proper.whole {digits : List Char} (proper : Proper digits) : Whole digits :=
  ⟨proper.present, proper.all, fun zero => absurd zero proper.lead⟩

theorem Proper.append {digits more : List Char} (proper : Proper digits)
    (all : ∀ char ∈ more, char.isDigit = true) : Proper (digits ++ more) where
  present none := proper.present (List.append_eq_nil_iff.mp none).1
  all char member := (List.mem_append.mp member).elim (proper.all char) (all char)
  lead := by
    cases digits with
    | nil => exact absurd rfl proper.present
    | cons char rest => exact proper.lead

theorem Proper.take {digits : List Char} (proper : Proper digits) (count : Nat)
    (some : 0 < count) : Proper (digits.take count) := by
  cases digits with
  | nil => exact absurd rfl proper.present
  | cons char rest =>
      obtain ⟨fewer, rfl⟩ := Nat.exists_eq_succ_of_ne_zero (Nat.pos_iff_ne_zero.mp some)
      refine ⟨nofun, ?_, proper.lead⟩
      exact fun other member => proper.all other (List.mem_of_mem_take member)

theorem isDigit_zeros (count : Nat) : ∀ char ∈ List.replicate count '0', char.isDigit = true := by
  intro char member
  rw [List.eq_of_mem_replicate member]
  rfl

theorem writtenBroken_placePoint {digits : List Char} (proper : Proper digits) (magnitude : Int)
    (negative : Bool) :
    WrittenBroken ((if negative then ['-'] else []) ++ Decimal.placePoint digits magnitude) := by
  rw [Decimal.placePoint]
  by_cases small : magnitude ≤ 0
  · rw [if_pos small]
    refine writtenBroken_point whole_zero ?_ ?_ negative
    · exact fun none => proper.present (List.append_eq_nil_iff.mp none).2
    · exact fun char member => (List.mem_append.mp member).elim (isDigit_zeros _ char) (proper.all char)
  · rw [if_neg small]
    dsimp only
    by_cases short : digits.length ≤ magnitude.toNat
    · have grown := proper.append (isDigit_zeros (magnitude.toNat - digits.length))
      rw [if_pos short]
      exact writtenBroken_point grown.whole (by decide) (isDigit_zeros 1) negative
    · rw [if_neg short]
      refine writtenBroken_point (proper.take _ (by omega)).whole ?_ ?_ negative
      · exact fun none => short (List.drop_eq_nil_iff.mp none)
      · exact fun char member => proper.all char (List.mem_of_mem_drop member)

theorem writtenBroken_placeExponent {digits : List Char} (proper : Proper digits) (magnitude : Int)
    (negative : Bool) :
    WrittenBroken ((if negative then ['-'] else []) ++ Decimal.placeExponent digits magnitude) := by
  have signs : (if magnitude - 1 < 0 then '-' else '+') = '-' ∨
      (if magnitude - 1 < 0 then '-' else '+') = '+' := by
    split <;> simp
  cases digits with
  | nil => exact absurd rfl proper.present
  | cons first rest =>
      have lone : Whole [first] := (proper.take 1 (by decide)).whole
      have others : ∀ char ∈ rest, char.isDigit = true :=
        fun char member => proper.all char (List.mem_cons_of_mem first member)
      have written := writtenBroken_exponent lone others signs
        (Nat.toDigits_ne_nil (n := (magnitude - 1).natAbs) (b := 10)) isDigit_toDigits negative
      cases rest with
      | nil => exact written
      | cons second more => exact written

theorem writtenBroken_write {scaled : Decimal.Scaled} (positive : 0 < scaled.digits)
    (form : Decimal.Layout) (negative : Bool) :
    WrittenBroken ((if negative then ['-'] else []) ++ form.write scaled) := by
  have proper := proper_toDigits positive
  rw [Decimal.Layout.write]
  generalize (Nat.toDigits 10 scaled.digits).length + scaled.exponent = magnitude
  by_cases moderate : form.least ≤ magnitude ∧ magnitude ≤ form.greatest
  · rw [if_pos moderate]
    exact writtenBroken_placePoint proper magnitude negative
  · rw [if_neg moderate]
    exact writtenBroken_placeExponent proper magnitude negative

end CodeMetrics.Number

namespace CodeMetrics.Decimal

/-! The shortest digits of a double other than zero are not all zero. -/

theorem Interval.pos_of_holds {interval : Interval} {grid : Int} {digits : Nat}
    (away : 0 < interval.lower) (held : interval.holds grid digits = true) : 0 < digits := by
  have unit : 0 < (commonScale interval.exponent grid).1 :=
    Nat.mul_pos (Nat.pow_pos (by decide)) (Nat.pow_pos (by decide))
  have bound := Nat.mul_pos away unit
  rcases Nat.eq_zero_or_pos digits with zero | positive
  · simp only [holds, zero, Nat.zero_mul] at held
    split at held <;> simp only [Bool.and_eq_true, decide_eq_true_eq] at held <;> omega
  · exact positive

theorem Interval.pos_of_nearest {tie : Tie} {interval : Interval} {grid : Int} {digits : Nat}
    (away : 0 < interval.lower) (found : interval.nearest? tie grid = some digits) :
    0 < digits := by
  simp only [nearest?] at found
  split at found
  · cases found
  · rename_i held _
    cases found
    exact pos_of_holds away held
  · cases found
    exact Nat.succ_pos _
  · rename_i held _
    have positive := pos_of_holds away held
    split at found
    · cases found
      exact positive
    · cases found
      exact Nat.succ_pos _
    · cases found
      cases tie with
      | even =>
          rw [Tie.choose]
          split
          · exact positive
          · exact Nat.succ_pos _
      | greater => exact Nat.succ_pos _

theorem Interval.pos_shortest {tie : Tie} {interval : Interval} (away : 0 < interval.lower)
    (positive : 0 < interval.value) : 0 < (interval.shortest tie).digits := by
  simp only [shortest]
  cases found : (List.range 17).findSome? fun count =>
      (interval.nearest? tie (interval.magnitude - (count + 1 : Nat))).map fun digits =>
        Scaled.mk digits (interval.magnitude - (count + 1 : Nat)) with
  | none => exact positive
  | some scaled =>
      obtain ⟨count, -, found⟩ := List.exists_of_findSome?_eq_some found
      obtain ⟨digits, nearest, rfl⟩ := Option.map_eq_some_iff.mp found
      exact pos_of_nearest away nearest

theorem Scaled.pos_trim {scaled : Scaled} (limit : Nat) (positive : 0 < scaled.digits) :
    0 < (scaled.trim limit).digits := by
  induction limit generalizing scaled with
  | zero => exact positive
  | succ limit ih =>
      rw [trim]
      split
      · exact ih (by dsimp only; omega)
      · exact positive

theorem pos_roundingInterval (bits : UInt64)
    (nonzero : ¬(fractionBits bits = 0 ∧ exponentBits bits = 0)) :
    0 < (roundingInterval bits).lower ∧ 0 < (roundingInterval bits).value := by
  simp only [roundingInterval]
  constructor
  · split <;> split <;> omega
  · split <;> omega

end CodeMetrics.Decimal

namespace CodeMetrics.Number

theorem proper_of_isFinite {x : Float} (finite : x.isFinite = true) :
    x.isNaN = false ∧ x.isInf = false := by
  unfold Float.isFinite Float.Model.isFinite at finite
  unfold Float.isNaN Float.Model.isNaN Float.isInf Float.Model.isInf
  cases unpacked : x.toModel.unpack with
  | infinity sign => rw [unpacked] at finite; cases finite
  | notANumber => rw [unpacked] at finite; cases finite
  | zero sign => exact ⟨rfl, rfl⟩
  | finite sign mantissa exponent positive => exact ⟨rfl, rfl⟩

theorem writtenBroken_float {x : Float} (finite : x.isFinite = true) (form : Decimal.Layout) :
    WrittenBroken (form.float x) := by
  obtain ⟨number, bounded⟩ := proper_of_isFinite finite
  simp only [Decimal.Layout.float, number, bounded]
  simp only [Bool.false_eq_true, if_false]
  split
  · exact writtenBroken_point whole_zero (List.cons_ne_nil '0' []) (isDigit_zeros 1) _
  · rename_i nonzero
    have positive := Decimal.pos_roundingInterval x.toBits (by simpa using nonzero)
    exact writtenBroken_write (Decimal.Scaled.pos_trim 17
      (Decimal.Interval.pos_shortest positive.1 positive.2)) form _

/-! Numbers of either kind. -/

/-- What a number comes back as when its text is read. -/
def reread (number : Number) : Option Number := (read? number.write).map Prod.fst

theorem Written.read? {text : List Char} {literal : Literal} (written : Written text literal)
    {rest : List Char} (ends : Ends rest) :
    read? (text ++ rest) = literal.value?.map (·, rest) := by
  rw [Number.read?, written rest ends]
  cases value : literal.value? <;> simp [value]

theorem Written.reread {number : Number} {literal : Literal}
    (written : Written number.write literal) : number.reread = literal.value? := by
  have read := written.read? ends_nil
  rw [List.append_nil] at read
  rw [Number.reread, read]
  cases literal.value? <;> rfl

theorem written_write (number : Number) : ∃ literal, Written number.write literal := by
  cases number with
  | integer value lower upper => exact ⟨_, written_integer value⟩
  | float x finite =>
      obtain ⟨literal, -, written⟩ := writtenBroken_float finite layout
      exact ⟨literal, written⟩

theorem read?_write (number : Number) {rest : List Char} (ends : Ends rest) :
    read? (number.write ++ rest) = number.reread.map (·, rest) := by
  obtain ⟨literal, written⟩ := written_write number
  rw [written.read? ends, written.reread]

theorem reread_integer {value : Int} (lower : -9223372036854775808 ≤ value)
    (upper : value < 18446744073709551616) :
    reread (.integer value lower upper) = some (.integer value lower upper) := by
  have written : Written (write (.integer value lower upper)) _ := written_integer value
  rw [written.reread, value_integer]

theorem ofFloat?_eq_some {x : Float} {number : Number} (made : ofFloat? x = some number) :
    ∃ finite, number = .float x finite := by
  rw [ofFloat?] at made
  split at made
  · exact ⟨_, (Option.some.inj made).symm⟩
  · cases made

/-- A double does not come back as an integer. -/
theorem reread_float {x : Float} (finite : x.isFinite = true) {number : Number}
    (back : reread (.float x finite) = some number) : ∃ y proper, number = .float y proper := by
  obtain ⟨literal, broken, written⟩ := writtenBroken_float finite layout
  have written : Written (write (.float x finite)) literal := written
  rw [written.reread, Literal.value?] at back
  dsimp only at back
  rw [if_neg] at back
  · obtain ⟨value, -, made⟩ := Option.bind_eq_some_iff.mp back
    exact ⟨_, ofFloat?_eq_some made⟩
  · rcases broken with fraction | exponent
    · simp [fraction]
    · simp [exponent]

end CodeMetrics.Number
