import AttributeQuery.Decimal.Stepwise
import AttributeQuery.Decimal.Style
import AttributeQuery.Proofs.Text.Numeral

/-!
# Doubles of great integers

From two to the power of 63 on, neighbouring doubles are more than a thousand
apart twice over, so each of them is read from a multiple of a thousand. The
shortest decimal of such a double is a multiple of a thousand then, and is
written as a numeral without point.
-/

namespace AttributeQuery.Decimal

/-! ## Places -/

theorem binadeSize_eq : binadeSize = 2 ^ 52 := rfl

theorem binadeSize_pos : 0 < binadeSize := by decide

section Binades

variable {offset : Nat} (isOffset : offset < binadeSize) (binade : Nat)

include isOffset

theorem exponentAt_binade :
    exponentAt ((binade + 1) * binadeSize + offset) = binade := by
  rw [exponentAt, Nat.mul_comm, Nat.mul_add_div binadeSize_pos,
    Nat.div_eq_of_lt isOffset, Nat.add_zero, Nat.add_sub_cancel]

/-- The values of a binade go up in equal steps from a power of two. -/
theorem unitsAt_binade :
    unitsAt ((binade + 1) * binadeSize + offset) = (binadeSize + offset) *
      2 ^ binade := by
  have notLow : ¬(binade + 1) * binadeSize + offset < binadeSize := by
    rw [Nat.add_one_mul]
    omega
  rw [unitsAt, exponentAt_binade isOffset, significandAt, if_neg notLow,
    Nat.mul_add_mod_self_right, Nat.mod_eq_of_lt isOffset, Nat.shiftLeft_eq]

end Binades

/-- Below the first boundary the values are the places. -/
theorem unitsAt_low {place : Nat} (isLow : place < binadeSize) :
    unitsAt place = place ∧ exponentAt place = 0 := by
  simp [unitsAt, significandAt, exponentAt, isLow, Nat.div_eq_of_lt isLow]

/-- Any other place is in a binade. -/
theorem exists_binade {place : Nat} (notLow : ¬place < binadeSize) :
    ∃ binade, ∃ offset < binadeSize,
    place = (binade + 1) * binadeSize + offset := by
  have split := Nat.div_add_mod place binadeSize
  have isLater : 1 ≤ place / binadeSize :=
    (Nat.one_le_div_iff binadeSize_pos).mpr (Nat.le_of_not_lt notLow)
  refine ⟨place / binadeSize - 1, place % binadeSize,
    Nat.mod_lt place binadeSize_pos, ?_⟩
  rw [Nat.sub_add_cancel isLater, Nat.mul_comm, split]

/-- Neighbouring magnitudes are one unit of the significand of the lower one
apart, also where the next binade starts. -/
theorem unitsAt_succ (place : Nat) :
    unitsAt (place + 1) = unitsAt place + 2 ^ exponentAt place := by
  by_cases isLow : place < binadeSize
  · obtain ⟨units, exponent⟩ := unitsAt_low isLow
    rw [units, exponent, Nat.pow_zero]
    rcases Nat.lt_or_ge (place + 1) binadeSize with isInside | isLast
    · exact (unitsAt_low isInside).1
    · have first := unitsAt_binade binadeSize_pos 0
      rw [Nat.zero_add, Nat.one_mul, Nat.add_zero, Nat.pow_zero,
        Nat.mul_one] at first
      have isFirst : place + 1 = binadeSize := by omega
      rw [isFirst, first]
  · obtain ⟨binade, offset, isOffset, rfl⟩ := exists_binade isLow
    rw [unitsAt_binade isOffset, exponentAt_binade isOffset, ← Nat.add_one_mul]
    rcases Nat.lt_or_ge (offset + 1) binadeSize with isInside | isLast
    · rw [Nat.add_assoc, unitsAt_binade isInside, Nat.add_assoc]
    · have next : (binade + 1) * binadeSize + offset + 1 = (binade + 1 + 1) *
          binadeSize + 0 := by
        rw [Nat.add_one_mul (binade + 1)]
        omega
      have twice : binadeSize + offset + 1 = 2 * binadeSize := by omega
      rw [next, unitsAt_binade binadeSize_pos, twice, Nat.pow_succ]
      ring

/-- A magnitude with two to some power among those below it is that power at
least. -/
theorem two_pow_le_unitsAt {place power : Nat}
    (isFar : (power + 1023) * binadeSize ≤ place) :
    2 ^ (power + unitExponent) ≤ unitsAt place := by
  have notLow : ¬place < binadeSize := by
    rw [binadeSize_eq] at isFar ⊢
    omega
  obtain ⟨binade, offset, isOffset, rfl⟩ := exists_binade notLow
  have isBelow : (power + 1023) * binadeSize < (binade + 2) * binadeSize := by
    rw [Nat.add_mul binade] at isFar ⊢
    omega
  have isHigh : power + 1022 ≤ binade := by
    have ordered := Nat.lt_of_mul_lt_mul_right isBelow
    omega
  have split : power + unitExponent = 52 + (power + 1022) := by
    rw [unitExponent]
    omega
  rw [unitsAt_binade isOffset, split, Nat.pow_add, ← binadeSize_eq]
  exact Nat.mul_le_mul (Nat.le_add_right _ _)
    (Nat.pow_le_pow_right (by decide) isHigh)

theorem quotient_le_roundedQuotient (numerator denominator : Nat) :
    numerator / denominator ≤ roundedQuotient numerator denominator := by
  unfold roundedQuotient
  dsimp only
  split
  · exact le_rfl
  · split <;> omega

/-- The place nearest to a quotient that is not less than a power of two is not
before the place of that power. -/
theorem le_nearestPlace {numerator denominator power : Nat}
    (positive : 0 < denominator)
    (isLarge : denominator * 2 ^ power ≤ numerator) :
    (power + 1023) * binadeSize ≤ nearestPlace numerator denominator := by
  unfold nearestPlace
  dsimp only
  generalize isUnits : numerator <<< unitExponent = units
  generalize isExponent : Nat.log2 (units / denominator) - 52 = exponent
  have manyUnits : 2 ^ (power + unitExponent) ≤ units / denominator := by
    rw [Nat.le_div_iff_mul_le positive, ← isUnits,
      Nat.shiftLeft_eq, Nat.pow_add]
    calc 2 ^ power * 2 ^ unitExponent * denominator
        = denominator * 2 ^ power * 2 ^ unitExponent := by ring
      _ ≤ numerator * 2 ^ unitExponent := Nat.mul_le_mul_right _ isLarge
  have isSome : units / denominator ≠ 0 := by
    have isPositive : 0 < 2 ^ (power + unitExponent) := Nat.two_pow_pos _
    omega
  have manyBits : power + unitExponent ≤ Nat.log2 (units / denominator) :=
    (Nat.le_log2 isSome).mpr manyUnits
  have isFar : power + 1022 ≤ exponent := by
    rw [unitExponent] at manyBits
    omega
  have significand : binadeSize ≤ units / (denominator <<< exponent) := by
    rw [Nat.shiftLeft_eq, ← Nat.div_div_eq_div_mul, binadeSize_eq,
      Nat.le_div_iff_mul_le (Nat.two_pow_pos _), ← Nat.pow_add]
    have sameBits : 52 + exponent = Nat.log2 (units / denominator) := by omega
    rw [sameBits]
    exact Nat.log2_self_le isSome
  calc (power + 1023) * binadeSize ≤ (exponent + 1) * binadeSize :=
        Nat.mul_le_mul_right _ (by omega)
    _ = exponent * binadeSize + binadeSize := Nat.succ_mul _ _
    _ ≤ exponent * binadeSize + units / (denominator <<< exponent) :=
        Nat.add_le_add_left significand _
    _ ≤ exponent * binadeSize + roundedQuotient units
        (denominator <<< exponent) :=
        Nat.add_le_add_left (quotient_le_roundedQuotient _ _) _

/-! ## Doubles -/

theorem Double.atPlace_eq_finite {negative sign : Bool} {place : Nat}
    {magnitude : Magnitude}
    (isFinite : atPlace negative place = .finite sign magnitude) :
    sign = negative ∧ magnitude.val = place := by
  unfold atPlace at isFinite
  split at isFinite
  next =>
    obtain ⟨rfl, rfl⟩ := Double.finite.inj isFinite
    exact ⟨rfl, rfl⟩
  next => cases isFinite

/-- The place of two to the power of 63. -/
def greatPlace : Nat := (63 + 1023) * binadeSize

/-- The double nearest to a great number is great. -/
theorem greatPlace_le_toDouble {negative sign : Bool} {coefficient : Nat}
    (isGreat : 2 ^ 63 ≤ coefficient) {magnitude : Magnitude}
    (isFinite : Scaled.toDouble ⟨negative, coefficient, 0⟩ =
      .finite sign magnitude) :
    greatPlace ≤ magnitude.val := by
  unfold Scaled.toDouble at isFinite
  dsimp only at isFinite
  split at isFinite
  next isSmall =>
    rcases Bool.or_eq_true_iff.mp isSmall with isZero | isShort
    · have zero : coefficient = 0 := of_decide_eq_true isZero
      omega
    · have short := of_decide_eq_true isShort
      rw [underflowPower] at short
      omega
  next =>
    split at isFinite
    next => cases isFinite
    next =>
      rw [(Double.atPlace_eq_finite isFinite).2]
      exact le_nearestPlace (by decide) (by simpa using isGreat)

/-! ## Doubles computed stepwise -/

theorem digitValue?_lt {char : Char} {digit : Nat}
    (isDigit : Text.Ascii.digitValue? char = some digit) : digit < 10 := by
  unfold Text.Ascii.digitValue? at isDigit
  split at isDigit
  next inRange =>
    obtain rfl := Option.some.inj isDigit
    simp only [Text.Ascii.isDigit, Bool.and_eq_true,
      decide_eq_true_eq] at inRange
    have upper : char.toNat ≤ '9'.toNat := inRange.2
    have nine : '9'.toNat = 57 := rfl
    have zero : '0'.toNat = 48 := rfl
    omega
  next => cases isDigit

/-- Of the digits of a number either all are taken, or so many that the number
they make, which is not greater, has 61 bits. -/
theorem appendDigits_spec {before digits : List Char} {value result : Nat}
    (hasBefore : Text.Numeral.valueOf? Text.Ascii.digitValue? 10 before =
      some value)
    (hasValue : Text.Numeral.valueOf? Text.Ascii.digitValue? 10
      (before ++ digits) = some result) :
    appendDigits value digits = (result, []) ∨
      ∃ taken left, appendDigits value digits = (taken, left) ∧ left ≠ [] ∧
        2 ^ 60 ≤ taken ∧ taken ≤ result := by
  induction digits generalizing before value with
  | nil =>
      rw [List.append_nil, hasBefore] at hasValue
      exact .inl (by rw [appendDigits, Option.some.inj hasValue])
  | cons char rest ih =>
      obtain ⟨digit, isDigit⟩ := Option.isSome_iff_exists.mp
        (Text.Numeral.isSome_of_mem_of_valueOf? hasValue
          (List.mem_append_right _ List.mem_cons_self))
      have isSmall := digitValue?_lt isDigit
      have hasNext : Text.Numeral.valueOf? Text.Ascii.digitValue? 10
          (before ++ [char]) = some (value * 10 + digit) := by
        rw [Text.Numeral.valueOf?_concat, hasBefore, isDigit]
        rfl
      simp only [appendDigits, isDigit]
      split
      next =>
        rw [List.append_cons] at hasValue
        exact ih hasNext hasValue
      next isFull =>
        have size : UInt64.size = 2 ^ 64 := rfl
        have atMost :=
          Text.Numeral.valueOf?_le_append (by decide) hasBefore hasValue
        exact .inr ⟨value, char :: rest, rfl, by simp, by omega, atMost⟩

theorem appendDigits_of_decimalValue? {digits : List Char} {value : Nat}
    (hasValue : Text.Numeral.decimalValue? digits = some value) :
    appendDigits 0 digits = (value, []) ∨
      ∃ taken left, appendDigits 0 digits = (taken, left) ∧ left ≠ [] ∧
        2 ^ 60 ≤ taken ∧ taken ≤ value := by
  have nothing : Text.Numeral.valueOf? Text.Ascii.digitValue? 10 [] = some 0 :=
    rfl
  exact appendDigits_spec nothing
    (Text.Numeral.decimalValue?_eq_some.mp hasValue).2

/-- Minus zero is computed as the negative zero. -/
theorem stepwiseDouble_zero {digits : List Char}
    (isZero : Text.Numeral.decimalValue? digits = some 0) (negative : Bool) :
    (Scaled.ofLeadingDigits negative digits [] 0).stepwiseDouble =
      .atPlace negative 0 := by
  rcases appendDigits_of_decimalValue? isZero with all | ⟨taken, left, -, -,
    isLong, isShort⟩
  · simp [Scaled.ofLeadingDigits, all, appendDigits, Scaled.stepwiseDouble]
  · omega

theorem le_productPlace {first second power other : Nat}
    (isFar : (power + 1023) * binadeSize ≤ first)
    (isOtherFar : (other + 1023) * binadeSize ≤ second) :
    (power + other + 1023) * binadeSize ≤ productPlace first second := by
  refine le_nearestPlace (by decide) ?_
  have split : 2 * unitExponent + (power + other) =
      (power + unitExponent) + (other + unitExponent) := by omega
  rw [Nat.shiftLeft_eq, Nat.one_mul, ← Nat.pow_add, split, Nat.pow_add]
  exact Nat.mul_le_mul (two_pow_le_unitsAt isFar)
    (two_pow_le_unitsAt isOtherFar)

/-- A coefficient with a power of ten that is not negative is computed as one
product. -/
theorem eq_productPlace_of_stepwiseDouble {negative sign : Bool}
    {coefficient power : Nat} (isSome : coefficient ≠ 0) {magnitude : Magnitude}
    (isFinite : Scaled.stepwiseDouble ⟨negative, coefficient, power⟩ =
      .finite sign magnitude) :
    magnitude.val = productPlace (nearestPlace coefficient 1)
      (powerPlace power) := by
  have notNegative : ¬(power : Int) < 0 := by omega
  simp only [Scaled.stepwiseDouble, if_neg isSome,
    if_neg notNegative] at isFinite
  split at isFinite
  next => exact (Double.atPlace_eq_finite isFinite).2
  next => cases isFinite

/-- The double computed stepwise for a great integer is great: of its digits
enough are taken. -/
theorem greatPlace_le_stepwiseDouble {negative sign : Bool} {digits : List Char}
    {value : Nat} (hasValue : Text.Numeral.decimalValue? digits = some value)
    (isGreat : 2 ^ 63 ≤ value) {magnitude : Magnitude}
    (isFinite : (Scaled.ofLeadingDigits negative digits [] 0).stepwiseDouble =
      .finite sign magnitude) : greatPlace ≤ magnitude.val := by
  have product {coefficient power bits other : Nat}
      (isFar : 2 ^ bits ≤ coefficient) (isPower : 2 ^ other ≤ 10 ^ power)
      (enough : 63 ≤ bits + other) :
      greatPlace ≤ productPlace (nearestPlace coefficient 1)
        (powerPlace power) := by
    have first : (bits + 1023) * binadeSize ≤ nearestPlace coefficient 1 :=
      le_nearestPlace (by decide) (by simpa using isFar)
    have second : (other + 1023) * binadeSize ≤ powerPlace power :=
      le_nearestPlace (by decide) (by simpa using isPower)
    exact (Nat.mul_le_mul_right _ (by omega)).trans
      (le_productPlace first second)
  rcases appendDigits_of_decimalValue? hasValue with all | ⟨taken, left, some,
    isLeft, isLong, -⟩
  · have isScaled : Scaled.ofLeadingDigits negative digits [] 0 =
        ⟨negative, value, (0 : Nat)⟩ := by
      simp [Scaled.ofLeadingDigits, all, appendDigits]
    rw [isScaled] at isFinite
    rw [eq_productPlace_of_stepwiseDouble (by omega) isFinite]
    exact product isGreat (Nat.le_refl (2 ^ 0)) (by decide)
  · have isScaled : Scaled.ofLeadingDigits negative digits [] 0 =
        ⟨negative, taken, left.length⟩ := by
      simp [Scaled.ofLeadingDigits, some, appendDigits]
    rw [isScaled] at isFinite
    rw [eq_productPlace_of_stepwiseDouble (by omega) isFinite]
    have isPower : 2 ^ 3 ≤ 10 ^ left.length :=
      (by decide : 2 ^ 3 ≤ 10 ^ 1).trans
        (Nat.pow_le_pow_right (by decide) (List.length_pos_iff.mpr isLeft))
    exact product isLong isPower (by decide)

/-! ## Shortest decimals -/

theorem unitsAt_pred_le (place : Nat) :
    unitsAt (place - 1) ≤ unitsAt place := by
  cases place with
  | zero => exact le_rfl
  | succ before =>
      rw [Nat.add_sub_cancel, unitsAt_succ]; exact Nat.le_add_right _ _

theorem power_of_onGrid? {tie : Tie} {place : Nat} {power : Int}
    {digits : Digits} (found : onGrid? tie place power = some digits) :
    digits.power = power := by
  unfold onGrid? at found
  dsimp only at found
  split at found
  · rw [← Option.some.inj found]
  · rw [← Option.some.inj found]
  · rw [← Option.some.inj found]
  · cases found

/-- Where neighbours are more than twice a power of ten apart, the next multiple
of that power above a magnitude reads as it. -/
theorem onGrid?_isSome (tie : Tie) {place power : Nat}
    (isApart : 10 ^ power * 2 ^ (unitExponent + 1) < 2 ^ exponentAt place) :
    (onGrid? tie place power).isSome = true := by
  unfold onGrid?
  dsimp only
  generalize isStep : Nat.pow 10 (power : Int).toNat <<<
    (unitExponent + 1) = step
  have step_eq : step = 10 ^ power * 2 ^ (unitExponent + 1) := by
    rw [← isStep, Nat.shiftLeft_eq]
    rfl
  have scale_eq : Nat.pow 10 (-(power : Int)).toNat = 1 := by
    have noPower : (-(power : Int)).toNat = 0 := by omega
    rw [noPower]
  rw [scale_eq, Nat.mul_one]
  have positive : 0 < step := by
    rw [step_eq]
    exact Nat.mul_pos (Nat.pow_pos (by decide)) (Nat.two_pow_pos _)
  generalize isLower : 2 * unitsAt place / step = lower
  have below : lower * step ≤ 2 * unitsAt place := by
    rw [← isLower]
    exact Nat.div_mul_le_self _ _
  have above : 2 * unitsAt place < (lower + 1) * step := by
    rw [← isLower]
    exact Nat.lt_mul_of_div_lt (Nat.lt_succ_self _) positive
  have reads : readsAs place 1 step (lower + 1) = true := by
    have fromBelow : lowerEnd place < (lower + 1) * step := by
      have isLess := unitsAt_pred_le place
      rw [lowerEnd]
      omega
    have toAbove : (lower + 1) * step < upperEnd place := by
      rw [upperEnd, unitsAt_succ, Nat.add_one_mul]
      omega
    simp only [readsAs, Nat.mul_one]
    split
    · simp [fromBelow.le, toAbove.le]
    · simp [fromBelow, toAbove]
  rw [reads]
  cases readsAs place 1 step lower <;> rfl

theorem gridPowers_descending : gridPowers.Pairwise (· > ·) := by
  rw [gridPowers, List.pairwise_map]
  exact List.pairwise_lt_range.imp fun isLess => by omega

/-- The coarsest power of ten is taken: none is passed over that would do. -/
theorem le_power_shortest {tie : Tie} {magnitude : Magnitude}
    (isSome : magnitude.val ≠ 0) {power : Nat}
    (isPower : (power : Int) ∈ gridPowers)
    (isApart : 10 ^ power * 2 ^ (unitExponent + 1) <
      2 ^ exponentAt magnitude.val) :
    power ≤ (shortest tie magnitude).power := by
  obtain ⟨digits, isDigits⟩ :=
    Option.isSome_iff_exists.mp (onGrid?_isSome tie isApart)
  rw [shortest, if_neg isSome]
  cases found : gridPowers.findSome? (onGrid? tie magnitude.val) with
  | none =>
      rw [List.findSome?_eq_none_iff.mp found _ isPower] at isDigits
      cases isDigits
  | some first =>
      obtain ⟨before, coarsest, after, split, isFirst, none⟩ :=
        List.findSome?_eq_some_iff.mp found
      rw [Option.getD_some, power_of_onGrid? isFirst]
      have descending := gridPowers_descending
      rw [split, List.pairwise_append, List.pairwise_cons] at descending
      rw [split, List.mem_append, List.mem_cons] at isPower
      rcases isPower with isBefore | isCoarsest | isAfter
      · rw [none _ isBefore] at isDigits
        cases isDigits
      · exact isCoarsest.le
      · exact (descending.2.1.1 _ isAfter).le

/-- The shortest decimal of a great double is a multiple of a thousand. -/
theorem three_le_power_shortest (tie : Tie) {magnitude : Magnitude}
    (isGreat : greatPlace ≤ magnitude.val) :
    3 ≤ (shortest tie magnitude).power := by
  have notLow : ¬magnitude.val < binadeSize := by
    have positive := binadeSize_pos
    rw [greatPlace] at isGreat
    omega
  obtain ⟨binade, offset, isOffset, isPlace⟩ := exists_binade notLow
  have isHigh : 1085 ≤ binade := by
    have isBelow : 1086 * binadeSize < (binade + 2) * binadeSize := by
      rw [greatPlace, isPlace, Nat.add_mul binade] at isGreat
      rw [Nat.add_mul binade]
      omega
    have ordered := Nat.lt_of_mul_lt_mul_right isBelow
    omega
  have isPower : ((3 : Nat) : Int) ∈ gridPowers :=
    List.mem_map.mpr ⟨306, List.mem_range.mpr (by decide), rfl⟩
  have isApart : 10 ^ 3 * 2 ^ (unitExponent + 1) <
      2 ^ exponentAt magnitude.val := by
    have exponents : 10 + (unitExponent + 1) ≤ exponentAt magnitude.val := by
      rw [isPlace, exponentAt_binade isOffset, unitExponent]
      exact isHigh
    have isLess (bits : Nat) : 10 ^ 3 * 2 ^ bits < 2 ^ (10 + bits) := by
      rw [Nat.pow_add]
      exact Nat.mul_lt_mul_of_pos_right (by decide) (Nat.two_pow_pos bits)
    exact (isLess _).trans_le (Nat.pow_le_pow_right Nat.two_pos exponents)
  have isSome : magnitude.val ≠ 0 := by
    have positive := binadeSize_pos
    omega
  have isCoarse : ((3 : Nat) : Int) ≤ (shortest tie magnitude).power :=
    le_power_shortest isSome isPower isApart
  exact_mod_cast isCoarse

/-! ## Numerals -/

/-- The integer that the shortest decimal of a magnitude with a sign is, if it
has no fraction. -/
def writtenInteger (negative : Bool) (magnitude : Magnitude) : Int :=
  let digits := shortest .up magnitude
  let value := digits.coefficient * 10 ^ digits.power.toNat
  if negative then -(value : Int) else value

/-- Without fraction a double is written as the numeral of an integer. -/
theorem integer?_write_plain {magnitude : Magnitude}
    (isWhole : 0 ≤ (shortest .up magnitude).power) (negative : Bool) :
    Text.Numeral.integer? (Style.plain.write negative magnitude) =
      some (writtenInteger negative magnitude) := by
  unfold writtenInteger Style.write
  generalize isShortest : shortest Style.plain.tie magnitude = digits
  rw [show shortest .up magnitude = digits from isShortest] at isWhole ⊢
  obtain ⟨power, isPower⟩ := Int.eq_ofNat_of_zero_le isWhole
  have written : positional [] (Nat.toDigits 10 digits.coefficient)
      ((Nat.toDigits 10 digits.coefficient).length + digits.power) =
        Nat.toDigits 10 digits.coefficient ++ List.replicate power '0' := by
    rw [positional, if_pos (by omega), isPower, List.append_nil]
    congr 2
    omega
  have hasValue := Text.Numeral.decimalValue?_append_zeros
    (Text.Numeral.decimalValue?_toDigits digits.coefficient) power
  have signed := Text.Numeral.integer?_signed negative hasValue
  rw [isPower] at written
  simpa [Style.plain, written, isPower] using signed

theorem dvd_writtenInteger {magnitude : Magnitude} {power : Nat}
    (isCoarse : power ≤ (shortest .up magnitude).power) (negative : Bool) :
    (10 ^ power : Int) ∣ writtenInteger negative magnitude := by
  have atMost : power ≤ (shortest .up magnitude).power.toNat := by omega
  have divides : (10 ^ power : Int) ∣
      ((shortest .up magnitude).coefficient * 10 ^
        (shortest .up magnitude).power.toNat : Nat) := by
    exact_mod_cast (pow_dvd_pow 10 atMost).mul_left _
  unfold writtenInteger
  cases negative with
  | true => exact (dvd_neg.mpr divides)
  | false => exact divides

end AttributeQuery.Decimal
