import AttributeQuery.Filter.Exchange
import AttributeQuery.Proofs.Decimal.Whole
import AttributeQuery.Proofs.Success
import AttributeQuery.Query.Encoding

/-!
# Integers as operands

An integer of the exchange format that has 64 bits with sign is bound as the
numeral of that integer. Any other becomes a double on the way, and is bound as
the shortest decimal of the double, which is a multiple of a thousand.
-/

namespace AttributeQuery

/-- An integer that has 64 bits with sign. -/
def IsSigned (value : Int) : Prop :=
  -0x8000000000000000 ≤ value ∧ value < 0x8000000000000000

instance (value : Int) : Decidable (IsSigned value) :=
  inferInstanceAs (Decidable (_ ∧ _))

namespace Json

/-- A number without point and exponent denotes the integer with its digits. -/
inductive Numeral.Denotes : Numeral → Int → Prop
  | integer (negative : Bool) (digits : List Char) (magnitude : Nat)
      (hasValue : Text.Numeral.decimalValue? digits = some magnitude) :
      Denotes { negative, whole := digits, isWhole := true }
        (if negative then -(magnitude : Int) else magnitude)

theorem Number.ofDouble?_eq_some {double : Decimal.Double} {number : Number} :
    ofDouble? double = some number ↔
      ∃ negative magnitude, double = .finite negative magnitude ∧
        number = .double negative magnitude := by
  cases double <;> simp [ofDouble?, eq_comm]

/-- Of the integers only minus zero is not read as one. -/
theorem Numeral.Denotes.integer?_eq {numeral : Numeral} {value : Int}
    (denotes : numeral.Denotes value) :
    numeral.integer? = some value ∨
      value = 0 ∧ numeral.integer? = none ∧
        numeral.double = .atPlace true 0 := by
  obtain ⟨negative, digits, magnitude, hasValue⟩ := denotes
  cases negative with
  | false => exact .inl (by simp [Numeral.integer?, hasValue])
  | true =>
      by_cases isZero : magnitude = 0
      · subst isZero
        exact .inr ⟨rfl, by simp [Numeral.integer?, hasValue],
          Decimal.stepwiseDouble_zero hasValue true⟩
      · exact .inl (by simp [Numeral.integer?, hasValue, isZero])

/-- A great integer, if it is computed as a double, is computed as a great
one. -/
theorem Numeral.Denotes.greatPlace_le {numeral : Numeral} {value : Int}
    (denotes : numeral.Denotes value) (isGreat : 2 ^ 63 ≤ value.natAbs)
    {sign : Bool} {magnitude : Decimal.Magnitude}
    (computed : numeral.double = .finite sign magnitude) :
    Decimal.greatPlace ≤ magnitude.val := by
  obtain ⟨negative, digits, natural, hasValue⟩ := denotes
  refine Decimal.greatPlace_le_stepwiseDouble hasValue ?_ computed
  cases negative with
  | false => simpa using isGreat
  | true => simpa using isGreat

end Json

namespace Literal

variable {numeral : Json.Numeral} {number : Json.Number} {value : Int}

/-- A number stands for an integer: a literal that is one, or the negative
zero. -/
theorem ofNumber_of_isSigned (denotes : numeral.Denotes value)
    (isSigned : IsSigned value) (read : numeral.number? = some number) :
    (∃ given : Int64, ofNumber number = .integer given ∧ given.toInt = value) ∨
      value = 0 ∧ ofNumber number = .float (.atPlace true 0) := by
  obtain ⟨lower, upper⟩ := isSigned
  unfold Json.Numeral.number? at read
  rcases denotes.integer?_eq with isInteger | ⟨isZero, noInteger, computed⟩
  · have fits : -0x8000000000000000 ≤ value ∧ value < 0x10000000000000000 := by
      omega
    simp only [isInteger, dif_pos fits, Option.some.injEq] at read
    refine .inl
      ⟨Int64.ofInt value, ?_, Int64.toInt_ofInt_of_le (by omega) (by omega)⟩
    rw [← read, ofNumber, if_pos upper]
  · simp only [noInteger, computed] at read
    obtain ⟨negative, magnitude, isFinite, rfl⟩ :=
      Json.Number.ofDouble?_eq_some.mp read
    exact .inr ⟨isZero, by rw [ofNumber, isFinite]⟩

/-- Any other integer becomes a double, which is great if it is finite. -/
theorem ofNumber_of_not_isSigned (denotes : numeral.Denotes value)
    (notSigned : ¬IsSigned value) (read : numeral.number? = some number) :
    ∃ double, ofNumber number = .float double ∧ ∀ sign magnitude,
      double = .finite sign magnitude → Decimal.greatPlace ≤ magnitude.val := by
  have isGreat : 2 ^ 63 ≤ value.natAbs := by
    unfold IsSigned at notSigned
    omega
  have ofDouble
      (isDouble : Json.Number.ofDouble? numeral.double = some number) :
      ∃ double, ofNumber number = .float double ∧ ∀ sign magnitude,
        double = .finite sign magnitude →
        Decimal.greatPlace ≤ magnitude.val := by
    obtain ⟨negative, magnitude, computed, rfl⟩ :=
      Json.Number.ofDouble?_eq_some.mp isDouble
    refine ⟨_, rfl, fun sign other same => ?_⟩
    rw [← computed] at same
    exact denotes.greatPlace_le isGreat same
  unfold Json.Numeral.number? at read
  rcases denotes.integer?_eq with isInteger | ⟨isZero, noInteger, -⟩
  · simp only [isInteger] at read
    split at read
    next fits =>
      obtain rfl := Option.some.inj read
      have notLess : ¬value < 0x8000000000000000 := by
        unfold IsSigned at notSigned
        omega
      have isLong : 2 ^ 63 ≤ value.toNat := by omega
      exact ⟨_, by rw [ofNumber, if_neg notLess],
        fun _ _ isFinite => Decimal.greatPlace_le_toDouble isLong isFinite⟩
    next => exact ofDouble read
  · simp only [noInteger] at read
    exact ofDouble read

/-- A double is bound if it is finite, in the plain style. -/
theorem encodeValue_float_eq_ok {id : AttributeId} {double : Decimal.Double}
    {bound : SqlValue}
    (encoded : encodeValue id .number (.float double) = .ok bound) :
    ∃ negative magnitude, double = .finite negative magnitude ∧
      bound = .text (Decimal.Style.plain.write negative magnitude) := by
  cases double with
  | finite negative magnitude =>
      exact ⟨negative, magnitude, rfl, (Except.ok.inj encoded).symm⟩
  | infinite _ => cases encoded
  | notANumber => cases encoded

/-- What is bound for an integer is the numeral of an integer: of the same one,
if it has 64 bits with sign, and otherwise of that which the shortest decimal of
a double is, which is a multiple of a thousand. -/
theorem encodeValue_ofNumber (denotes : numeral.Denotes value)
    (read : numeral.number? = some number) {id : AttributeId} {bound : SqlValue}
    (encoded : encodeValue id .number (ofNumber number) = .ok bound) :
    ∃ text shown, bound = .text text ∧ Text.Numeral.integer? text = some shown ∧
      (shown = value ↔ IsSigned value ∨ ∃ negative magnitude,
        ofNumber number = .float (.finite negative magnitude) ∧
          Decimal.writtenInteger negative magnitude = value) ∧
      (¬IsSigned value → 1000 ∣ shown) := by
  by_cases isSigned : IsSigned value
  · rcases ofNumber_of_isSigned denotes isSigned read with
      ⟨given, isGiven, rfl⟩ | ⟨rfl, isZero⟩
    · rw [isGiven] at encoded
      obtain rfl := Except.ok.inj encoded
      exact ⟨_, _, rfl, Text.Numeral.integer?_ofInt _,
        iff_of_true rfl (.inl isSigned),
        fun notSigned => absurd isSigned notSigned⟩
    · rw [isZero] at encoded
      have isText : encodeValue id .number (.float (.atPlace true 0)) =
        .ok (.text "-0") := rfl
      rw [isText] at encoded
      exact ⟨"-0", 0, (Except.ok.inj encoded).symm, by decide,
        iff_of_true rfl (.inl isSigned),
        fun notSigned => absurd isSigned notSigned⟩
  · obtain ⟨double, isDouble, isGreat⟩ :=
      ofNumber_of_not_isSigned denotes isSigned read
    rw [isDouble] at encoded ⊢
    obtain ⟨negative, magnitude, rfl, rfl⟩ := encodeValue_float_eq_ok encoded
    have isCoarse :=
      Decimal.three_le_power_shortest .up (isGreat negative magnitude rfl)
    have isWhole : 0 ≤ (Decimal.shortest .up magnitude).power := by omega
    refine ⟨_, _, rfl, Decimal.integer?_write_plain isWhole negative,
      ?_, fun _ => ?_⟩
    · constructor
      · exact fun same => .inr ⟨negative, magnitude, rfl, same⟩
      · rintro (isSigned | ⟨sign, other, sameDouble, same⟩)
        · contradiction
        · obtain ⟨rfl, rfl⟩ :=
            Decimal.Double.finite.inj (Literal.float.inj sameDouble)
          exact same
    · have divides : (10 : Int) ^ 3 ∣ _ :=
        Decimal.dvd_writtenInteger isCoarse negative
      exact divides

end Literal

end AttributeQuery
