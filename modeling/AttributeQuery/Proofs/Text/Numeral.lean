import Mathlib
import AttributeQuery.Text.Numeral

/-!
# Digits read back

The digits of a natural number in a base are read as that number, whatever reads
the single digits of the base.
-/

namespace AttributeQuery.Text.Numeral

variable {digit? : Char → Option Nat} {base : Nat}

theorem valueOf?_concat (digits : List Char) (last : Char) :
    valueOf? digit? base (digits ++ [last]) =
      (do return (← valueOf? digit? base digits) * base + (← digit? last)) := by
  simp only [valueOf?, List.foldl_append, List.foldl_cons, List.foldl_nil]

/-- The digits of a number have its value. -/
theorem valueOf?_toDigits (isBase : 1 < base)
    (readsDigit : ∀ digit < base, digit? digit.digitChar = some digit)
    (value : Nat) :
    valueOf? digit? base (Nat.toDigits base value) = some value := by
  induction value using Nat.strongRecOn with
  | ind value ih =>
      rw [Nat.toDigits_eq_if isBase]
      split
      next isDigit => simp [valueOf?, readsDigit value isDigit]
      next notDigit =>
        have positive : 0 < value := by omega
        have lastDigit := readsDigit (value % base) (Nat.mod_lt _ (by omega))
        rw [valueOf?_concat, ih _ (Nat.div_lt_self positive isBase), lastDigit]
        simp [Nat.div_add_mod']

theorem digitValue?_digitChar :
    ∀ digit < 10, Ascii.digitValue? digit.digitChar = some digit := by
  decide

theorem hexDigitValue?_digitChar :
    ∀ digit < 16, Ascii.hexDigitValue? digit.digitChar = some digit := by
  decide

theorem decimalValue?_toDigits (value : Nat) :
    decimalValue? (Nat.toDigits 10 value) = some value := by
  have readBack := valueOf?_toDigits (by decide) digitValue?_digitChar value
  unfold decimalValue?
  split
  next isEmpty => exact absurd isEmpty Nat.toDigits_ne_nil
  next => exact readBack

theorem hexValue?_toDigits (value : Nat) :
    hexValue? (Nat.toDigits 16 value) = some value := by
  have readBack := valueOf?_toDigits (by decide) hexDigitValue?_digitChar value
  unfold hexValue?
  split
  next isEmpty => exact absurd isEmpty Nat.toDigits_ne_nil
  next => exact readBack

/-- The digits of a number are digits of its base. -/
theorem exists_digitChar_of_mem_toDigits (isBase : 1 < base) {value : Nat}
    {char : Char} (member : char ∈ Nat.toDigits base value) :
    ∃ digit < base, char = digit.digitChar := by
  induction value using Nat.strongRecOn with
  | ind value ih =>
      rw [Nat.toDigits_eq_if isBase] at member
      split at member
      next isDigit => exact ⟨value, isDigit, List.mem_singleton.mp member⟩
      next notDigit =>
        have positive : 0 < value := by omega
        cases List.mem_append.mp member with
        | inl before => exact ih _ (Nat.div_lt_self positive isBase) before
        | inr isLast =>
            exact ⟨value % base, Nat.mod_lt _ (by omega),
              List.mem_singleton.mp isLast⟩

/-- The digits of a number in a base up to sixteen are hexadecimal digits. -/
theorem hexDigitValue?_of_mem_toDigits (isBase : 1 < base) (atMost : base ≤ 16)
    {value : Nat} {char : Char} (member : char ∈ Nat.toDigits base value) :
    (Ascii.hexDigitValue? char).isSome = true := by
  obtain ⟨digit, isDigit, rfl⟩ := exists_digitChar_of_mem_toDigits isBase member
  rw [hexDigitValue?_digitChar digit (by omega)]
  rfl

/-- The digits of a positive number do not start with a zero. -/
theorem head?_toDigits_ne_zero {value : Nat} (positive : 0 < value) :
    (Nat.toDigits 10 value).head? ≠ some '0' := by
  induction value using Nat.strongRecOn with
  | ind value ih =>
      rw [Nat.toDigits_eq_if (by decide)]
      split
      next isDigit =>
        rintro isZero
        have noZero : ∀ digit < 10, 0 < digit →
          digit.digitChar ≠ '0' := by decide
        exact noZero value isDigit positive (Option.some.inj isZero)
      next notDigit =>
        rw [List.head?_append_of_ne_nil _ Nat.toDigits_ne_nil]
        exact ih (value / 10) (by omega) (by omega)

/-- A run of digits that has a value consists of digits. -/
theorem isSome_of_mem_of_valueOf? {digits : List Char} {value : Nat}
    (hasValue : valueOf? digit? base digits = some value) {char : Char}
    (member : char ∈ digits) : (digit? char).isSome = true := by
  induction digits using List.reverseRecOn generalizing value with
  | nil => simp at member
  | append_singleton before last ih =>
      rw [valueOf?_concat] at hasValue
      simp only [Option.bind_eq_bind, Option.bind_eq_some_iff] at hasValue
      obtain ⟨valueBefore, hasValueBefore, digit, isDigit, -⟩ := hasValue
      cases List.mem_append.mp member with
      | inl memberBefore => exact ih hasValueBefore memberBefore
      | inr isLast =>
          rw [List.mem_singleton.mp isLast, isDigit]
          rfl

/-- More digits do not make a number smaller. -/
theorem valueOf?_le_append (isBase : 0 < base) {before after : List Char}
    {value result : Nat} (hasBefore : valueOf? digit? base before = some value)
    (hasValue : valueOf? digit? base (before ++ after) = some result) :
    value ≤ result := by
  induction after using List.reverseRecOn generalizing result with
  | nil =>
      rw [List.append_nil, hasBefore] at hasValue
      exact (Option.some.inj hasValue).le
  | append_singleton middle last ih =>
      rw [← List.append_assoc, valueOf?_concat] at hasValue
      simp only [Option.bind_eq_bind, Option.bind_eq_some_iff] at hasValue
      obtain ⟨valueMiddle, hasMiddle, digit, -, isResult⟩ := hasValue
      obtain rfl := Option.some.inj isResult
      calc value ≤ valueMiddle := ih hasMiddle
        _ ≤ valueMiddle * base := Nat.le_mul_of_pos_right _ isBase
        _ ≤ valueMiddle * base + digit := Nat.le_add_right _ _

theorem isDigit_of_mem_of_decimalValue? {digits : List Char} {value : Nat}
    (hasValue : decimalValue? digits = some value) {char : Char}
    (member : char ∈ digits) :
    Ascii.isDigit char = true := by
  unfold decimalValue? at hasValue
  split at hasValue
  next => simp at hasValue
  next =>
    have isSome := isSome_of_mem_of_valueOf? hasValue member
    unfold Ascii.digitValue? at isSome
    split at isSome
    next isDigit => exact isDigit
    next => simp at isSome

/-! ## Whole numerals -/

theorem decimalValue?_eq_some {digits : List Char} {value : Nat} :
    decimalValue? digits = some value ↔
      digits ≠ [] ∧ valueOf? Ascii.digitValue? 10 digits = some value := by
  cases digits with
  | nil => simp [decimalValue?]
  | cons first rest => simp [decimalValue?]

/-- Zeros at the end multiply by powers of ten. -/
theorem decimalValue?_append_zeros {digits : List Char} {value : Nat}
    (hasValue : decimalValue? digits = some value) (count : Nat) :
    decimalValue? (digits ++ List.replicate count '0') =
      some (value * 10 ^ count) := by
  obtain ⟨isSome, hasValue⟩ := decimalValue?_eq_some.mp hasValue
  refine decimalValue?_eq_some.mpr
    ⟨List.append_ne_nil_of_left_ne_nil isSome _, ?_⟩
  induction count with
  | zero => simpa using hasValue
  | succ count ih =>
      have zero : Ascii.digitValue? '0' = some 0 := rfl
      rw [List.replicate_succ', ← List.append_assoc, valueOf?_concat, ih, zero]
      simp [Nat.pow_succ, Nat.mul_assoc]

/-- Digits with or without a minus sign are the numeral of an integer. -/
theorem integer?_signed (negative : Bool) {digits : List Char} {value : Nat}
    (hasValue : decimalValue? digits = some value) :
    integer? (String.ofList (if negative then '-' :: digits else digits)) =
      some (if negative then -(value : Int) else value) := by
  unfold integer?
  cases negative with
  | true => simp [hasValue]
  | false =>
      have noSign {sign : Char} (notDigit : Ascii.isDigit sign = false)
          (rest : List Char) :
          digits ≠ sign :: rest := by
        rintro rfl
        rw [isDigit_of_mem_of_decimalValue? hasValue
          List.mem_cons_self] at notDigit
        cases notDigit
      simp only [Bool.false_eq_true, if_false, String.toList_ofList]
      split
      next rest => exact absurd rfl (noSign (by decide) rest)
      next rest => exact absurd rfl (noSign (by decide) rest)
      next => simp [hasValue]

/-- The numeral of an integer is read as that integer. -/
theorem integer?_ofInt (value : Int) : integer? (ofInt value) = some value := by
  cases value with
  | ofNat natural =>
      exact integer?_signed false (decimalValue?_toDigits natural)
  | negSucc predecessor =>
      have signed :=
        integer?_signed true (decimalValue?_toDigits (predecessor + 1))
      have minus : ofInt (.negSucc predecessor) =
          String.ofList ('-' :: Nat.toDigits 10 (predecessor + 1)) := by
        rw [← String.toList_inj]
        simp [ofInt, ofNat]
      rw [minus]
      exact signed

end AttributeQuery.Text.Numeral
