import AttributeQuery.Proofs.Network.RoundTrip
import AttributeQuery.Proofs.Success
import AttributeQuery.Query.Encoding

/-!
# Encoded texts

Every text that is bound for a literal can be inlined: it is one that was
checked, or it is written with digits, letters and marks only.
-/

namespace AttributeQuery

/-! ## Numbers -/

theorem Text.Numeral.not_mem_ofInt {char : Char} (notMinus : char ≠ '-')
    (notDigit : Ascii.hexDigitValue? char = none) (value : Int) :
    char ∉ (ofInt value).toList := by
  have notIn (natural : Nat) : char ∉ Nat.toDigits 10 natural :=
    Address.not_mem_toDigits notDigit (by decide) (by decide) natural
  have minus : "-".toList = ['-'] := rfl
  cases value with
  | ofNat natural => simpa [ofInt, ofNat] using notIn natural
  | negSucc predecessor =>
      simpa [ofInt, ofNat, minus, notMinus] using notIn (predecessor + 1)

theorem Text.Numeral.fault?_ofInt (value : Int) :
    Inlinable.fault? (ofInt value).toList = none :=
  Inlinable.fault?_eq_none (not_mem_ofInt (by decide) (by decide) value)
    (not_mem_ofInt (by decide) (by decide) value)

namespace Decimal

/-- Digits with a point among them are padded with nothing but zeros. -/
theorem mem_positional {char : Char} {digits : List Char} {pointAt : Int}
    (member : char ∈ positional [] digits pointAt) :
    char ∈ digits ∨ char = '0' ∨ char = '.' := by
  unfold positional at member
  split at member
  next =>
    simp only [List.append_nil, List.mem_append, List.mem_replicate] at member
    exact member.imp_right fun isZero => .inl isZero.2
  next =>
    split at member
    next =>
      simp only [List.mem_append, List.mem_cons] at member
      rcases member with before | isPoint | after
      · exact .inl (List.mem_of_mem_take before)
      · exact .inr (.inr isPoint)
      · exact .inl (List.mem_of_mem_drop after)
    next =>
      simp only [List.mem_cons, List.mem_append, List.mem_replicate] at member
      rcases member with isZero | isPoint | isPadding | isDigit
      · exact .inr (.inl isZero)
      · exact .inr (.inr isPoint)
      · exact .inr (.inl isPadding.2)
      · exact .inl isDigit

theorem Style.not_mem_write_plain {char : Char} (notMinus : char ≠ '-')
    (notPoint : char ≠ '.') (notDigit : Text.Ascii.hexDigitValue? char = none)
    (negative : Bool) (magnitude : Magnitude) :
    char ∉ (Style.plain.write negative magnitude).toList := by
  have notZero : char ≠ '0' := by
    intro isZero
    rw [isZero] at notDigit
    exact absurd notDigit (by decide)
  have notWritten (digits : Nat) (pointAt : Int) :
      char ∉ positional [] (Nat.toDigits 10 digits) pointAt := by
    intro member
    rcases mem_positional member with isDigit | isZero | isPoint
    · exact Address.not_mem_toDigits notDigit (by decide) (by decide) _ isDigit
    · exact notZero isZero
    · exact notPoint isPoint
  cases negative with
  | false => simpa [Style.write, Style.plain] using notWritten _ _
  | true => simpa [Style.write, Style.plain, notMinus] using notWritten _ _

theorem Double.fault?_toText (value : Double) :
    Text.Inlinable.fault? value.toText.toList = none := by
  cases value with
  | finite negative magnitude =>
      exact Text.Inlinable.fault?_eq_none
        (Style.not_mem_write_plain (by decide) (by decide)
          (by decide) negative magnitude)
        (Style.not_mem_write_plain (by decide) (by decide)
          (by decide) negative magnitude)
  | infinite negative => cases negative <;> decide
  | notANumber => decide

end Decimal

/-! ## Literals -/

theorem requireInlinable_eq_ok {text : String} :
    requireInlinable text = .ok () ↔
      Text.Inlinable.fault? text.toList = none := by
  unfold requireInlinable
  cases Text.Inlinable.fault? text.toList <;> simp

/-- The text a literal consists of, if it does. -/
def Literal.text? : Literal → Option String
  | .string text => some text
  | _ => none

/-- A literal is bound as a number or as a text that can be inlined, and a text
it consists of has been checked. -/
theorem encodeValue_inlinable {id : AttributeId} {domain : ValueDomain}
    {literal : Literal} {value : SqlValue}
    (encoded : encodeValue id domain literal = .ok value) :
    (∀ text, value = .text text → Text.Inlinable.fault? text.toList = none) ∧
      ∀ text, literal.text? = some text → requireInlinable text = .ok () := by
  have checked {given : String}
      (required : (do requireInlinable given; return SqlValue.text given) =
        .ok value) :
      (∀ text, value = .text text → Text.Inlinable.fault? text.toList = none) ∧
        ∀ text, (Literal.string given).text? = some text →
        requireInlinable text = .ok () := by
    obtain ⟨inlinable, returned⟩ := check_bind_eq_ok.mp required
    simp [← pure_eq_ok.mp returned, Literal.text?,
      requireInlinable_eq_ok.mp inlinable, inlinable]
  unfold encodeValue at encoded
  dsimp only at encoded
  split at encoded
  next => simp [← Except.ok.inj encoded, Literal.text?]
  next => simp [← Except.ok.inj encoded, Literal.text?,
    Text.Numeral.fault?_ofInt]
  next =>
    split at encoded
    · simp [← Except.ok.inj encoded, Literal.text?,
        Decimal.Double.fault?_toText]
    · simp at encoded
  next => simp [← Except.ok.inj encoded, Literal.text?,
    Network.fault?_canonicalText]
  next =>
    obtain ⟨inlinable, read⟩ := check_bind_eq_ok.mp encoded
    split at read
    · simp [← Except.ok.inj read, Literal.text?, Network.fault?_canonicalText,
        inlinable]
    · simp at read
  next => exact checked encoded
  next => exact checked encoded
  next => exact checked encoded
  next => exact checked encoded
  next => simp at encoded

end AttributeQuery
