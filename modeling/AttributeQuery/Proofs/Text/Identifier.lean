import Mathlib
import AttributeQuery.Text.Identifier

/-!
# What plain identifiers are

The names that are recognized as plain identifiers, by the characters they
consist of. All of these take a single byte, so that it makes no difference
whether the length of a name is counted in characters or in bytes.
-/

namespace AttributeQuery.Text.Identifier

/-- One ASCII letter or underscore, followed by at most 62 ASCII letters, digits
or underscores. -/
def IsPlain (name : String) : Prop :=
  ∃ first rest, name.toList = first :: rest ∧
    (first.isAlpha = true ∨ first = '_') ∧
    (∀ char ∈ rest, char.isAlphanum = true ∨ char = '_') ∧ rest.length ≤ 62

theorem isLetter_eq_isAlpha (char : Char) :
    Ascii.isLetter char = char.isAlpha := by
  rw [Bool.eq_iff_iff]
  simp [Ascii.isLetter, Char.isAlpha, Char.isUpper, Char.isLower,
    Char.le_def, or_comm]

theorem isDigit_eq_isDigit (char : Char) :
    Ascii.isDigit char = char.isDigit := by
  rw [Bool.eq_iff_iff]
  simp [Ascii.isDigit, Char.isDigit, Char.le_def]

theorem isStart_iff {char : Char} : isStart char = true ↔ char.isAlpha = true ∨
    char = '_' := by
  simp [isStart, isLetter_eq_isAlpha]

theorem isContinuation_iff {char : Char} :
    isContinuation char = true ↔ char.isAlphanum = true ∨ char = '_' := by
  simp [isContinuation, isLetter_eq_isAlpha, isDigit_eq_isDigit,
    Char.isAlphanum]

/-- Exactly the plain identifiers are recognized. -/
theorem isIdentifier_iff {name : String} :
    isIdentifier name = true ↔ IsPlain name := by
  unfold isIdentifier IsPlain
  cases name.toList with
  | nil => simp [isIdentifierChars]
  | cons first rest =>
      simp only [isIdentifierChars, Bool.and_eq_true, isStart_iff,
        List.all_eq_true, isContinuation_iff, decide_eq_true_eq,
        List.cons.injEq]
      constructor
      · rintro ⟨⟨start, continued⟩, short⟩
        exact ⟨first, rest, ⟨rfl, rfl⟩, start, continued,
          Nat.le_of_lt_succ short⟩
      · rintro ⟨_, _, ⟨rfl, rfl⟩, start, continued, short⟩
        exact ⟨⟨start, continued⟩, Nat.lt_succ_of_le short⟩

/-! ## Lengths in bytes -/

theorem utf8Size_eq_one {char : Char}
    (isPart : char.isAlphanum = true ∨ char = '_') :
    char.utf8Size = 1 := by
  rw [Char.utf8Size_eq_one_iff, UInt32.le_iff_toNat_le]
  rcases isPart with isAlphanum | rfl
  · simp only [Char.isAlphanum, Char.isAlpha, Char.isUpper, Char.isLower,
      Char.isDigit, Bool.or_eq_true, Bool.and_eq_true, decide_eq_true_eq,
      UInt32.le_iff_toNat_le, ge_iff_le] at isAlphanum
    have upper : 'Z'.val.toNat = 90 := rfl
    have lower : 'z'.val.toNat = 122 := rfl
    have digit : '9'.val.toNat = 57 := rfl
    have limit : (127 : UInt32).toNat = 127 := rfl
    omega
  · decide

/-- A text of characters of identifiers has a byte for each of them. -/
theorem utf8ByteSize_eq_length {name : String}
    (areParts : ∀ char ∈ name.toList, char.isAlphanum = true ∨ char = '_') :
    name.utf8ByteSize = name.toList.length := by
  have sized : ∀ {chars : List Char},
      (∀ char ∈ chars, char.isAlphanum = true ∨ char = '_') →
      String.utf8Len chars = chars.length := by
    intro chars areParts
    induction chars with
    | nil => rfl
    | cons char rest ih =>
        obtain ⟨isPart, areRest⟩ := List.forall_mem_cons.mp areParts
        rw [String.utf8Len_cons, ih areRest, utf8Size_eq_one isPart,
          List.length_cons]
  rw [← sized areParts, ← String.utf8ByteSize_ofList, String.ofList_toList]

/-- Plain identifiers are the texts of at most 63 bytes that start and continue
as such, so a limit on their bytes is the same as one on their characters. -/
theorem isPlain_iff_utf8ByteSize {name : String} :
    IsPlain name ↔
      ∃ first rest, name.toList = first :: rest ∧
        (first.isAlpha = true ∨ first = '_') ∧
        (∀ char ∈ rest, char.isAlphanum = true ∨ char = '_') ∧
        name.utf8ByteSize ≤ 63 := by
  have sized {first : Char} {rest : List Char}
      (chars : name.toList = first :: rest)
      (start : first.isAlpha = true ∨ first = '_')
      (continued : ∀ char ∈ rest, char.isAlphanum = true ∨ char = '_') :
      name.utf8ByteSize = rest.length + 1 := by
    have isPart : first.isAlphanum = true ∨ first = '_' := by
      simpa [Char.isAlphanum, or_assoc] using start.imp_left Or.inl
    rw [utf8ByteSize_eq_length
      (by rw [chars]; exact List.forall_mem_cons.mpr ⟨isPart, continued⟩),
      chars, List.length_cons]
  constructor
  · rintro ⟨first, rest, chars, start, continued, short⟩
    exact ⟨first, rest, chars, start,
      continued, by rw [sized chars start continued]; omega⟩
  · rintro ⟨first, rest, chars, start, continued, short⟩
    rw [sized chars start continued] at short
    exact ⟨first, rest, chars, start, continued, by omega⟩

end AttributeQuery.Text.Identifier
