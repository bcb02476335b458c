import Mathlib

/-!
# The order of UTF-8 bytes

Texts are compared character by character. That is the order of their UTF-8
bytes: no code of a character starts another one, and at the first byte in which
two codes differ the one of the smaller character has the smaller byte.
-/

namespace AttributeQuery.Text

/-- The UTF-8 bytes of a text. -/
def bytes (text : String) : List UInt8 :=
  text.toUTF8.data.toList

theorem bytes_eq (text : String) :
    bytes text = text.toList.flatMap String.utf8EncodeChar := by
  conv_lhs => rw [← String.ofList_toList (s := text)]
  rw [bytes, String.toUTF8_eq_toByteArray, String.toByteArray_ofList,
    List.utf8Encode, List.data_toByteArray]

/-- Of two numbers with four digits to the base 64 the smaller one has the
smaller digit where they first differ. -/
theorem digits_lt {value other : Nat} (below : value < other) :
    value / 262144 < other / 262144 ∨ value / 262144 = other / 262144 ∧
      (value / 4096 % 64 < other / 4096 % 64 ∨
        value / 4096 % 64 = other / 4096 % 64 ∧
        (value / 64 % 64 < other / 64 % 64 ∨ value / 64 % 64 = other / 64 % 64 ∧
          value % 64 < other % 64)) := by
  have digits (number : Nat) : number = number / 262144 * 262144 +
      number / 4096 % 64 * 4096 + number / 64 % 64 * 64 + number % 64 := by
    omega
  have valueDigits := digits value
  have otherDigits := digits other
  omega

/-- Of two characters the smaller one has the smaller code, whatever follows the
codes. -/
theorem utf8EncodeChar_append_lt {char other : Char} (below : char < other)
    (rest otherRest : List UInt8) :
    String.utf8EncodeChar char ++ rest < String.utf8EncodeChar other ++
      otherRest := by
  have belowValue : char.val.toNat < other.val.toNat := below
  have bound : other.val.toNat < 0x110000 := by
    rcases other.valid with low | ⟨-, high⟩
    · exact low.trans (by decide)
    · exact high
  have digits := digits_lt belowValue
  unfold String.utf8EncodeChar
  generalize char.val.toNat = value at *
  generalize other.val.toNat = otherValue at *
  dsimp only
  split_ifs <;>
    simp only [List.cons_append, List.nil_append, List.cons_lt_cons_iff,
      UInt8.lt_iff_toNat_lt, ← UInt8.toNat_inj, UInt8.toNat_ofNat'] <;>
    simp (disch := omega) only [Nat.mod_eq_of_lt] <;>
    omega

theorem flatMap_utf8EncodeChar_lt {chars others : List Char}
    (below : chars < others) :
    chars.flatMap String.utf8EncodeChar <
      others.flatMap String.utf8EncodeChar := by
  induction chars generalizing others with
  | nil =>
      cases others with
      | nil => simp at below
      | cons other rest =>
          obtain ⟨byte, bytes, code⟩ :=
            List.exists_cons_of_ne_nil
              (String.utf8EncodeChar_ne_nil (c := other))
          rw [List.flatMap_nil, List.flatMap_cons, code]
          exact List.nil_lt_cons byte _
  | cons char rest ih =>
      cases others with
      | nil => simp at below
      | cons other otherRest =>
          rw [List.flatMap_cons, List.flatMap_cons]
          rcases List.cons_lt_cons_iff.mp below with isBelow | ⟨rfl, later⟩
          · exact utf8EncodeChar_append_lt isBelow _ _
          · exact List.append_left_lt (ih later)

/-- Texts are in the order of their UTF-8 bytes. -/
theorem bytes_lt_bytes {text other : String} (below : text < other) :
    bytes text < bytes other := by
  rw [bytes_eq, bytes_eq]
  exact flatMap_utf8EncodeChar_lt (String.lt_iff_toList_lt.mp below)

end AttributeQuery.Text
