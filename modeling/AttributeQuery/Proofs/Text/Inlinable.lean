import Mathlib
import AttributeQuery.Text.Inlinable
import AttributeQuery.Text.LikePattern

/-!
# Texts that can be inlined

A text without quotes and backslashes can be inlined. A pattern can be when it
is that of a text without quotes and ends in a wildcard: no backslash is left
over at its end.
-/

namespace AttributeQuery.Text

namespace Inlinable

theorem fault?_eq_none_iff {chars : List Char} :
    fault? chars = none ↔ '\'' ∉ chars ∧ trailingBackslashes chars % 2 = 0 := by
  unfold fault?
  by_cases quote : '\'' ∈ chars
  · simp [quote]
  · simp [quote]

theorem trailingBackslashes_concat {char : Char} (notBackslash : char ≠ '\\')
    (chars : List Char) : trailingBackslashes (chars ++ [char]) = 0 := by
  simp [trailingBackslashes, notBackslash]

/-- A text without quotes and backslashes can be inlined. -/
theorem fault?_eq_none {chars : List Char} (noQuote : '\'' ∉ chars)
    (noBackslash : '\\' ∉ chars) :
    fault? chars = none := by
  refine fault?_eq_none_iff.mpr ⟨noQuote, ?_⟩
  cases chars using List.reverseRecOn with
  | nil => rfl
  | append_singleton before last =>
      have notBackslash : last ≠ '\\' :=
        fun same => noBackslash (by simp [same])
      rw [trailingBackslashes_concat notBackslash]

end Inlinable

namespace LikePattern

/-- Escaping adds nothing but backslashes. -/
theorem mem_escapeChars {char : Char} {chars : List Char}
    (notBackslash : char ≠ '\\') (member : char ∈ escapeChars chars) :
    char ∈ chars := by
  induction chars with
  | nil => exact member
  | cons first rest ih =>
      unfold escapeChars at member
      split at member
      next =>
        rcases List.mem_cons.mp member with isBackslash | later
        · exact absurd isBackslash notBackslash
        · exact List.mem_cons.mpr ((List.mem_cons.mp later).imp_right ih)
      next => exact List.mem_cons.mpr ((List.mem_cons.mp member).imp_right ih)

/-- The pattern of a text that can be inlined can be inlined before a
wildcard. -/
theorem fault?_escape_wildcard {text : String}
    (inlinable : Inlinable.fault? text.toList = none) :
    Inlinable.fault? (escape text ++ "%").toList = none := by
  have noQuote := (Inlinable.fault?_eq_none_iff.mp inlinable).1
  have wildcard : "%".toList = ['%'] := rfl
  rw [Inlinable.fault?_eq_none_iff, String.toList_append, wildcard]
  refine ⟨fun member =>
    ?_, by rw [Inlinable.trailingBackslashes_concat (by decide)]⟩
  rcases List.mem_append.mp member with inPattern | isWildcard
  · exact noQuote
      (mem_escapeChars (by decide) (by simpa [escape] using inPattern))
  · exact absurd isWildcard (by decide)

/-- The pattern of a text that can be inlined can be inlined between
wildcards. -/
theorem fault?_wildcard_escape_wildcard {text : String}
    (inlinable : Inlinable.fault? text.toList = none) :
    Inlinable.fault? ("%" ++ escape text ++ "%").toList = none := by
  obtain ⟨noQuote, even⟩ :=
    Inlinable.fault?_eq_none_iff.mp (fault?_escape_wildcard inlinable)
  have wildcard : "%".toList = ['%'] := rfl
  rw [Inlinable.fault?_eq_none_iff]
  simp only [String.toList_append, wildcard, List.append_assoc] at noQuote ⊢
  refine ⟨by simpa using noQuote, ?_⟩
  rw [← List.append_assoc, Inlinable.trailingBackslashes_concat (by decide)]

end LikePattern

end AttributeQuery.Text
