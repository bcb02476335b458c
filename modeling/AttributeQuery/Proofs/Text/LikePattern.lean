import Mathlib
import AttributeQuery.Text.LikePattern

/-!
# Matching LIKE patterns

What a pattern matches. A pattern is read from the left: a percent sign stands
for any characters, an underscore for one, and backslash takes the next
character as it is. The pattern of an escaped text is read as the characters of
the text, so with wildcards around it it finds the text and nothing else.
-/

namespace AttributeQuery.Text.LikePattern

/-- What a part of a pattern stands for. -/
inductive Element where
  | char (char : Char)
  /-- Any one character. -/
  | one
  /-- Any characters, or none. -/
  | run
  deriving DecidableEq, Repr

/-- The elements that a pattern is read as. There are none when it ends in a
backslash that escapes nothing. -/
def elements? : List Char → Option (List Element)
  | [] => some []
  | ['\\'] => none
  | '\\' :: char :: rest => (elements? rest).map (.char char :: ·)
  | '%' :: rest => (elements? rest).map (.run :: ·)
  | '_' :: rest => (elements? rest).map (.one :: ·)
  | char :: rest => (elements? rest).map (.char char :: ·)

/-- Whether elements match a text as a whole. What stands for any characters may
leave any end of the text to the elements after it. -/
def accepts : List Element → List Char → Bool
  | [], text => text.isEmpty
  | .run :: rest, text => text.tails.any (accepts rest)
  | .one :: rest, _ :: text => accepts rest text
  | .char char :: rest, first :: text => char = first && accepts rest text
  | .one :: _, [] => false
  | .char _ :: _, [] => false

/-! ## Reading escaped texts -/

/-- A character without a meaning of its own stands for itself. -/
theorem elements?_plain {char : Char} (plain : isSpecial char = false)
    (rest : List Char) :
    elements? (char :: rest) = (elements? rest).map (.char char :: ·) := by
  have notSpecial : char ≠ '\\' ∧ char ≠ '%' ∧ char ≠ '_' := by
    simpa [isSpecial, and_assoc] using plain
  rw [elements?]
  · rintro rfl
    exact absurd rfl notSpecial.1
  · exact fun _ _ same => absurd same notSpecial.1
  · exact notSpecial.2.1
  · exact notSpecial.2.2

/-- An escaped text is read as its characters, whatever follows it. -/
theorem elements?_escapeChars_append (text rest : List Char) :
    elements? (escapeChars text ++ rest) =
      (elements? rest).map (text.map .char ++ ·) := by
  induction text with
  | nil => simp [escapeChars]
  | cons char text ih =>
      unfold escapeChars
      split
      next => simp [elements?, ih, Function.comp_def]
      next notSpecial =>
        rw [List.cons_append, elements?_plain (by simpa using notSpecial), ih]
        simp [Function.comp_def]

/-- The pattern of a text before a wildcard is read as the text and a run. -/
theorem elements?_escape_wildcard (text : String) :
    elements? (escape text ++ "%").toList =
      some (text.toList.map .char ++ [.run]) := by
  simp [escape, elements?, elements?_escapeChars_append]

/-- The pattern of a text between wildcards is read as the text between runs. -/
theorem elements?_wildcard_escape_wildcard (text : String) :
    elements? ("%" ++ escape text ++ "%").toList =
      some (.run :: text.toList.map .char ++ [.run]) := by
  simp [escape, elements?, elements?_escapeChars_append]

/-! ## Matching -/

theorem accepts_run {rest : List Element} {text : List Char} :
    accepts (.run :: rest) text = true ↔ ∃ remaining, remaining <:+ text ∧
      accepts rest remaining = true := by
  simp [accepts]

/-- Characters match when the text begins with them. -/
theorem accepts_chars_append {chars : List Char} {rest : List Element}
    {text : List Char} :
    accepts (chars.map .char ++ rest) text = true ↔
      ∃ remaining, text = chars ++ remaining ∧
        accepts rest remaining = true := by
  induction chars generalizing text with
  | nil => simp
  | cons char chars ih =>
      cases text with
      | nil => simp [accepts]
      | cons first text =>
          simp only [List.map_cons, List.cons_append, accepts, Bool.and_eq_true,
            decide_eq_true_eq, ih, List.cons.injEq]
          constructor
          · rintro ⟨rfl, remaining, rfl, accepted⟩
            exact ⟨remaining, ⟨rfl, rfl⟩, accepted⟩
          · rintro ⟨remaining, ⟨rfl, rfl⟩, accepted⟩
            exact ⟨rfl, remaining, rfl, accepted⟩

/-- A run at the end of a pattern matches whatever is left of a text. -/
theorem accepts_run_nil (text : List Char) : accepts [.run] text = true :=
  accepts_run.mpr ⟨[], List.nil_suffix, rfl⟩

/-- Characters before a run match the texts that begin with them. -/
theorem accepts_chars_run {chars text : List Char} :
    accepts (chars.map .char ++ [.run]) text = true ↔ chars <+: text := by
  rw [accepts_chars_append]
  constructor
  · rintro ⟨remaining, rfl, -⟩
    exact List.prefix_append chars remaining
  · rintro ⟨remaining, rfl⟩
    exact ⟨remaining, rfl, accepts_run_nil remaining⟩

/-- Characters between runs match the texts that contain them. -/
theorem accepts_run_chars_run {chars text : List Char} :
    accepts (.run :: chars.map .char ++ [.run]) text = true ↔
      chars <:+: text := by
  rw [List.cons_append, accepts_run, List.infix_iff_prefix_suffix]
  simp only [accepts_chars_run]
  exact ⟨fun ⟨remaining, isSuffix, isPrefix⟩ => ⟨remaining, isPrefix, isSuffix⟩,
    fun ⟨remaining, isPrefix, isSuffix⟩ => ⟨remaining, isSuffix, isPrefix⟩⟩

end AttributeQuery.Text.LikePattern
