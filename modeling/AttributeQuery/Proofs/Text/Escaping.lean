import Mathlib
import AttributeQuery.Text.LikePattern

/-!
# Escaped patterns

Every text has one escaped pattern, and a pattern is that of a text exactly when
it is read without a wildcard, without an escape of a character that needs none,
and without a backslash that escapes nothing.
-/

namespace AttributeQuery.Text.LikePattern

/-- What stands at one place of a pattern when backslash is read as escape. -/
inductive Mark where
  | escaped (char : Char)
  | unescaped (char : Char)
  /-- A backslash at the end, which escapes nothing. -/
  | dangling
  deriving DecidableEq, Repr

/-- A pattern read from left to right. -/
def marks : List Char → List Mark
  | [] => []
  | ['\\'] => [.dangling]
  | '\\' :: char :: rest => .escaped char :: marks rest
  | char :: rest => .unescaped char :: marks rest

/-- What may stand in the pattern of a text: a special character with an escape,
and any other character without one. -/
def Mark.IsAllowed : Mark → Prop
  | .escaped char => char = '\\' ∨ char = '%' ∨ char = '_'
  | .unescaped char => char ≠ '%' ∧ char ≠ '_'
  | .dangling => False

instance : DecidablePred Mark.IsAllowed
  | .escaped char =>
      inferInstanceAs (Decidable (char = '\\' ∨ char = '%' ∨ char = '_'))
  | .unescaped char => inferInstanceAs (Decidable (char ≠ '%' ∧ char ≠ '_'))
  | .dangling => inferInstanceAs (Decidable False)

/-- A pattern that is read as a text and escapes no more than it has to. -/
def IsEscaped (pattern : List Char) : Prop :=
  ∀ mark ∈ marks pattern, mark.IsAllowed

instance (pattern : List Char) : Decidable (IsEscaped pattern) :=
  inferInstanceAs (Decidable (∀ mark ∈ marks pattern, mark.IsAllowed))

section Reading

variable {char : Char} {rest : List Char}

theorem marks_cons (notBackslash : char ≠ '\\') (rest : List Char) :
    marks (char :: rest) = .unescaped char :: marks rest := by
  rw [marks]
  · rintro rfl
    exact absurd rfl notBackslash
  · exact fun _ _ same => absurd same notBackslash

theorem unescapeChars_cons (notBackslash : char ≠ '\\') (rest : List Char) :
    unescapeChars (char :: rest) = char :: unescapeChars rest := by
  rw [unescapeChars]
  exact fun _ _ same => absurd same notBackslash

theorem isEscaped_nil : IsEscaped [] := by simp [IsEscaped, marks]

theorem not_isEscaped_dangling : ¬IsEscaped ['\\'] := by
  simp [IsEscaped, marks, Mark.IsAllowed]

/-- An escape is followed by a special character. -/
theorem isEscaped_escape_iff :
    IsEscaped ('\\' :: char :: rest) ↔ isSpecial char = true ∧
      IsEscaped rest := by
  have allowed : (Mark.escaped char).IsAllowed ↔ isSpecial char = true := by
    simp [Mark.IsAllowed, isSpecial, or_assoc]
  rw [IsEscaped, marks, List.forall_mem_cons, allowed, IsEscaped]

/-- What stands without an escape is not special. -/
theorem isEscaped_cons_iff (notBackslash : char ≠ '\\') :
    IsEscaped (char :: rest) ↔ isSpecial char = false ∧ IsEscaped rest := by
  have allowed : (Mark.unescaped char).IsAllowed ↔ isSpecial char = false := by
    simp [Mark.IsAllowed, isSpecial, notBackslash]
  rw [IsEscaped, marks_cons notBackslash, List.forall_mem_cons,
    allowed, IsEscaped]

end Reading

/-! ## Escaping and unescaping -/

theorem ne_backslash_of_plain {char : Char} (plain : ¬isSpecial char = true) :
    char ≠ '\\' := by
  rintro rfl
  exact plain rfl

theorem unescapeChars_escapeChars (text : List Char) :
    unescapeChars (escapeChars text) = text := by
  induction text with
  | nil => rfl
  | cons char rest ih =>
      rw [escapeChars]
      split
      next => rw [unescapeChars, ih]
      next plain => rw [unescapeChars_cons (ne_backslash_of_plain plain), ih]

/-- A pattern is kept by unescaping and escaping it when it is read as an
escaped one. -/
theorem escapeChars_unescapeChars_iff (pattern : List Char) :
    escapeChars (unescapeChars pattern) = pattern ↔ IsEscaped pattern := by
  fun_induction marks pattern with
  | case1 => simp [unescapeChars, escapeChars, isEscaped_nil]
  | case2 =>
      have doubled : escapeChars (unescapeChars ['\\']) = ['\\', '\\'] := by
        decide
      simp [doubled, not_isEscaped_dangling]
  | case3 char rest ih =>
      rw [isEscaped_escape_iff, unescapeChars, escapeChars, ← ih]
      split
      next special => simp [special]
      next plain => simp [plain, ne_backslash_of_plain plain]
  | case4 char rest notLast notEscape ih =>
      have notBackslash : char ≠ '\\' := by
        rintro rfl
        cases rest with
        | nil => exact notLast rfl rfl
        | cons next later => exact notEscape next later rfl rfl
      rw [isEscaped_cons_iff notBackslash, unescapeChars_cons notBackslash,
        escapeChars, ← ih]
      split
      next special => simp [special, Ne.symm notBackslash]
      next plain => simp [plain]

example :
    ¬IsEscaped ['\\', 'a'] ∧ escapeChars (unescapeChars ['\\', 'a']) =
      ['a'] := by decide

theorem unescape_escape (text : String) : unescape (escape text) = text := by
  rw [unescape, escape, String.toList_ofList, unescapeChars_escapeChars,
    String.ofList_toList]

theorem escape_unescape_iff (pattern : String) :
    escape (unescape pattern) = pattern ↔ IsEscaped pattern.toList := by
  rw [← escapeChars_unescapeChars_iff, ← String.toList_inj, escape, unescape,
    String.toList_ofList, String.toList_ofList]

/-- Unescaping takes escaping back, so texts that differ have patterns that
differ. Escaping takes unescaping back for the escaped patterns alone, and no
other pattern is that of a text. -/
theorem unescape_inverse_escape :
    (∀ text, unescape (escape text) = text) ∧
      (∀ pattern : String, escape (unescape pattern) = pattern ↔
        IsEscaped pattern.toList) ∧
      Function.Injective escape ∧
      ∀ pattern : String, pattern ∈ Set.range escape ↔
        IsEscaped pattern.toList := by
  have isInverse : Function.LeftInverse unescape escape := unescape_escape
  refine ⟨unescape_escape, escape_unescape_iff, isInverse.injective,
    fun pattern => ?_⟩
  rw [← escape_unescape_iff]
  constructor
  · rintro ⟨text, rfl⟩
    rw [unescape_escape]
  · intro same
    exact ⟨unescape pattern, same⟩

end AttributeQuery.Text.LikePattern
