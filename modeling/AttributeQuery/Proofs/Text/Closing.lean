import AttributeQuery.Proofs.Query.Encoding

/-!
# Where quoted texts close

A literal is scanned from the left once its opening quote has been read. In the
plain convention the first quote closes it; in the other one a backslash takes
the next character with it, and the first quote that is not taken closes it. A
text can be inlined exactly when the quote put behind it is the one that closes
it in both conventions: counting the backslashes at the end of the text from the
right gives the state that the scanner has reached there from the left.
-/

namespace AttributeQuery.Text.Inlinable

/-- How the characters between quotes are read. -/
inductive Convention where
  /-- Backslash is an ordinary character. -/
  | plain
  /-- A backslash takes the next character with it. -/
  | backslash
  deriving DecidableEq, Repr

namespace Convention

/-- Whether a character takes the next one with it, unless it is taken
itself. -/
def takesNext : Convention → Char → Bool
  | .plain, _ => false
  | .backslash, char => char = '\\'

/-- What stands behind the quote that closes a literal, if there is one. The
first of the characters may be taken by one before it. -/
def afterClosing? (convention : Convention) : (taken : Bool) → List Char →
    Option (List Char)
  | _, [] => none
  | true, _ :: rest => convention.afterClosing? false rest
  | false, char :: rest =>
      if char = '\'' then some rest
      else convention.afterClosing? (convention.takesNext char) rest

/-- Whether the character behind some characters is taken by the last of
them. -/
def takesAfter (convention : Convention) (taken : Bool) (chars : List Char) :
    Bool :=
  chars.foldl (fun taken char => !taken && convention.takesNext char) taken

/-- A literal, with the quotes around it, closes with its very last
character. -/
def ClosesAtEnd (convention : Convention) (literal : List Char) : Prop :=
  ∃ chars, literal = '\'' :: chars ∧
    convention.afterClosing? false chars = some []

end Convention

variable {convention : Convention} {chars : List Char}

theorem takesAfter_plain : Convention.plain.takesAfter false chars = false := by
  induction chars with
  | nil => rfl
  | cons char rest ih => exact ih

theorem takesAfter_concat (convention : Convention) (taken : Bool)
    (chars : List Char) (char : Char) :
    convention.takesAfter taken (chars ++ [char]) =
      (!convention.takesAfter taken chars && convention.takesNext char) := by
  simp [Convention.takesAfter]

/-- Where no quote stands before it, a quote closes the literal unless it is
taken. -/
theorem afterClosing?_concat_quote (taken : Bool) (noQuote : '\'' ∉ chars) :
    convention.afterClosing? taken (chars ++ ['\'']) =
      if convention.takesAfter taken chars then none else some [] := by
  induction chars generalizing taken with
  | nil => cases taken <;> rfl
  | cons char rest ih =>
      obtain ⟨notQuote, noneLater⟩ := not_or.mp (mt List.mem_cons.mpr noQuote)
      cases taken with
      | true => exact ih false noneLater
      | false =>
          rw [List.cons_append, Convention.afterClosing?,
            if_neg (Ne.symm notQuote)]
          exact ih _ noneLater

/-- In the plain convention the quote behind a text closes the literal when
there is no other quote before it. -/
theorem afterClosing?_plain_iff :
    Convention.plain.afterClosing? false (chars ++ ['\'']) = some [] ↔
      '\'' ∉ chars := by
  constructor
  · intro closes member
    induction chars with
    | nil => cases member
    | cons char rest ih =>
        rw [List.cons_append, Convention.afterClosing?] at closes
        split at closes
        next => simp at closes
        next notQuote =>
          exact ih closes
            ((List.mem_cons.mp member).resolve_left (Ne.symm notQuote))
  · intro noQuote
    rw [afterClosing?_concat_quote false noQuote, takesAfter_plain]
    rfl

theorem trailingBackslashes_concat_backslash (chars : List Char) :
    trailingBackslashes (chars ++ ['\\']) = trailingBackslashes chars + 1 := by
  simp [trailingBackslashes]

/-- The number of backslashes at the end, counted from the right, is odd when
the last of them takes what follows, reading from the left. -/
theorem takesAfter_backslash_iff (chars : List Char) :
    Convention.backslash.takesAfter false chars = true ↔
      trailingBackslashes chars % 2 = 1 := by
  induction chars using List.reverseRecOn with
  | nil => decide
  | append_singleton before last ih =>
      rw [takesAfter_concat]
      by_cases isBackslash : last = '\\'
      · subst isBackslash
        have flips : (!Convention.backslash.takesAfter false before &&
            Convention.backslash.takesNext '\\') = true ↔
              ¬Convention.backslash.takesAfter false before = true := by
          simp [Convention.takesNext]
        rw [flips, ih, trailingBackslashes_concat_backslash]
        omega
      · rw [trailingBackslashes_concat isBackslash]
        simp [Convention.takesNext, isBackslash]

/-- A text passes the check exactly when, put between quotes, it closes with the
last quote in both conventions. The check counts backslashes from the right, and
the number is odd exactly when the scanner comes to the end of the text from the
left with the next character taken. -/
theorem requireInlinable_iff_closesAtEnd (text : String) :
    (requireInlinable text = .ok () ↔
      Convention.plain.ClosesAtEnd ('\'' :: (text.toList ++ ['\''])) ∧
        Convention.backslash.ClosesAtEnd ('\'' :: (text.toList ++ ['\'']))) ∧
    (Convention.backslash.takesAfter false text.toList = true ↔
      trailingBackslashes text.toList % 2 = 1) := by
  refine ⟨?_, takesAfter_backslash_iff _⟩
  have closes (convention : Convention) :
      convention.ClosesAtEnd ('\'' :: (text.toList ++ ['\''])) ↔
        convention.afterClosing? false (text.toList ++ ['\'']) = some [] := by
    simp [Convention.ClosesAtEnd]
  rw [requireInlinable_eq_ok, fault?_eq_none_iff, closes, closes,
    afterClosing?_plain_iff]
  refine and_congr_right fun noQuote => ?_
  rw [afterClosing?_concat_quote false noQuote]
  have parity := takesAfter_backslash_iff text.toList
  cases taken : Convention.backslash.takesAfter false text.toList with
  | false =>
      have notOdd : ¬trailingBackslashes text.toList % 2 = 1 := by
        simp [← parity, taken]
      simpa using notOdd
  | true =>
      have odd := parity.mp taken
      simp [odd]

/-- Two backslashes are one that is taken by the other, and a third is free to
take the closing quote. -/
example : requireInlinable "C:\\\\" = .ok () ∧
    requireInlinable "C:\\\\\\" ≠ .ok () := by
  decide

end AttributeQuery.Text.Inlinable
