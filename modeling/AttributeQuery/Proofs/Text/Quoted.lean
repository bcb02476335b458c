import Mathlib
import AttributeQuery.Text.Quoted

/-!
# Quoted texts

Every text has one quoted form, and only quoted forms are read. What is refused
lacks an outer quote, is a single quote, or has an odd number of quotes in a row
somewhere between the outer ones: one of them is not paired.
-/

namespace AttributeQuery.Text.Quoted

variable {chars quoted : List Char}

/-! ## Reading what is written -/

theorem double_cons {char : Char} (notQuote : char ≠ '\'') (rest : List Char) :
    double (char :: rest) = char :: double rest := by
  rw [double]
  rintro rfl
  exact notQuote rfl

theorem undouble_double (chars : List Char) :
    undouble (double chars ++ ['\'']) = some chars := by
  induction chars with
  | nil => rfl
  | cons char rest ih =>
      by_cases isQuote : char = '\''
      · subst isQuote
        rw [double, List.cons_append, List.cons_append, undouble, ih,
          Option.map_some]
      · rw [double_cons isQuote, List.cons_append]
        have next : undouble (char :: (double rest ++ ['\''])) =
            (undouble (double rest ++ ['\''])).map (char :: ·) := by
          rw [undouble] <;> simp [isQuote]
        rw [next, ih, Option.map_some]

theorem eq_double_of_undouble (read : undouble quoted = some chars) :
    quoted = double chars ++ ['\''] := by
  fun_induction undouble quoted generalizing chars with
  | case1 => cases read
  | case2 =>
      obtain rfl := Option.some.inj read
      rfl
  | case3 rest ih =>
      obtain ⟨later, readLater, rfl⟩ := Option.map_eq_some_iff.mp read
      rw [ih readLater, double]
      rfl
  | case4 => cases read
  | case5 char rest notLast notPair notQuote ih =>
      obtain ⟨later, readLater, rfl⟩ := Option.map_eq_some_iff.mp read
      have isOther : char ≠ '\'' := by
        rintro rfl
        exact notQuote rfl
      rw [ih readLater, double_cons isOther]
      rfl

theorem undouble_eq_some_iff : undouble quoted = some chars ↔
    quoted = double chars ++ ['\''] :=
  ⟨eq_double_of_undouble, fun same => same ▸ undouble_double chars⟩

/-- Only the quoted form of a text is read as the text. -/
theorem decode_eq_some_iff {quoted text : String} :
    decode quoted = some text ↔ quoted = encode text := by
  have isEncoded : quoted = encode text ↔
      quoted.toList = '\'' :: (double text.toList ++ ['\'']) := by
    rw [← String.toList_inj, encode, String.toList_ofList]
  rw [isEncoded]
  unfold decode
  split
  next rest opened =>
    rw [opened, List.cons_inj_right, ← undouble_eq_some_iff,
      Option.map_eq_some_iff]
    constructor
    · rintro ⟨read, undoubled, rfl⟩
      rw [undoubled, String.toList_ofList]
    · intro undoubled
      exact ⟨text.toList, undoubled, String.ofList_toList⟩
  next unopened =>
    simp only [reduceCtorEq, false_iff]
    exact unopened _

/-! ## What is not paired -/

/-- An odd number of quotes in a row, with no quote on either side. -/
def HasOddRun (chars : List Char) : Prop :=
  ∃ before count after, chars = before ++ (List.replicate count '\'' ++ after) ∧
    count % 2 = 1 ∧ before.getLast? ≠ some '\'' ∧ after.head? ≠ some '\''

section Ends

variable {char last : Char}

theorem getLast?_cons_ne (differs : char ≠ last)
    (ends : chars.getLast? ≠ some last) :
    (char :: chars).getLast? ≠ some last := by
  cases chars with
  | nil => simpa using differs
  | cons next rest => rwa [List.getLast?_cons_cons]

theorem getLast?_ne_of_cons (ends : (char :: chars).getLast? ≠ some last) :
    chars.getLast? ≠ some last := by
  cases chars with
  | nil => simp
  | cons next rest => rwa [List.getLast?_cons_cons] at ends

end Ends

/-- Doubled quotes come in pairs. -/
theorem not_hasOddRun_double (chars : List Char) :
    ¬HasOddRun (double chars) := by
  rintro ⟨before, count, after, same, odd, ends, starts⟩
  induction chars generalizing before count with
  | nil =>
      obtain ⟨-, isRun, -⟩ : before = [] ∧ count = 0 ∧ after = [] := by
        simpa [double] using same
      simp [isRun] at odd
  | cons char rest ih =>
      by_cases isQuote : char = '\''
      · subst isQuote
        rw [double] at same
        match before, count with
        | [], 0 => simp at odd
        | [], 1 =>
            obtain rfl : '\'' :: double rest = after := by
              simpa [List.replicate_succ] using same
            simp at starts
        | [], count + 2 =>
            refine ih [] count ?_ (by omega) ends
            simpa [List.replicate_succ] using same
        | [only], _ =>
            obtain ⟨rfl, -⟩ : '\'' = only ∧ _ := List.cons_eq_cons.mp same
            simp at ends
        | one :: other :: before, count =>
            refine ih before count ?_ odd
              (getLast?_ne_of_cons (getLast?_ne_of_cons ends))
            exact (List.cons_eq_cons.mp (List.cons_eq_cons.mp same).2).2
      · rw [double_cons isQuote] at same
        match before, count with
        | [], 0 => simp at odd
        | [], count + 1 =>
            rw [List.replicate_succ] at same
            exact isQuote (List.cons_eq_cons.mp same).1
        | one :: before, count =>
            exact ih before count (List.cons_eq_cons.mp same).2 odd
              (getLast?_ne_of_cons ends)

/-- Characters are those of a text with its quotes doubled, or have an odd
number of quotes in a row. -/
theorem exists_eq_double_or_hasOddRun (chars : List Char) :
    (∃ text, chars = double text) ∨ HasOddRun chars := by
  induction chars using undouble.induct with
  | case1 => exact .inl ⟨[], rfl⟩
  | case2 => exact .inr ⟨[], 1, [], rfl, rfl, by simp, by simp⟩
  | case3 rest ih =>
      rcases ih with ⟨text, rfl⟩ | ⟨before, count, after, rfl,
        odd, ends, starts⟩
      · exact .inl ⟨'\'' :: text, rfl⟩
      · cases before with
        | nil =>
            -- the pair belongs to the run
            exact .inr
              ⟨[], count + 2, after, by simp [List.replicate_succ], by omega,
                ends, starts⟩
        | cons first before =>
            refine .inr ⟨'\'' :: '\'' :: first :: before, count, after, rfl,
              odd, ?_, starts⟩
            rwa [List.getLast?_cons_cons, List.getLast?_cons_cons]
  | case4 rest notEnd notPair =>
      refine .inr ⟨[], 1, rest, rfl, rfl, by simp, fun isQuote => ?_⟩
      cases rest with
      | nil => simp at isQuote
      | cons next later => exact notPair later (by simpa using isQuote)
  | case5 char rest _ _ notQuote ih =>
      have isOther : char ≠ '\'' := by
        rintro rfl
        exact notQuote rfl
      rcases ih with ⟨text, rfl⟩ | ⟨before, count, after, rfl,
        odd, ends, starts⟩
      · exact .inl ⟨char :: text, (double_cons isOther text).symm⟩
      · exact .inr
          ⟨char :: before, count, after, rfl, odd,
            getLast?_cons_ne isOther ends, starts⟩

/-- What is wrong with a text that is no quoted form. -/
inductive IsMalformed : List Char → Prop where
  | unopened {quoted : List Char} (missing : quoted.head? ≠ some '\'') :
      IsMalformed quoted
  | unclosed {quoted : List Char} (missing : quoted.getLast? ≠ some '\'') :
      IsMalformed quoted
  | lone : IsMalformed ['\'']
  | unpaired {inner : List Char} (odd : HasOddRun inner) :
      IsMalformed ('\'' :: (inner ++ ['\'']))

/-- A text is malformed unless it is the quoted form of one. -/
theorem isMalformed_iff :
    IsMalformed quoted ↔ ∀ chars,
    quoted ≠ '\'' :: (double chars ++ ['\'']) := by
  constructor
  · rintro malformed chars rfl
    generalize same : '\'' :: (double chars ++ ['\'']) = quoted at malformed
    cases malformed with
    | unopened missing => simp [← same] at missing
    | unclosed missing =>
        rw [← same, ← List.cons_append, List.getLast?_concat] at missing
        exact missing rfl
    | lone => simp at same
    | unpaired odd =>
        obtain rfl := List.append_cancel_right (List.cons_eq_cons.mp same).2
        exact not_hasOddRun_double chars odd
  · intro noForm
    by_cases opened : quoted.head? = some '\''
    · obtain ⟨rest, rfl⟩ := List.head?_eq_some_iff.mp opened
      cases rest using List.reverseRecOn with
      | nil => exact .lone
      | append_singleton inner last =>
          by_cases closed : last = '\''
          · subst closed
            refine .unpaired
              ((exists_eq_double_or_hasOddRun inner).resolve_left ?_)
            rintro ⟨chars, rfl⟩
            exact noForm chars rfl
          · refine .unclosed ?_
            rw [← List.cons_append, List.getLast?_concat]
            simpa using closed
    · exact .unopened opened

/-- A text is read from its quoted form and from nothing else; what is malformed
is refused, and nothing else is. -/
theorem decode_inverse_encode (quoted text : String) :
    (decode quoted = some text ↔ quoted = encode text) ∧
      (decode quoted = none ↔ IsMalformed quoted.toList) := by
  refine ⟨decode_eq_some_iff, ?_⟩
  rw [isMalformed_iff, Option.eq_none_iff_forall_ne_some]
  constructor
  · rintro refused chars isForm
    refine refused (String.ofList chars) (decode_eq_some_iff.mpr ?_)
    rw [encode, String.toList_ofList, ← isForm, String.ofList_toList]
  · rintro noForm text read
    refine noForm text.toList ?_
    rw [decode_eq_some_iff.mp read, encode, String.toList_ofList]

end AttributeQuery.Text.Quoted
