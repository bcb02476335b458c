import AttributeQuery.Proofs.Sql.Token
import AttributeQuery.Sql.Dialect

/-!
# Texts that spell tokens

A text spells tokens when they are what it is scanned as, and it says what may
follow it: a text that ends between two tokens may be followed by anything, one
that ends with a token only by a character that cannot belong to it. Spelled
texts put one after the other spell their tokens one after the other.
-/

namespace AttributeQuery.Sql

namespace Scan

@[simp] theorem run_nil (scan : Scan) : scan.run [] = ([], scan) := rfl

theorem run_cons (scan : Scan) (char : Char) (rest : List Char) :
    scan.run (char :: rest) =
      ((scan.step char).1 ++ ((scan.step char).2.run rest).1,
        ((scan.step char).2.run rest).2) := rfl

theorem step_between (char : Char) : between.step char = start char := rfl

/-- Reading a text in two parts is the same as reading it at once. -/
theorem run_append (scan : Scan) (first second : List Char) :
    scan.run (first ++ second) =
      ((scan.run first).1 ++ ((scan.run first).2.run second).1,
        ((scan.run first).2.run second).2) := by
  induction first generalizing scan with
  | nil => simp
  | cons char rest ih =>
      simp only [List.cons_append, run_cons, ih, List.append_assoc]

/-- A character that belongs to the token so far completes nothing. -/
theorem run_cons_of_extend {scan next : Scan} {char : Char}
    (extended : scan.extend? char = some next) (rest : List Char) :
    scan.run (char :: rest) = next.run rest := by
  simp [run_cons, step, extended]

/-- A character that does not belong to the token so far is read as one that
stands after it. -/
theorem run_cons_of_extend_none {scan : Scan} {char : Char}
    (finished : scan.extend? char = none) (rest : List Char) :
    scan.run (char :: rest) =
      (scan.finish ++ (between.run (char :: rest)).1,
        (between.run (char :: rest)).2) := by
  have stepped : scan.step char =
      (scan.finish ++ (start char).1, (start char).2) := by
    rw [step, finished]
  rw [run_cons, run_cons, stepped, step_between, List.append_assoc]

/-- A character that belongs to no unfinished token but a quoted text or an
operator. -/
def isBoundary (char : Char) : Bool :=
  [' ', '(', ')', ',', '.', ':'].contains char

/-- Whether every boundary character ends the token read so far. -/
def isSettled : Scan → Bool
  | .operator _ => false
  | .quoted _ => false
  | _ => true

theorem extend?_boundary {scan : Scan} {char : Char}
    (settled : scan.isSettled = true) (boundary : isBoundary char = true) :
    scan.extend? char = none := by
  have isOneOf : char = ' ' ∨ char = '(' ∨ char = ')' ∨ char = ',' ∨
      char = '.' ∨ char = ':' := by
    simpa [isBoundary] using boundary
  rcases isOneOf with rfl | rfl | rfl | rfl | rfl | rfl <;> cases scan <;>
    first
    | rfl
    | simp [isSettled] at settled

end Scan

/-- Whether a text starts with a boundary character. -/
def startsApart : List Char → Bool
  | [] => false
  | char :: _ => Scan.isBoundary char

theorem startsApart_append {first : String}
    (apart : startsApart first.toList = true) (second : String) :
    startsApart (first ++ second).toList = true := by
  rw [String.toList_append]
  cases chars : first.toList with
  | nil => simp [chars, startsApart] at apart
  | cons char rest => simpa [chars, startsApart] using apart

theorem Scan.run_of_startsApart {scan : Scan} {text : List Char}
    (settled : scan.isSettled = true) (apart : startsApart text = true) :
    scan.run text =
      (scan.finish ++ (between.run text).1, (between.run text).2) := by
  cases text with
  | nil => simp [startsApart] at apart
  | cons char rest =>
      exact run_cons_of_extend_none (extend?_boundary settled apart) rest

/-- What may follow a text: anything, or only a boundary character. -/
inductive Ending where
  | free
  | settled
  deriving DecidableEq, Repr

/-- The unfinished tokens that an ending admits. -/
def Ending.Admits : Ending → Scan → Prop
  | .free, last => last = .between
  | .settled, last => last.isSettled = true

theorem Ending.Admits.isSettled {ending : Ending} {last : Scan}
    (admits : ending.Admits last) : last.isSettled = true := by
  cases ending with
  | free => rw [show last = .between from admits]; rfl
  | settled => exact admits

/-- What a text is scanned as, and what may follow it. -/
def Spells (text : List Char) (spelled : List Token) (ending : Ending) : Prop :=
  ∃ complete last, Scan.run .between text = (complete, last) ∧
    ending.Admits last ∧
    complete ++ last.finish = spelled

namespace Spells

variable {first second text : List Char}
  {spelled firstTokens secondTokens : List Token}
variable {ending firstEnding : Ending}

theorem nil : Spells [] [] .free :=
  ⟨[], .between, rfl, rfl, rfl⟩

/-- A text that ends between two tokens. -/
theorem of_run (scanned : Scan.run .between text = (spelled, .between)) :
    Spells text spelled .free :=
  ⟨spelled, .between, scanned, rfl, by simp [Scan.finish]⟩

/-- A text that ends with a token. -/
theorem of_run_settled {complete : List Token} {last : Scan}
    (scanned : Scan.run .between text = (complete, last))
    (settled : last.isSettled = true) :
    Spells text (complete ++ last.finish) .settled :=
  ⟨complete, last, scanned, settled, rfl⟩

theorem settle (spells : Spells text spelled ending) :
    Spells text spelled .settled := by
  obtain ⟨complete, last, scanned, admits, rfl⟩ := spells
  exact ⟨complete, last, scanned, admits.isSettled, rfl⟩

/-- The tokens of a spelled text. -/
theorem tokens_eq {string : String}
    (spells : Spells string.toList spelled ending) :
    tokens string = spelled := by
  obtain ⟨complete, last, scanned, -, rfl⟩ := spells
  simp [tokens, scanned]

/-- Spelled texts next to each other, where the first may be followed by
anything or the second starts apart. -/
theorem append (spellsFirst : Spells first firstTokens firstEnding)
    (joint : firstEnding = .free ∨ startsApart second = true)
    (spellsSecond : Spells second secondTokens ending) :
    Spells (first ++ second) (firstTokens ++ secondTokens) ending := by
  obtain ⟨complete, last, scanned, admits, rfl⟩ := spellsFirst
  obtain ⟨later, finalScan, scannedSecond, admitsSecond, rfl⟩ := spellsSecond
  refine ⟨complete ++ (last.finish ++ later), finalScan, ?_,
    admitsSecond, by simp⟩
  rcases joint with rfl | apart
  · rw [show last = .between from admits]
    simp [Scan.run_append, scanned, scannedSecond,
      show last = .between from admits, Scan.finish]
  · rw [Scan.run_append, scanned,
      Scan.run_of_startsApart admits.isSettled apart, scannedSecond]

end Spells

/-! ## Words -/

/-- A name that is scanned as one word: a letter or underscore, then letters,
digits or underscores. -/
def IsWord (name : String) : Prop :=
  ∃ first rest, name.toList = first :: rest ∧
    Text.Identifier.isStart first = true ∧
    ∀ char ∈ rest, Text.Identifier.isContinuation char = true

/-- A plain identifier is a word. -/
theorem IsWord.of_isIdentifier {name : String}
    (identifier : Text.Identifier.isIdentifier name = true) : IsWord name := by
  unfold Text.Identifier.isIdentifier at identifier
  cases chars : name.toList with
  | nil => simp [chars, Text.Identifier.isIdentifierChars] at identifier
  | cons first rest =>
      simp only [chars, Text.Identifier.isIdentifierChars, Bool.and_eq_true,
        List.all_eq_true] at identifier
      exact ⟨first, rest, chars, identifier.1.1, identifier.1.2⟩

theorem Scan.start_of_isStart {char : Char}
    (isStart : Text.Identifier.isStart char = true) :
    Scan.start char = ([], .word [char]) := by
  have notSpace : char ≠ ' ' := by
    rintro rfl
    exact absurd isStart (by decide)
  simp [Scan.start, notSpace, isStart]

theorem Scan.run_word {rest : List Char}
    (continues : ∀ char ∈ rest, Text.Identifier.isContinuation char = true)
    (chars : List Char) :
    Scan.run (.word chars) rest = ([], .word (chars ++ rest)) := by
  induction rest generalizing chars with
  | nil => simp
  | cons char rest ih =>
      have extended : Scan.extend? (.word chars) char =
          some (.word (chars ++ [char])) := by
        simp [Scan.extend?, Scan.isWordChar, continues char (by simp)]
      rw [Scan.run_cons_of_extend extended,
        ih fun other member => continues other (by simp [member])]
      simp

theorem Spells.word {name : String} (isWord : IsWord name) :
    Spells name.toList [.word name] .settled := by
  obtain ⟨first, rest, chars, isStart, continues⟩ := isWord
  have scanned : Scan.run .between name.toList = ([], .word name.toList) := by
    rw [chars, Scan.run_cons, Scan.step_between, Scan.start_of_isStart isStart]
    simp [Scan.run_word continues]
  simpa [Scan.finish] using Spells.of_run_settled scanned rfl

/-! ## Literals and placeholders -/

/-- The placeholder of a parameter in a dialect. -/
def Token.ofParameter : Dialect → Nat → Token
  | .postgres, index => .placeholder (some index)
  | .sqlite, _ => .placeholder none

theorem Scan.run_number {digits : List Char}
    (areDigits : ∀ char ∈ digits, Text.Ascii.isDigit char = true)
    (negative : Bool) (value : Nat) :
    Scan.run (.number negative value) digits =
      ([], .number negative (Nat.ofDigitChars 10 digits value)) := by
  induction digits generalizing value with
  | nil => simp
  | cons char rest ih =>
      have extended : Scan.extend? (.number negative value) char =
          some (.number negative (Scan.withDigit value char)) := by
        simp [Scan.extend?, areDigits char (by simp)]
      rw [Scan.run_cons_of_extend extended,
        ih fun other member => areDigits other (by simp [member]),
        Nat.ofDigitChars_cons]
      rfl

theorem Scan.run_dollar {digits : List Char}
    (areDigits : ∀ char ∈ digits, Text.Ascii.isDigit char = true)
    (value : Nat) :
    Scan.run (.dollar (some value)) digits =
      ([], .dollar (some (Nat.ofDigitChars 10 digits value))) := by
  induction digits generalizing value with
  | nil => simp
  | cons char rest ih =>
      have extended : Scan.extend? (.dollar (some value)) char =
          some (.dollar (some (Scan.withDigit value char))) := by
        simp [Scan.extend?, areDigits char (by simp)]
      rw [Scan.run_cons_of_extend extended,
        ih fun other member => areDigits other (by simp [member]),
        Nat.ofDigitChars_cons]
      rfl

theorem isDigit_of_mem_toDigits {value : Nat} {char : Char}
    (member : char ∈ Nat.toDigits 10 value) :
    Text.Ascii.isDigit char = true := by
  have isDigit := Nat.isDigit_of_mem_toDigits (by decide) (by decide) member
  simpa [Char.isDigit, Text.Ascii.isDigit, Char.le_def] using isDigit

/-- The digits of a number are a first digit and the others. -/
theorem toDigits_eq_cons (value : Nat) :
    ∃ first rest, Nat.toDigits 10 value = first :: rest ∧
      Text.Ascii.isDigit first = true ∧
      (∀ char ∈ rest, Text.Ascii.isDigit char = true) ∧
      Nat.ofDigitChars 10 rest (Scan.withDigit 0 first) = value := by
  cases digits : Nat.toDigits 10 value with
  | nil => exact absurd digits Nat.toDigits_ne_nil
  | cons first rest =>
      have areDigits : ∀ char ∈ first :: rest, Text.Ascii.isDigit char = true :=
        fun char member => isDigit_of_mem_toDigits (digits ▸ member)
      refine ⟨first, rest, rfl, areDigits first (by simp),
        fun char member => areDigits char (by simp [member]), ?_⟩
      have readBack : Nat.ofDigitChars 10 (Nat.toDigits 10 value) 0 = value :=
        Nat.ofDigitChars_ten_toDigits
      rw [digits, Nat.ofDigitChars_cons] at readBack
      exact readBack

theorem Scan.start_of_isDigit {char : Char}
    (isDigit : Text.Ascii.isDigit char = true) :
    Scan.start char = ([], .number false (Scan.withDigit 0 char)) := by
  have notSpace : char ≠ ' ' := by
    rintro rfl
    exact absurd isDigit (by decide)
  have notStart : Text.Identifier.isStart char = false := by
    have atLeast : '0' ≤ char := by simp_all [Text.Ascii.isDigit]
    have atMost : char ≤ '9' := by simp_all [Text.Ascii.isDigit]
    have notUnderscore : char ≠ '_' := by
      rintro rfl
      exact absurd atMost (by decide)
    have belowUpper : ¬ 'A' ≤ char :=
      fun above => absurd (above.trans atMost) (by decide)
    have belowLower : ¬ 'a' ≤ char :=
      fun above => absurd (above.trans atMost) (by decide)
    simp [Text.Identifier.isStart, Text.Ascii.isLetter, notUnderscore,
      belowUpper, belowLower]
  simp [Scan.start, notSpace, notStart, isDigit]

/-- The numeral of an integer is scanned as that number. -/
theorem Spells.numeral (value : Int) :
    Spells (Text.Numeral.ofInt value).toList [.number value] .settled := by
  cases value with
  | ofNat value =>
      obtain ⟨first, rest, digits, isDigit, areDigits, readBack⟩ :=
        toDigits_eq_cons value
      have scanned : Scan.run .between
          (Text.Numeral.ofInt (.ofNat value)).toList =
          ([], .number false value) := by
        simp only [Text.Numeral.ofInt, Text.Numeral.ofNat,
          String.toList_ofList, digits]
        rw [Scan.run_cons, Scan.step_between, Scan.start_of_isDigit isDigit]
        simp [Scan.run_number areDigits, readBack]
      exact Spells.of_run_settled scanned rfl
  | negSucc predecessor =>
      obtain ⟨first, rest, digits, isDigit, areDigits, readBack⟩ :=
        toDigits_eq_cons (predecessor + 1)
      have scanned : Scan.run .between
          (Text.Numeral.ofInt (.negSucc predecessor)).toList =
          ([], .number true (predecessor + 1)) := by
        have extended : Scan.extend? (.sign '-') first =
            some (.number true (Scan.withDigit 0 first)) := by
          simp [Scan.extend?, isDigit]
        simp only [Text.Numeral.ofInt, Text.Numeral.ofNat, String.toList_append,
          String.toList_ofList, digits]
        rw [show "-".toList = ['-'] from rfl, List.singleton_append,
          Scan.run_cons, Scan.step_between,
          show Scan.start '-' = ([], .sign '-') from rfl]
        simp [Scan.run_cons_of_extend extended,
          Scan.run_number areDigits, readBack]
      exact Spells.of_run_settled scanned rfl

theorem Scan.run_quoted (chars text : List Char) :
    Scan.run (.quoted chars) (Text.Quoted.double text ++ ['\'']) =
      ([], .quotedOnce (chars ++ text)) := by
  induction text generalizing chars with
  | nil => simp [Text.Quoted.double, Scan.run_cons, Scan.step, Scan.extend?]
  | cons char rest ih =>
      by_cases isQuote : char = '\''
      · subst isQuote
        have opened : Scan.extend? (.quoted chars) '\'' =
          some (.quotedOnce chars) := rfl
        have doubled : Scan.extend? (.quotedOnce chars) '\'' =
            some (.quoted (chars ++ ['\''])) := rfl
        simp only [Text.Quoted.double, List.cons_append]
        rw [Scan.run_cons_of_extend opened, Scan.run_cons_of_extend doubled, ih]
        simp
      · have extended : Scan.extend? (.quoted chars) char =
            some (.quoted (chars ++ [char])) := by
          simp [Scan.extend?, isQuote]
        rw [Text.Quoted.double]
        · rw [List.cons_append, Scan.run_cons_of_extend extended, ih]
          simp
        · exact isQuote

/-- The quoted form of a text is scanned as that text. -/
theorem Spells.quoted (text : String) :
    Spells (Text.Quoted.encode text).toList [.quoted text] .settled := by
  have scanned : Scan.run .between (Text.Quoted.encode text).toList =
      ([], .quotedOnce text.toList) := by
    simp only [Text.Quoted.encode, String.toList_ofList]
    rw [Scan.run_cons, Scan.step_between,
      show Scan.start '\'' = ([], .quoted []) from rfl]
    simp [Scan.run_quoted]
  simpa [Scan.finish] using Spells.of_run_settled scanned rfl

/-- A value written into a statement is one literal token. -/
theorem Spells.inline (value : SqlValue) :
    Spells value.inline.toList [Token.ofValue value] .settled := by
  cases value with
  | text value => exact Spells.quoted value
  | integer value => exact Spells.numeral value.toInt

/-- The placeholder of a parameter is one token. -/
theorem Spells.placeholder (dialect : Dialect) (index : Nat) :
    Spells (dialect.placeholder index).toList [Token.ofParameter dialect index]
      .settled := by
  cases dialect with
  | sqlite =>
      have scanned : Scan.run .between "?".toList =
          ([.placeholder none], .between) := by
        decide
      exact (Spells.of_run scanned).settle
  | postgres =>
      obtain ⟨first, rest, digits, isDigit, areDigits, readBack⟩ :=
        toDigits_eq_cons index
      have scanned : Scan.run .between
          (Dialect.postgres.placeholder index).toList =
          ([], .dollar (some index)) := by
        have extended : Scan.extend? (.dollar none) first =
            some (.dollar (some (Scan.withDigit 0 first))) := by
          simp [Scan.extend?, isDigit]
        simp only [Dialect.placeholder, Text.Numeral.ofNat,
          String.toList_append, String.toList_ofList, digits]
        rw [show "$".toList = ['$'] from rfl, List.singleton_append,
          Scan.run_cons, Scan.step_between,
          show Scan.start '$' = ([], .dollar none) from rfl]
        simp [Scan.run_cons_of_extend extended,
          Scan.run_dollar areDigits, readBack]
      exact Spells.of_run_settled scanned rfl

end AttributeQuery.Sql
