import AttributeQuery.Proofs.Sql.Spelling

/-!
# The lexemes of conditions

The lexemes of a condition are its tokens with its bound values in their places.
However the values are written, as placeholders or as literals, the text of the
condition is scanned as these lexemes with one token for each value.
-/

namespace AttributeQuery.Sql

/-- A token of a condition, or a value bound in it. -/
inductive Lexeme where
  | token (token : Token)
  | value (value : SqlValue)
  deriving DecidableEq

/-- The value of a lexeme that is one. -/
def Lexeme.value? : Lexeme → Option SqlValue
  | .token _ => none
  | .value bound => some bound

@[simp] theorem Lexeme.value?_token (token : Token) :
    (Lexeme.token token).value? = none := rfl

@[simp] theorem Lexeme.value?_value (bound : SqlValue) :
    (Lexeme.value bound).value? = some bound := rfl

/-- A way to write the values of a condition, each with its number, such that
each is scanned as one token. -/
structure Writer where
  write : Nat → SqlValue → String
  token : Nat → SqlValue → Token
  spells : ∀ number value,
    Spells (write number value).toList [token number value] .settled

namespace Writer

/-- Write values as the placeholders of a dialect. -/
def placeholders (dialect : Dialect) : Writer where
  write number _ := dialect.placeholder number
  token number _ := Token.ofParameter dialect number
  spells number _ := Spells.placeholder dialect number

/-- Write values as literals. -/
def literals : Writer where
  write _ value := value.inline
  token _ value := Token.ofValue value
  spells _ value := Spells.inline value

/-- The text of pieces, their first value being the one after `count`. -/
def text (writer : Writer) : Nat → List Piece → String
  | _, [] => ""
  | count, .sql text :: rest => text ++ writer.text count rest
  | count, .param value :: rest =>
      writer.write (count + 1) value ++ writer.text (count + 1) rest

/-- The tokens of lexemes, their first value being the one after `count`. -/
def fill (writer : Writer) : Nat → List Lexeme → List Token
  | _, [] => []
  | count, .token token :: rest => token :: writer.fill count rest
  | count, .value value :: rest =>
      writer.token (count + 1) value :: writer.fill (count + 1) rest

theorem text_placeholders (dialect : Dialect) (count : Nat)
    (pieces : List Piece) :
    (placeholders dialect).text count pieces =
      Condition.renderPieces dialect.placeholder count pieces := by
  induction pieces generalizing count with
  | nil => rfl
  | cons piece rest ih =>
      cases piece with
      | sql text => simp only [Writer.text, Condition.renderPieces, ih]
      | param value => simp only [Writer.text, Condition.renderPieces, ih]; rfl

theorem text_literals (count : Nat) (pieces : List Piece) :
    literals.text count pieces = Condition.inlinePieces pieces := by
  induction pieces generalizing count with
  | nil => rfl
  | cons piece rest ih =>
      cases piece with
      | sql text => simp only [Writer.text, Condition.inlinePieces, ih]
      | param value => simp only [Writer.text, Condition.inlinePieces, ih]; rfl

variable (writer : Writer)

theorem text_append (count : Nat) (first second : List Piece) :
    writer.text count (first ++ second) =
      writer.text count first ++
        writer.text (count + (Condition.params ⟨first⟩).length) second := by
  induction first generalizing count with
  | nil => simp [text, Condition.params]
  | cons piece rest ih =>
      cases piece with
      | sql text =>
          simp [Writer.text, ih, Condition.params, String.append_assoc]
      | param value =>
          simp [Writer.text, ih, Condition.params, String.append_assoc,
            Nat.add_assoc, Nat.add_comm 1]

theorem text_addText (count : Nat) (added : String) (pieces : List Piece) :
    writer.text count (Condition.addText added pieces) =
      writer.text count pieces ++ added := by
  induction pieces generalizing count with
  | nil => simp [Condition.addText, text]
  | cons piece rest ih =>
      cases rest with
      | nil => cases piece <;> simp [Condition.addText, text]
      | cons next others =>
          cases piece <;>
            simp [Condition.addText, text, ih, String.append_assoc]

theorem fill_append (count : Nat) (first second : List Lexeme) :
    writer.fill count (first ++ second) =
      writer.fill count first ++
        writer.fill
          (count + (first.filterMap Lexeme.value?).length) second := by
  induction first generalizing count with
  | nil => simp [fill]
  | cons lexeme rest ih =>
      cases lexeme with
      | token token => simp [fill, ih, List.filterMap_cons]
      | value value => simp [fill, ih, Nat.add_assoc, Nat.add_comm 1]

theorem fill_tokens (count : Nat) (spelled : List Token) :
    writer.fill count (spelled.map .token) = spelled := by
  induction spelled with
  | nil => rfl
  | cons token rest ih => simp [fill, ih]

end Writer

end AttributeQuery.Sql

namespace AttributeQuery.Condition

open Sql

theorem params_sql (condition : Condition) (text : String) :
    (condition.sql text).params = condition.params := by
  have added (pieces : List Piece) :
      params ⟨addText text pieces⟩ = params ⟨pieces⟩ := by
    induction pieces with
    | nil => rfl
    | cons piece rest ih =>
        cases rest with
        | nil => cases piece <;> simp [addText, params]
        | cons next others => cases piece <;> simp_all [addText, params]
  by_cases isEmpty : text = ""
  · simp [sql, isEmpty]
  · simp [sql, isEmpty, added]

theorem params_append (first second : Condition) :
    (first ++ second).params = first.params ++ second.params := by
  simp [params, show first ++ second = ⟨first.pieces ++ second.pieces⟩ from rfl]

theorem params_param (condition : Condition) (value : SqlValue) :
    (condition.param value).params = condition.params ++ [value] := by
  simp [params, param]

@[simp] theorem params_pieces_nil : params ⟨[]⟩ = [] := rfl

@[simp] theorem params_pieces_sql (text : String) (rest : List Piece) :
    params ⟨.sql text :: rest⟩ = params ⟨rest⟩ := rfl

@[simp] theorem params_pieces_param (value : SqlValue) (rest : List Piece) :
    params ⟨.param value :: rest⟩ = value :: params ⟨rest⟩ := rfl

theorem text_sql (writer : Writer) (count : Nat) (condition : Condition)
    (text : String) :
    writer.text count (condition.sql text).pieces =
      writer.text count condition.pieces ++ text := by
  by_cases isEmpty : text = ""
  · simp [sql, isEmpty]
  · simp [sql, isEmpty, Writer.text_addText]

theorem text_param (writer : Writer) (count : Nat) (condition : Condition)
    (value : SqlValue) :
    writer.text count (condition.param value).pieces =
      writer.text count condition.pieces ++
        writer.write (count + condition.params.length + 1) value := by
  simp [param, Writer.text_append, Writer.text]

/-- The lexemes that a condition is scanned as, however its values are written,
and what may follow it. -/
structure Spells (condition : Condition) (lexemes : List Lexeme)
    (ending : Ending) :
    Prop where
  values : lexemes.filterMap Lexeme.value? = condition.params
  plain : ∀ token, .token token ∈ lexemes → token.isPlaceholder = false
  text : ∀ (writer : Writer) count,
    Sql.Spells (writer.text count condition.pieces).toList
      (writer.fill count lexemes) ending

namespace Spells

variable {condition first second : Condition}
  {lexemes firstLexemes secondLexemes : List Lexeme}
variable {ending added : Ending}

theorem empty : Condition.empty.Spells [] .free where
  values := rfl
  plain := by simp
  text _ _ := Sql.Spells.nil

theorem settle (spells : condition.Spells lexemes ending) :
    condition.Spells lexemes .settled where
  values := spells.values
  plain := spells.plain
  text writer count := (spells.text writer count).settle

/-- A condition with text added that may follow it. -/
theorem sql (spells : condition.Spells lexemes ending) {text : String}
    {spelled : List Token}
    (joint : ending = .free ∨ startsApart text.toList = true)
    (spellsText : Sql.Spells text.toList spelled added)
    (plain : spelled.all (!·.isPlaceholder) = true) :
    (condition.sql text).Spells (lexemes ++ spelled.map .token) added where
  values := by simp [params_sql, spells.values, Lexeme.value?]
  plain token member := by
    rcases List.mem_append.mp member with before | after
    · exact spells.plain token before
    · have isSpelled : token ∈ spelled := by simpa using after
      simpa using List.all_eq_true.mp plain token isSpelled
  text writer count := by
    rw [text_sql, String.toList_append, Writer.fill_append, Writer.fill_tokens]
    exact (spells.text writer count).append joint spellsText

/-- A condition with a value added, between two tokens. -/
theorem param (spells : condition.Spells lexemes .free) (value : SqlValue) :
    (condition.param value).Spells (lexemes ++ [.value value]) .settled where
  values := by simp [params_param, spells.values, Lexeme.value?]
  plain token member := spells.plain token (by simpa using member)
  text writer count := by
    rw [text_param, String.toList_append, Writer.fill_append, spells.values]
    exact (spells.text writer count).append (.inl rfl)
      (writer.spells (count + condition.params.length + 1) value)

/-- Two conditions one after the other, the first ending between two tokens. -/
theorem append (spellsFirst : first.Spells firstLexemes .free)
    (spellsSecond : second.Spells secondLexemes ending) :
    (first ++ second).Spells (firstLexemes ++ secondLexemes) ending where
  values := by simp [params_append, spellsFirst.values, spellsSecond.values]
  plain token member := by
    rcases List.mem_append.mp member with before | after
    · exact spellsFirst.plain token before
    · exact spellsSecond.plain token after
  text writer count := by
    rw [show (first ++ second).pieces = first.pieces ++ second.pieces from rfl,
      Writer.text_append, Writer.fill_append, spellsFirst.values,
      String.toList_append]
    exact (spellsFirst.text writer count).append (.inl rfl)
      (spellsSecond.text writer (count + first.params.length))

/-- A text without values. -/
theorem raw {text : String} {spelled : List Token}
    (spellsText : Sql.Spells text.toList spelled ending)
    (plain : spelled.all (!·.isPlaceholder) = true) :
    (Condition.raw text).Spells (spelled.map .token) ending := by
  simpa [Condition.raw] using Spells.empty.sql (.inl rfl) spellsText plain

/-- The tokens of a condition with placeholders. -/
theorem tokens_render (spells : condition.Spells lexemes ending)
    (dialect : Dialect) :
    tokens (condition.render dialect) =
      (Writer.placeholders dialect).fill 0 lexemes := by
  rw [Condition.render, ← Writer.text_placeholders]
  exact (spells.text (.placeholders dialect) 0).tokens_eq

/-- The tokens of a condition with its values inlined. -/
theorem tokens_inline (spells : condition.Spells lexemes ending) :
    tokens condition.inline = Writer.literals.fill 0 lexemes := by
  rw [Condition.inline, ← Writer.text_literals 0]
  exact (spells.text .literals 0).tokens_eq

end Spells

end AttributeQuery.Condition
