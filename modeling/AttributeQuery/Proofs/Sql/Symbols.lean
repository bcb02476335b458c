import AttributeQuery.Proofs.Sql.Lexeme
import AttributeQuery.Sql.Template

/-!
# Characters and values of conditions

What a condition consists of, wherever its text is cut into pieces: characters
and values, in order. Whatever is made of a condition depends on them alone. A
template has them too, once its column is filled in.
-/

namespace AttributeQuery

/-- The characters or the value that a piece consists of. -/
def Piece.symbols : Piece → List (Char ⊕ SqlValue)
  | .sql text => text.toList.map .inl
  | .param value => [.inr value]

namespace Condition

/-- The characters and values that a condition consists of, wherever its text is
cut. -/
def symbols (condition : Condition) : List (Char ⊕ SqlValue) :=
  condition.pieces.flatMap Piece.symbols

variable {first second : Condition}

@[simp] theorem symbols_empty : Condition.empty.symbols = [] := rfl

@[simp] theorem symbols_append (first second : Condition) :
    (first ++ second).symbols = first.symbols ++ second.symbols :=
  List.flatMap_append

@[simp] theorem symbols_param (condition : Condition) (value : SqlValue) :
    (condition.param value).symbols = condition.symbols ++ [.inr value] :=
  List.flatMap_append

@[simp] theorem symbols_sql (condition : Condition) (text : String) :
    (condition.sql text).symbols = condition.symbols ++
      text.toList.map .inl := by
  have added : ∀ pieces : List Piece,
      (addText text pieces).flatMap Piece.symbols =
      pieces.flatMap Piece.symbols ++ text.toList.map .inl := by
    intro pieces
    fun_induction addText text pieces with
    | case1 => simp [Piece.symbols]
    | case2 last => simp [Piece.symbols]
    | case3 piece rest _ ih => simp [ih]
  unfold Condition.sql
  split
  next isEmpty => simp [isEmpty]
  next => exact added condition.pieces

@[simp] theorem symbols_raw (text : String) :
    (raw text).symbols = text.toList.map .inl := by
  simp [raw]

/-- The text of characters and values, the first value being the one after
`count`. -/
def writeSymbols (write : Nat → SqlValue → String) :
    Nat → List (Char ⊕ SqlValue) → String
  | _, [] => ""
  | count, .inl char :: rest =>
      String.singleton char ++ writeSymbols write count rest
  | count, .inr value :: rest =>
      write (count + 1) value ++ writeSymbols write (count + 1) rest

theorem writeSymbols_chars_append (write : Nat → SqlValue → String)
    (count : Nat) (chars : List Char) (rest : List (Char ⊕ SqlValue)) :
    writeSymbols write count (chars.map .inl ++ rest) =
      String.ofList chars ++ writeSymbols write count rest := by
  induction chars with
  | nil => simp
  | cons char others ih =>
      simp only [List.map_cons, List.cons_append, writeSymbols, ih]
      rw [← String.append_assoc]
      congr 1
      simp

/-- What stands after characters and values is numbered from the values among
them. -/
theorem writeSymbols_append (write : Nat → SqlValue → String) (count : Nat)
    (before after : List (Char ⊕ SqlValue)) :
    writeSymbols write count (before ++ after) =
      writeSymbols write count before ++
        writeSymbols write
          (count + (before.filterMap Sum.getRight?).length) after := by
  induction before generalizing count with
  | nil => simp [writeSymbols]
  | cons symbol rest ih =>
      cases symbol with
      | inl char =>
          simp [writeSymbols, ih, String.append_assoc, List.filterMap_cons]
      | inr value =>
          simp [writeSymbols, ih, String.append_assoc, Nat.add_assoc,
            Nat.add_comm 1]

/-- What a writer makes of pieces depends on their characters and values. -/
theorem text_eq_writeSymbols (writer : Sql.Writer) (count : Nat)
    (pieces : List Piece) :
    writer.text count pieces = writeSymbols writer.write count
      (pieces.flatMap Piece.symbols) := by
  induction pieces generalizing count with
  | nil => rfl
  | cons piece rest ih =>
      cases piece with
      | sql text =>
          rw [List.flatMap_cons, Piece.symbols, writeSymbols_chars_append, ← ih]
          simp [Sql.Writer.text]
      | param value =>
          simp only [List.flatMap_cons, Piece.symbols, List.singleton_append,
            writeSymbols, Sql.Writer.text, ih]

theorem render_eq_writeSymbols (condition : Condition) (dialect : Dialect) :
    condition.render dialect =
      writeSymbols (fun number _ => dialect.placeholder number) 0
        condition.symbols := by
  rw [render, ← Sql.Writer.text_placeholders, text_eq_writeSymbols]
  rfl

theorem inline_eq_writeSymbols (condition : Condition) :
    condition.inline = writeSymbols (fun _ value => value.inline) 0
      condition.symbols := by
  rw [inline, ← Sql.Writer.text_literals 0, text_eq_writeSymbols]
  rfl

theorem render_eq_of_symbols (same : first.symbols = second.symbols)
    (dialect : Dialect) :
    first.render dialect = second.render dialect := by
  rw [render_eq_writeSymbols, render_eq_writeSymbols, same]

theorem inline_eq_of_symbols (same : first.symbols = second.symbols) :
    first.inline = second.inline := by
  rw [inline_eq_writeSymbols, inline_eq_writeSymbols, same]

theorem params_eq_filterMap_symbols (condition : Condition) :
    condition.params = condition.symbols.filterMap Sum.getRight? := by
  unfold params symbols
  rw [List.filterMap_flatMap]
  induction condition.pieces with
  | nil => rfl
  | cons piece rest ih =>
      cases piece <;> simp [ih, Piece.symbols, Function.comp_def]

theorem params_eq_of_symbols (same : first.symbols = second.symbols) :
    first.params = second.params := by
  rw [params_eq_filterMap_symbols, params_eq_filterMap_symbols, same]

/-- Conditions of the same characters and values are scanned as the same
lexemes. -/
theorem Spells.of_symbols {lexemes : List Sql.Lexeme} {ending : Sql.Ending}
    (spells : first.Spells lexemes ending)
    (same : second.symbols = first.symbols) :
    second.Spells lexemes ending where
  values := by rw [params_eq_of_symbols same, spells.values]
  plain := spells.plain
  text writer count := by
    have written : writer.text count second.pieces =
        writer.text count first.pieces := by
      rw [text_eq_writeSymbols, text_eq_writeSymbols]
      exact congrArg _ same
    rw [written]
    exact spells.text writer count

end Condition

/-! ## Templates -/

/-- The characters or the value of a piece of a template with the column filled
in. -/
def TemplatePiece.symbols (columnName : String) :
    TemplatePiece → List (Char ⊕ SqlValue)
  | .sql text => text.toList.map .inl
  | .param value => [.inr value]
  | .column => columnName.toList.map .inl

namespace Template

theorem symbols_applyPiece (columnName : String) (applied : Condition)
    (piece : TemplatePiece) :
    (applyPiece columnName applied piece).symbols =
      applied.symbols ++ piece.symbols columnName := by
  cases piece <;> simp [applyPiece, TemplatePiece.symbols]

theorem symbols_foldl_applyPiece (columnName : String)
    (pieces : List TemplatePiece) (applied : Condition) :
    (pieces.foldl (applyPiece columnName) applied).symbols =
      applied.symbols ++ pieces.flatMap (TemplatePiece.symbols columnName) := by
  induction pieces generalizing applied with
  | nil => simp
  | cons piece rest ih =>
      rw [List.foldl_cons, ih, symbols_applyPiece, List.flatMap_cons,
        List.append_assoc]

theorem symbols_apply (template : Template) (columnName : String) :
    (template.apply columnName).symbols =
      template.pieces.flatMap (TemplatePiece.symbols columnName) :=
  symbols_foldl_applyPiece columnName template.pieces Condition.empty

/-- A condition embedded in a template has its own characters and values
there. -/
theorem symbols_conditionPieces (condition : Condition) (columnName : String) :
    (conditionPieces condition).flatMap (TemplatePiece.symbols columnName) =
      condition.symbols := by
  rw [conditionPieces, List.flatMap_map, Condition.symbols]
  refine List.flatMap_congr fun piece _ => ?_
  cases piece <;> rfl

theorem symbols_castPieces (castText : Option String) (columnName : String) :
    (castPieces castText).flatMap (TemplatePiece.symbols columnName) =
      castText.toList.flatMap fun text => text.toList.map .inl := by
  cases castText <;> simp [castPieces, TemplatePiece.symbols]

end Template

end AttributeQuery
