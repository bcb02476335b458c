import AttributeQuery.Proofs.Sql.Numbering
import AttributeQuery.Proofs.Sql.Symbols

/-!
# Rendering in one pass

A condition can be rendered after others in one pass, which keeps the values it
meets and numbers the placeholder of each by them. It gives the text and the
values of the condition. The placeholders stand where the values do, with the
numbers from one on.
-/

namespace AttributeQuery

open Sql

/-- The text and the values that have been rendered so far. -/
structure Rendering where
  text : String := ""
  values : List SqlValue := []
  deriving DecidableEq

namespace Rendering

/-- Render one more piece. A value is kept, and the number of its placeholder is
the number of values there are then. -/
def add (dialect : Dialect) (rendering : Rendering) : Piece → Rendering
  | .sql text => { rendering with text := rendering.text ++ text }
  | .param value =>
      let values := rendering.values ++ [value]
      { text := rendering.text ++ dialect.placeholder values.length, values }

/-- A piece adds its text, numbered from the values before it, and its value. -/
theorem add_eq (dialect : Dialect) (rendering : Rendering) (piece : Piece) :
    rendering.add dialect piece =
      { text := rendering.text ++
          (Writer.placeholders dialect).text rendering.values.length [piece]
        values := rendering.values ++ Condition.params ⟨[piece]⟩ } := by
  cases piece with
  | sql text => simp [add, Writer.text]
  | param value => simp [add, Writer.text, Writer.placeholders]

end Rendering

namespace Condition

/-- Render a condition after what has been rendered so far. -/
def renderInto (condition : Condition) (dialect : Dialect)
    (rendering : Rendering) : Rendering :=
  condition.pieces.foldl (Rendering.add dialect) rendering

/-- A condition adds its text, numbered from the values before it, and its
values. -/
theorem renderInto_eq (condition : Condition) (dialect : Dialect)
    (rendering : Rendering) :
    condition.renderInto dialect rendering =
      { text :=
        rendering.text ++ condition.renderAfter dialect rendering.values.length
        values := rendering.values ++ condition.params } := by
  obtain ⟨pieces⟩ := condition
  rw [renderInto, renderAfter_eq_text]
  induction pieces generalizing rendering with
  | nil => simp [Writer.text]
  | cons piece rest ih =>
      have text : (Writer.placeholders dialect).text rendering.values.length
          (piece :: rest) =
          (Writer.placeholders dialect).text rendering.values.length [piece] ++
            (Writer.placeholders dialect).text
              (rendering.values.length + (params ⟨[piece]⟩).length) rest :=
        Writer.text_append _ _ [piece] rest
      have values : params ⟨piece :: rest⟩ = params ⟨[piece]⟩ ++
          params ⟨rest⟩ :=
        params_append ⟨[piece]⟩ ⟨rest⟩
      rw [List.foldl_cons, ih, Rendering.add_eq, text, values,
        List.length_append, String.append_assoc, List.append_assoc]

/-- Rendering a condition by itself gives its text and its values. -/
theorem renderInto_start (condition : Condition) (dialect : Dialect) :
    condition.renderInto dialect {} =
      ⟨condition.render dialect, condition.params⟩ := by
  rw [renderInto_eq, renderAfter_eq_text, Writer.text_placeholders, render]
  simp

/-! ## Numbered placeholders -/

/-- The text of pieces before their first value, and each value with the text
that follows it. -/
def stretches : List Piece → String × List (SqlValue × String)
  | [] => ("", [])
  | .sql text :: rest => (text ++ (stretches rest).1, (stretches rest).2)
  | .param value :: rest =>
      ("", (value, (stretches rest).1) :: (stretches rest).2)

theorem params_eq_stretches (condition : Condition) :
    condition.params = (stretches condition.pieces).2.map Prod.fst := by
  obtain ⟨pieces⟩ := condition
  fun_induction stretches pieces with
  | case1 => rfl
  | case2 text rest ih => exact ih
  | case3 value rest ih => simp [ih]

theorem renderPieces_eq_stretches (placeholder : Nat → String) (count : Nat)
    (pieces : List Piece) :
    renderPieces placeholder count pieces =
      (stretches pieces).1 ++
        String.join ((stretches pieces).2.mapIdx fun index stretch =>
          placeholder (count + index + 1) ++ stretch.2) := by
  induction pieces generalizing count with
  | nil => simp [renderPieces, stretches]
  | cons piece rest ih =>
      cases piece with
      | sql text => simp only [renderPieces, stretches, ih, String.append_assoc]
      | param value =>
          simp only [renderPieces, stretches, ih, List.mapIdx_cons,
            String.join_cons, String.append_assoc,
            String.empty_append, Nat.add_zero]
          simp only [Nat.add_assoc, Nat.add_comm 1]

/-- What is rendered has the placeholders in place of the values, with the
numbers from one on. -/
theorem render_eq_stretches (condition : Condition) (dialect : Dialect) :
    condition.render dialect =
      (stretches condition.pieces).1 ++
        String.join ((stretches condition.pieces).2.mapIdx fun index stretch =>
          dialect.placeholder (index + 1) ++ stretch.2) := by
  rw [render, renderPieces_eq_stretches]
  simp only [Nat.zero_add]

/-! ## Texts by characters and values -/

theorem renderAfter_eq_writeSymbols (condition : Condition) (dialect : Dialect)
    (shift : Nat) :
    condition.renderAfter dialect shift =
      writeSymbols (fun number _ => dialect.placeholder number) shift
        condition.symbols := by
  rw [renderAfter_eq_text, text_eq_writeSymbols]
  rfl

/-- Conditions one after the other are written as the characters and values of
all. -/
theorem join_renderAll (dialect : Dialect) (shift : Nat)
    (conditions : List Condition) :
    String.join (renderAll dialect shift conditions) =
      writeSymbols (fun number _ => dialect.placeholder number) shift
        (conditions.flatMap symbols) := by
  induction conditions generalizing shift with
  | nil => rfl
  | cons condition rest ih =>
      rw [renderAll, String.join_cons, ih, List.flatMap_cons,
        writeSymbols_append, renderAfter_eq_writeSymbols,
        params_eq_filterMap_symbols]

end Condition

end AttributeQuery
