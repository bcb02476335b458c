import AttributeQuery.Proofs.Sql.Lexeme

/-!
# Numbers of placeholders

Conditions that follow each other keep their texts and their values. Only the
numbers of the placeholders change: those of each condition go on from the
values that stand before it.
-/

namespace AttributeQuery

open Sql

namespace Condition

/-- The text of a condition with the numbers of its placeholders shifted. -/
def renderAfter (dialect : Dialect) (shift : Nat) (condition : Condition) :
    String :=
  renderPieces (fun number => dialect.placeholder (shift + number)) 0
    condition.pieces

/-- The texts of conditions, the numbers of the placeholders of each shifted by
the number of values before it. -/
def renderAll (dialect : Dialect) : Nat → List Condition → List String
  | _, [] => []
  | shift, condition :: rest =>
      condition.renderAfter dialect shift ::
        renderAll dialect (shift + condition.params.length) rest

/-- Numbers are shifted by starting to count later. -/
theorem renderPieces_shifted (placeholder : Nat → String) (shift count : Nat)
    (pieces : List Piece) :
    renderPieces (fun number => placeholder (shift + number)) count pieces =
      renderPieces placeholder (shift + count) pieces := by
  induction pieces generalizing count with
  | nil => rfl
  | cons piece rest ih =>
      cases piece with
      | sql text => rw [renderPieces, renderPieces, ih]
      | param value => rw [renderPieces, renderPieces, ih, Nat.add_assoc]

theorem renderAfter_eq_text (dialect : Dialect) (shift : Nat)
    (condition : Condition) :
    condition.renderAfter dialect shift =
      (Writer.placeholders dialect).text shift condition.pieces := by
  rw [renderAfter, renderPieces_shifted, Nat.add_zero, Writer.text_placeholders]

/-- Placeholders without numbers are not shifted. -/
theorem renderAfter_sqlite (shift : Nat) (condition : Condition) :
    condition.renderAfter .sqlite shift = condition.render .sqlite := rfl

theorem renderAll_sqlite (shift : Nat) (conditions : List Condition) :
    renderAll .sqlite shift conditions = conditions.map (·.render .sqlite) := by
  induction conditions generalizing shift with
  | nil => rfl
  | cons condition rest ih =>
      rw [renderAll, ih, renderAfter_sqlite, List.map_cons]

/-- Put conditions after a first one, a separator before each. -/
def appendEach (separator : String) (start : Condition)
    (conditions : List Condition) : Condition :=
  conditions.foldl (fun joined next => joined.sql separator ++ next) start

variable {separator : String}

theorem appendEach_cons (start first : Condition) (rest : List Condition) :
    appendEach separator start (first :: rest) =
      appendEach separator (start.sql separator ++ first) rest := rfl

theorem params_appendEach (start : Condition) (conditions : List Condition) :
    (appendEach separator start conditions).params =
      start.params ++ conditions.flatMap params := by
  induction conditions generalizing start with
  | nil => simp [appendEach]
  | cons first rest ih =>
      rw [appendEach_cons, ih, params_append, params_sql, List.flatMap_cons,
        List.append_assoc]

theorem params_raw (text : String) : (raw text).params = [] :=
  params_sql empty text

/-- Values with commas between them are conditions of one value each. -/
theorem paramList_cons (first : SqlValue) (rest : List SqlValue) :
    paramList none (first :: rest) =
      appendEach ", " (empty.param first) (rest.map empty.param) := by
  rw [appendEach, List.foldl_map]
  rfl

theorem params_paramList (castText : Option String) (values : List SqlValue) :
    (paramList castText values).params = values := by
  have params_cast (condition : Condition) :
      (condition.cast castText).params = condition.params := by
    cases castText with
    | none => rfl
    | some text => exact params_sql condition text
  have folded : ∀ (rest : List SqlValue) (list : Condition),
      (rest.foldl
        (fun list value => ((list.sql ", ").param value).cast castText)
        list).params = list.params ++ rest := by
    intro rest
    induction rest with
    | nil => simp
    | cons value rest ih => simp [ih, params_cast, params_param, params_sql]
  cases values with
  | nil => rfl
  | cons first rest =>
      simp [paramList, folded, params_cast, params_param, empty]

end Condition

namespace Sql.Writer

variable (writer : Writer) {separator : String}

/-- The texts of conditions that follow each other, their first value being the
one after `count`. -/
def texts : Nat → List Condition → List String
  | _, [] => []
  | count, condition :: rest =>
      writer.text count condition.pieces ::
        texts (count + condition.params.length) rest

theorem texts_placeholders (dialect : Dialect) (count : Nat)
    (conditions : List Condition) :
    (placeholders dialect).texts count conditions =
      Condition.renderAll dialect count conditions := by
  induction conditions generalizing count with
  | nil => rfl
  | cons condition rest ih =>
      rw [texts, Condition.renderAll, ih, Condition.renderAfter_eq_text]

theorem texts_literals (count : Nat) (conditions : List Condition) :
    literals.texts count conditions = conditions.map Condition.inline := by
  induction conditions generalizing count with
  | nil => rfl
  | cons condition rest ih =>
      rw [texts, ih, text_literals, List.map_cons, Condition.inline]

theorem text_appendCondition (count : Nat) (first second : Condition) :
    writer.text count (first ++ second).pieces =
      writer.text count first.pieces ++
        writer.text (count + first.params.length) second.pieces :=
  writer.text_append count first.pieces second.pieces

theorem text_raw (count : Nat) (text : String) :
    writer.text count (Condition.raw text).pieces = text := by
  rw [Condition.raw, Condition.text_sql]
  exact String.empty_append

/-- The text of conditions put after a first one is theirs put after its
text. -/
theorem text_appendEach (count : Nat) (start : Condition)
    (conditions : List Condition) :
    writer.text count (Condition.appendEach separator start conditions).pieces =
      writer.text count start.pieces ++
        String.join ((writer.texts (count + start.params.length) conditions).map
          (separator ++ ·)) := by
  induction conditions generalizing start with
  | nil => simp [Condition.appendEach, texts]
  | cons first rest ih =>
      rw [Condition.appendEach_cons, ih, text_appendCondition,
        Condition.text_sql, Condition.params_append, Condition.params_sql,
        texts, List.map_cons, String.join_cons, List.length_append,
        Nat.add_assoc]
      simp only [String.append_assoc]

end Sql.Writer

/-- Texts with a separator between them are a first one, and then each of the
others with a separator before it. -/
theorem intercalate_cons_eq_append_join (separator first : String)
    (rest : List String) :
    separator.intercalate (first :: rest) =
      first ++ String.join (rest.map (separator ++ ·)) := by
  induction rest generalizing first with
  | nil => simp
  | cons second others ih =>
      rw [String.intercalate_cons_cons, ih, List.map_cons, String.join_cons,
        String.append_assoc, String.append_assoc]

theorem Sql.Writer.text_paramList (writer : Writer) (count : Nat)
    (values : List SqlValue) :
    writer.text count (Condition.paramList none values).pieces =
      ", ".intercalate
        (writer.texts count (values.map Condition.empty.param)) := by
  cases values with
  | nil => rfl
  | cons first rest =>
      rw [Condition.paramList_cons, Writer.text_appendEach, List.map_cons,
        Writer.texts, intercalate_cons_eq_append_join]

namespace Sql.Writer

theorem texts_placeholders_values (dialect : Dialect) (count : Nat)
    (values : List SqlValue) :
    (placeholders dialect).texts count (values.map Condition.empty.param) =
      (List.range' (count + 1) values.length).map dialect.placeholder := by
  induction values generalizing count with
  | nil => rfl
  | cons value rest ih =>
      have single : (placeholders dialect).text count
          (Condition.empty.param value).pieces =
          dialect.placeholder (count + 1) := by
        rw [text_placeholders]
        exact String.append_empty
      have one : (Condition.empty.param value).params.length = 1 := rfl
      rw [List.map_cons, texts, single, one, ih, List.length_cons,
        List.range'_succ, List.map_cons]

theorem texts_literals_values (count : Nat) (values : List SqlValue) :
    literals.texts count (values.map Condition.empty.param) =
      values.map SqlValue.inline := by
  rw [texts_literals, List.map_map]
  refine List.map_congr_left fun value _ => ?_
  simp [Condition.inline, Condition.empty, Condition.param,
    Condition.inlinePieces]

end Sql.Writer

end AttributeQuery
