import Mathlib
import AttributeQuery.Sql.Dialect
import AttributeQuery.Sql.Template

/-!
# Conditions that differ in values only

Two conditions are alike when they have the same text between their values, and
values of the same kind in the same places. Every way to put conditions together
keeps alike conditions alike, and alike conditions have the same text with
placeholders.
-/

namespace AttributeQuery

/-- Values of one kind. -/
inductive SqlValue.Alike : SqlValue → SqlValue → Prop where
  | text (value other : String) : Alike (.text value) (.text other)
  | integer (value other : Int64) : Alike (.integer value) (.integer other)

theorem SqlValue.Alike.refl (value : SqlValue) : value.Alike value := by
  cases value with
  | text value => exact .text value value
  | integer value => exact .integer value value

/-- The same text, or values of one kind. -/
inductive Piece.Alike : Piece → Piece → Prop where
  | sql (text : String) : Alike (.sql text) (.sql text)
  | param {value other : SqlValue} (alike : value.Alike other) :
      Alike (.param value) (.param other)

namespace Condition

/-- The same text with values of the same kinds in the same places. -/
def Alike (first second : Condition) : Prop :=
  List.Forall₂ Piece.Alike first.pieces second.pieces

namespace Alike

variable {first second firstOther secondOther : Condition}

theorem refl (condition : Condition) : condition.Alike condition := by
  refine List.forall₂_same.mpr fun piece _ => ?_
  cases piece with
  | sql text => exact .sql text
  | param value => exact .param (.refl value)

theorem addText {pieces others : List Piece}
    (alike : List.Forall₂ Piece.Alike pieces others) (text : String) :
    List.Forall₂ Piece.Alike (Condition.addText text pieces)
      (Condition.addText text others) := by
  induction alike with
  | nil => exact .cons (.sql text) .nil
  | @cons piece other rest others alikePiece alikeRest ih =>
      cases alikeRest with
      | nil =>
          cases alikePiece with
          | sql last => exact .cons (.sql _) .nil
          | param alikeValue =>
              exact .cons (.param alikeValue) (.cons (.sql text) .nil)
      | cons alikeNext alikeOthers =>
          cases alikePiece with
          | sql first => exact .cons (.sql first) ih
          | param alikeValue => exact .cons (.param alikeValue) ih

theorem sql (alike : first.Alike second) (text : String) :
    (first.sql text).Alike (second.sql text) := by
  unfold Condition.sql
  split
  · exact alike
  · exact addText alike text

theorem param (alike : first.Alike second) {value other : SqlValue}
    (alikeValue : value.Alike other) :
    (first.param value).Alike (second.param other) :=
  List.rel_append alike (.cons (.param alikeValue) .nil)

theorem append (alike : first.Alike second)
    (alikeOther : firstOther.Alike secondOther) :
    (first ++ firstOther).Alike (second ++ secondOther) :=
  List.rel_append alike alikeOther

theorem empty : Condition.empty.Alike Condition.empty := .nil

theorem raw (text : String) : (Condition.raw text).Alike (Condition.raw text) :=
  empty.sql text

theorem negate (alike : first.Alike second) :
    first.negate.Alike second.negate :=
  ((raw "NOT (").append alike).sql ")"

theorem appendAll (separator : String) {start startOther : Condition}
    (alike : start.Alike startOther) {conditions others : List Condition}
    (each : List.Forall₂ Alike conditions others) :
    (Condition.appendAll separator start conditions).Alike
      (Condition.appendAll separator startOther others) := by
  have folded : ∀ {rest others : List Condition},
      List.Forall₂ Alike rest others →
      ∀ {joined joinedOther : Condition}, joined.Alike joinedOther →
      (rest.foldl (fun joined next => joined.sql separator ++ next)
        joined).Alike
        (others.foldl (fun joined next => joined.sql separator ++ next)
          joinedOther) := by
    intro rest others each
    induction each with
    | nil => exact fun alike => alike
    | cons alikeNext _ ih =>
        exact fun alike => ih ((alike.sql separator).append alikeNext)
  cases each with
  | nil => exact alike
  | cons alikeFirst alikeRest =>
      exact folded alikeRest (alike.append alikeFirst)

theorem join (operator : String) {conditions others : List Condition}
    (each : List.Forall₂ Alike conditions others) :
    (Condition.join operator conditions).Alike
      (Condition.join operator others) :=
  ((raw "(").appendAll _ each).sql ")"

theorem cast (alike : first.Alike second) (castText : Option String) :
    (first.cast castText).Alike (second.cast castText) := by
  cases castText with
  | none => exact alike
  | some text => exact alike.sql text

theorem paramList (castText : Option String) {values others : List SqlValue}
    (each : List.Forall₂ SqlValue.Alike values others) :
    (Condition.paramList castText values).Alike
      (Condition.paramList castText others) := by
  have folded : ∀ {rest others : List SqlValue},
      List.Forall₂ SqlValue.Alike rest others →
      ∀ {list listOther : Condition}, list.Alike listOther →
      (rest.foldl
        (fun list value => ((list.sql ", ").param value).cast castText)
        list).Alike
      (others.foldl
        (fun list value => ((list.sql ", ").param value).cast castText)
        listOther) := by
    intro rest others each
    induction each with
    | nil => exact fun alike => alike
    | cons alikeNext _ ih =>
        exact fun alike => ih (((alike.sql ", ").param alikeNext).cast castText)
  cases each with
  | nil => exact empty
  | cons alikeFirst alikeRest =>
      exact folded alikeRest ((empty.param alikeFirst).cast castText)

/-- Alike conditions have the same text with placeholders. -/
theorem render (alike : first.Alike second) (dialect : Dialect) :
    first.render dialect = second.render dialect := by
  have rendered : ∀ {pieces others : List Piece},
      List.Forall₂ Piece.Alike pieces others →
      ∀ count, renderPieces dialect.placeholder count pieces =
        renderPieces dialect.placeholder count others := by
    intro pieces others each
    induction each with
    | nil => exact fun _ => rfl
    | cons alikePiece _ ih =>
        intro count
        cases alikePiece with
        | sql text => rw [renderPieces, renderPieces, ih]
        | param => rw [renderPieces, renderPieces, ih]
  exact rendered alike 0

/-- Alike conditions have values of the same kinds. -/
theorem params (alike : first.Alike second) :
    List.Forall₂ SqlValue.Alike first.params second.params := by
  unfold Condition.params
  have collected : ∀ {pieces others : List Piece},
      List.Forall₂ Piece.Alike pieces others →
      List.Forall₂ SqlValue.Alike (Condition.params ⟨pieces⟩)
        (Condition.params ⟨others⟩) := by
    intro pieces others each
    induction each with
    | nil => exact .nil
    | cons alikePiece _ ih =>
        cases alikePiece with
        | sql text => exact ih
        | param alikeValue => exact .cons alikeValue ih
  exact collected alike

end Alike

end Condition

/-- Pieces of a template that differ in values only. -/
inductive TemplatePiece.Alike : TemplatePiece → TemplatePiece → Prop where
  | sql (text : String) : Alike (.sql text) (.sql text)
  | param {value other : SqlValue} (alike : value.Alike other) :
      Alike (.param value) (.param other)
  | column : Alike .column .column

namespace Template

/-- Templates that differ in values only. -/
def Alike (first second : Template) : Prop :=
  List.Forall₂ TemplatePiece.Alike first.pieces second.pieces

variable {first second : Template}

theorem Alike.isEmpty (alike : first.Alike second) :
    first.isEmpty = second.isEmpty := by
  obtain ⟨pieces⟩ := first
  obtain ⟨others⟩ := second
  cases alike <;> rfl

theorem Alike.apply (alike : first.Alike second) (columnName : String) :
    (first.apply columnName).Alike (second.apply columnName) := by
  have filled : ∀ {pieces others : List TemplatePiece},
      List.Forall₂ TemplatePiece.Alike pieces others →
      ∀ {applied appliedOther : Condition}, applied.Alike appliedOther →
      (pieces.foldl (applyPiece columnName) applied).Alike
        (others.foldl (applyPiece columnName) appliedOther) := by
    intro pieces others each
    induction each with
    | nil => exact fun alike => alike
    | cons alikePiece _ ih =>
        intro applied appliedOther alike
        cases alikePiece with
        | sql text => exact ih (alike.sql text)
        | param alikeValue => exact ih (alike.param alikeValue)
        | column => exact ih (alike.sql columnName)
  exact filled alike .empty

theorem alike_castPieces (castText : Option String) :
    List.Forall₂ TemplatePiece.Alike (castPieces castText)
      (castPieces castText) := by
  cases castText with
  | none => exact .nil
  | some text => exact .cons (.sql text) .nil

theorem alike_conditionPieces {condition other : Condition}
    (alike : condition.Alike other) :
    List.Forall₂ TemplatePiece.Alike (conditionPieces condition)
      (conditionPieces other) := by
  refine List.forall₂_map_left_iff.mpr
    (List.forall₂_map_right_iff.mpr (alike.imp ?_))
  intro piece otherPiece alikePiece
  cases alikePiece with
  | sql text => exact .sql text
  | param alikeValue => exact .param alikeValue

end Template

end AttributeQuery
