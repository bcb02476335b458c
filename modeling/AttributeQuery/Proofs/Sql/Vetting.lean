import Mathlib
import AttributeQuery.Sql.Dialect
import AttributeQuery.Sql.Template

/-!
# Vetted conditions

A vetting says which texts and which values may stand in a condition. Texts that
merge have to stay admitted, so every way to put conditions together keeps them
vetted: it is enough to look at the texts and values that conditions are made
from.
-/

namespace AttributeQuery

/-- Whether a character is a control character. -/
def Text.isControl (char : Char) : Bool :=
  char.toNat < 32 || (127 ≤ char.toNat && char.toNat < 160)

/-- A character that neither ends, quotes, escapes nor comments out what stands
around it in a statement. -/
def Text.isHarmless (char : Char) : Bool :=
  char ≠ ';' && char ≠ '-' && char ≠ '/' && char ≠ '*' && char ≠ '\'' &&
    char ≠ '\\' && !isControl char

theorem Text.not_mem_of_isHarmless {chars : List Char}
    (harmless : chars.all isHarmless = true) {mark : Char}
    (isMark : isHarmless mark = false) : mark ∉ chars := by
  intro member
  have isHarmless := List.all_eq_true.mp harmless mark member
  simp [isMark] at isHarmless

/-- What may stand in a condition. Texts of harmless characters always may, and
so may the clause that names the escape character of patterns. -/
structure Vetting where
  IsText : String → Prop
  IsValue : SqlValue → Prop
  append : ∀ {first second : String}, IsText first → IsText second →
    IsText (first ++ second)
  harmless : ∀ {text : String}, text.toList.all Text.isHarmless = true →
    IsText text
  escape : IsText " ESCAPE '\\'"

namespace Vetting

variable (vetting : Vetting)

/-- A piece that may stand in a condition. -/
def Admits : Piece → Prop
  | .sql text => vetting.IsText text
  | .param value => vetting.IsValue value

/-- A piece that may stand in a template. -/
def AdmitsTemplate : TemplatePiece → Prop
  | .sql text => vetting.IsText text
  | .param value => vetting.IsValue value
  | .column => True

end Vetting

/-! ## Conditions -/

namespace Condition

/-- All pieces of a condition are admitted. -/
def Passes (vetting : Vetting) (condition : Condition) : Prop :=
  ∀ piece ∈ condition.pieces, vetting.Admits piece

namespace Passes

variable {vetting : Vetting} {first second : Condition} {text : String}
  {value : SqlValue}

theorem empty : Condition.empty.Passes vetting := by
  simp [Passes, Condition.empty]

theorem addText (isText : vetting.IsText text) {pieces : List Piece}
    (pass : ∀ piece ∈ pieces, vetting.Admits piece) :
    ∀ piece ∈ Condition.addText text pieces, vetting.Admits piece := by
  induction pieces with
  | nil => simpa [Condition.addText, Vetting.Admits] using isText
  | cons piece rest ih =>
      obtain ⟨passFirst, passRest⟩ := List.forall_mem_cons.mp pass
      cases rest with
      | nil =>
          cases piece with
          | sql last =>
              simpa [Condition.addText, Vetting.Admits] using
                vetting.append passFirst isText
          | param value =>
              exact List.forall_mem_cons.mpr ⟨passFirst, ih passRest⟩
      | cons next others =>
          cases piece with
          | sql | param =>
              exact List.forall_mem_cons.mpr ⟨passFirst, ih passRest⟩

theorem sql (passes : first.Passes vetting) (isText : vetting.IsText text) :
    (first.sql text).Passes vetting := by
  unfold Condition.sql
  split
  · exact passes
  · exact addText isText passes

theorem param (passes : first.Passes vetting)
    (isValue : vetting.IsValue value) :
    (first.param value).Passes vetting :=
  List.forall_mem_append.mpr ⟨passes, by simpa [Vetting.Admits] using isValue⟩

theorem append (passes : first.Passes vetting)
    (passesOther : second.Passes vetting) :
    (first ++ second).Passes vetting :=
  List.forall_mem_append.mpr ⟨passes, passesOther⟩

theorem raw (isText : vetting.IsText text) :
    (Condition.raw text).Passes vetting :=
  empty.sql isText

theorem negate (passes : first.Passes vetting) : first.negate.Passes vetting :=
  ((raw (vetting.harmless (by decide))).append passes).sql
    (vetting.harmless (by decide))

theorem appendAll {separator : String} (isText : vetting.IsText separator)
    (passes : first.Passes vetting) {conditions : List Condition}
    (pass : ∀ condition ∈ conditions, condition.Passes vetting) :
    (Condition.appendAll separator first conditions).Passes vetting := by
  have folded : ∀ {rest : List Condition},
      (∀ condition ∈ rest, condition.Passes vetting) →
      ∀ {joined : Condition}, joined.Passes vetting →
      (rest.foldl (fun joined next => joined.sql separator ++ next)
        joined).Passes vetting := by
    intro rest pass
    induction rest with
    | nil => exact fun passes => passes
    | cons next others ih =>
        obtain ⟨passesNext, passOthers⟩ := List.forall_mem_cons.mp pass
        exact fun passes =>
          ih passOthers ((passes.sql isText).append passesNext)
  cases conditions with
  | nil => exact passes
  | cons next rest =>
      obtain ⟨passesNext, passRest⟩ := List.forall_mem_cons.mp pass
      exact folded passRest (passes.append passesNext)

theorem join {operator : String}
    (isText : vetting.IsText (" " ++ operator ++ " "))
    {conditions : List Condition}
    (pass : ∀ condition ∈ conditions, condition.Passes vetting) :
    (Condition.join operator conditions).Passes vetting :=
  (appendAll isText (raw (vetting.harmless (by decide))) pass).sql
    (vetting.harmless (by decide))

theorem conjunction {conditions : List Condition}
    (pass : ∀ condition ∈ conditions, condition.Passes vetting) :
    (Condition.conjunction conditions).Passes vetting :=
  appendAll (vetting.harmless (by decide)) empty pass

theorem cast (passes : first.Passes vetting) {castText : Option String}
    (isText : ∀ text, castText = some text → vetting.IsText text) :
    (first.cast castText).Passes vetting := by
  cases castText with
  | none => exact passes
  | some text => exact passes.sql (isText text rfl)

theorem paramList {castText : Option String}
    (isText : ∀ text, castText = some text → vetting.IsText text)
    {values : List SqlValue}
    (areValues : ∀ value ∈ values, vetting.IsValue value) :
    (Condition.paramList castText values).Passes vetting := by
  have folded : ∀ {rest : List SqlValue},
      (∀ value ∈ rest, vetting.IsValue value) →
      ∀ {list : Condition}, list.Passes vetting →
      (rest.foldl
        (fun list value => ((list.sql ", ").param value).cast castText)
        list).Passes vetting := by
    intro rest areValues
    induction rest with
    | nil => exact fun passes => passes
    | cons next others ih =>
        obtain ⟨isNext, areOthers⟩ := List.forall_mem_cons.mp areValues
        exact fun passes => ih areOthers
          (((passes.sql (vetting.harmless (by decide))).param isNext).cast
            isText)
  cases values with
  | nil => exact empty
  | cons next rest =>
      obtain ⟨isNext, areRest⟩ := List.forall_mem_cons.mp areValues
      exact folded areRest ((empty.param isNext).cast isText)

/-- The values of a vetted condition are admitted. -/
theorem isValue (passes : first.Passes vetting)
    (member : value ∈ first.params) :
    vetting.IsValue value := by
  obtain ⟨piece, isPiece, isParam⟩ := List.mem_filterMap.mp member
  cases piece with
  | sql => simp at isParam
  | param other =>
      obtain rfl := Option.some.inj isParam
      exact passes _ isPiece

/-- The text of vetted pieces is admitted, if placeholders are. -/
theorem isText_renderPieces {dialect : Dialect} {pieces : List Piece}
    (pass : ∀ piece ∈ pieces, vetting.Admits piece)
    (arePlaceholders : ∀ count, vetting.IsText (dialect.placeholder count))
    (count : Nat) :
    vetting.IsText (renderPieces dialect.placeholder count pieces) := by
  induction pieces generalizing count with
  | nil => exact (vetting.harmless (by decide) : vetting.IsText "")
  | cons piece rest ih =>
      obtain ⟨passFirst, passRest⟩ := List.forall_mem_cons.mp pass
      cases piece with
      | sql text => exact vetting.append passFirst (ih passRest count)
      | param value => exact vetting.append (arePlaceholders _) (ih passRest _)

end Passes

end Condition

/-! ## Templates -/

namespace Template

variable {vetting : Vetting}

/-- All pieces of a template are admitted. -/
def Passes (vetting : Vetting) (template : Template) : Prop :=
  ∀ piece ∈ template.pieces, vetting.AdmitsTemplate piece

/-- A vetted template is vetted with any column that may stand in a
condition. -/
theorem Passes.apply {template : Template} (passes : template.Passes vetting)
    {column : String} (isText : vetting.IsText column) :
    (template.apply column).Passes vetting := by
  have filled : ∀ {pieces : List TemplatePiece},
      (∀ piece ∈ pieces, vetting.AdmitsTemplate piece) →
      ∀ {applied : Condition}, applied.Passes vetting →
      (pieces.foldl (applyPiece column) applied).Passes vetting := by
    intro pieces pass
    induction pieces with
    | nil => exact fun passes => passes
    | cons piece rest ih =>
        obtain ⟨passFirst, passRest⟩ := List.forall_mem_cons.mp pass
        intro applied passes
        cases piece with
        | sql text => exact ih passRest (passes.sql passFirst)
        | param value => exact ih passRest (passes.param passFirst)
        | column => exact ih passRest (passes.sql isText)
  exact filled passes .empty

theorem admits_castPieces {castText : Option String}
    (isText : ∀ text, castText = some text → vetting.IsText text) :
    ∀ piece ∈ castPieces castText, vetting.AdmitsTemplate piece := by
  cases castText with
  | none => simp [castPieces]
  | some text =>
      simpa [castPieces, Vetting.AdmitsTemplate] using isText text rfl

theorem admits_conditionPieces {condition : Condition}
    (passes : condition.Passes vetting) :
    ∀ piece ∈ conditionPieces condition, vetting.AdmitsTemplate piece := by
  refine List.forall_mem_map.mpr fun piece member => ?_
  have admitted := passes piece member
  cases piece with
  | sql | param => exact admitted

end Template

end AttributeQuery
