import AttributeQuery.Proofs.Filter.Operands
import AttributeQuery.Proofs.Query.Assembly
import AttributeQuery.Proofs.Query.Combination

/-!
# Bound operands

The literal of each equality and comparison of a filter is among the values of
its condition, in the form the attribute gives it: nothing that is put around a
predicate takes a value away, and merging equalities keeps the values of all of
them.
-/

namespace AttributeQuery

/-! ## Values of composed conditions -/

namespace Condition

theorem params_appendAll (separator : String) (start : Condition)
    (conditions : List Condition) :
    (appendAll separator start conditions).params =
      start.params ++ conditions.flatMap params := by
  cases conditions with
  | nil => simp [appendAll]
  | cons first rest =>
      rw [show appendAll separator start (first :: rest) =
          appendEach separator (start ++ first) rest from rfl,
        params_appendEach, params_append, List.flatMap_cons, List.append_assoc]

theorem params_join (operator : String) (conditions : List Condition) :
    (join operator conditions).params = conditions.flatMap params := by
  rw [join, params_sql, params_appendAll, params_raw, List.nil_append]

theorem params_negate (condition : Condition) :
    condition.negate.params = condition.params := by
  rw [negate, params_sql, params_append, params_raw, List.nil_append]

end Condition

/-- The value of a piece of a template, if it is one. -/
def TemplatePiece.value? : TemplatePiece → Option SqlValue
  | .param value => some value
  | .sql _ => none
  | .column => none

namespace Template

/-- A filled template has the values of the template. -/
theorem params_apply (template : Template) (columnName : String) :
    (template.apply columnName).params =
      template.pieces.filterMap TemplatePiece.value? := by
  rw [Condition.params_eq_filterMap_symbols, symbols_apply,
    List.filterMap_flatMap, List.filterMap_eq_flatMap_toList]
  refine List.flatMap_congr fun piece _ => ?_
  cases piece <;> simp [TemplatePiece.symbols, TemplatePiece.value?,
    Function.comp_def]

end Template

namespace Location

theorem params_existsRow (table rowName : String)
    (conditions : List Condition) :
    (existsRow table rowName conditions).params =
      conditions.flatMap Condition.params := by
  rw [existsRow, Condition.params_sql, Condition.params_append,
    Condition.params_raw, Condition.conjunction, Condition.params_appendAll]
  rfl

/-- The values of a predicate are among those of the condition at its
location. -/
theorem mem_params_apply {location : Location} {predicate : Predicate}
    {value : SqlValue} (member : .param value ∈ predicate.template.pieces) :
    value ∈ (location.apply predicate).params := by
  have filled (columnName : String) : value ∈
      (predicate.template.apply columnName).params := by
    rw [Template.params_apply]
    exact List.mem_filterMap.mpr ⟨.param value, member, rfl⟩
  have located : value ∈ (location.located predicate).params := by
    cases location with
    | column name => exact filled name
    | existence table conditions valueColumn networkColumn =>
        have isStated : predicate.template.isEmpty = false := by
          rw [Template.isEmpty, List.isEmpty_eq_false_iff]
          exact List.ne_nil_of_mem member
        rw [located, params_existsRow, isStated]
        simp [filled]
  unfold apply
  split
  · rw [Condition.params_negate]
    exact located
  · exact located

end Location

/-! ## Values of leaves -/

variable {context : Context} {attr : Attribute}
  {location : Location} {leaf : Leaf}
variable {literal : Literal}

/-- A literal is among the values of a condition, as the operand it is bound
as. -/
def Condition.Binds (context : Context) (attr : Attribute) (literal : Literal)
    (condition : Condition) : Prop :=
  ∃ value, Predicate.operand context attr literal =
    .ok (value, Predicate.operandCast context attr) ∧ value ∈ condition.params

namespace Predicate

theorem mem_comparedBy (symbol : String) (value : SqlValue)
    (castText : Option String) :
    .param value ∈ (comparedBy symbol value castText).template.pieces := by
  simp [comparedBy]

/-- A leaf binds the literal it compares with. -/
theorem ofLeaf_binds (notBoolean : attr.isBoolean = false)
    (compares : leaf.Compares literal) {predicate : Predicate}
    (built : ofLeaf context attr leaf = .ok predicate) :
    (location.apply predicate).Binds context attr literal := by
  cases compares with
  | equals =>
      cases ofLeaf_eq_ok.mp built with
      | boolean value isBoolean => simp [isBoolean] at notBoolean
      | equality _ bound =>
          exact ⟨_, bound, Location.mem_params_apply (mem_comparedBy _ _ _)⟩
  | comparison relation =>
      cases ofLeaf_eq_ok.mp built with
      | comparison _ _ bound =>
          exact ⟨_, bound, Location.mem_params_apply (mem_comparedBy _ _ _)⟩

/-- A list of values binds each literal it is made from. -/
theorem ofMembership_binds {literals : List Literal}
    (isGiven : literal ∈ literals) {predicate : Predicate}
    (built : ofMembership context attr literals = .ok predicate) :
    (location.apply predicate).Binds context attr literal := by
  obtain ⟨⟨values, castText⟩, bound, returned⟩ := bind_eq_ok.mp built
  obtain ⟨value, isValue, boundLiteral⟩ :=
    exists_of_forall₂_left (operands_eq_ok bound).1 isGiven
  refine ⟨value, boundLiteral, Location.mem_params_apply ?_⟩
  have listed : TemplatePiece.param value ∈
      Template.conditionPieces (Condition.paramList castText values) := by
    rw [← Condition.params_paramList castText values] at isValue
    obtain ⟨piece, isPiece, isParam⟩ := List.mem_filterMap.mp isValue
    refine List.mem_map.mpr ⟨piece, isPiece, ?_⟩
    cases piece with
    | sql text => cases isParam
    | param other => rw [Template.ofPiece, Option.some.inj isParam]
  rw [← pure_eq_ok.mp returned]
  simp [listed]

end Predicate

/-! ## Values of filters -/

namespace Condition.Binds

theorem negate {condition : Condition}
    (binds : condition.Binds context attr literal) :
    condition.negate.Binds context attr literal := by
  obtain ⟨value, bound, isParam⟩ := binds
  exact ⟨value, bound, by rwa [params_negate]⟩

theorem join {conditions : List Condition}
    (binds : ∃ condition ∈ conditions, condition.Binds context attr literal)
    (operator : String) :
    (Condition.join operator conditions).Binds context attr literal := by
  obtain ⟨condition, isPart, value, bound, isParam⟩ := binds
  refine ⟨value, bound, ?_⟩
  rw [params_join]
  exact List.mem_flatMap.mpr ⟨condition, isPart, isParam⟩

end Condition.Binds

namespace Filter

/-- Of joined conditions it is enough that one binds the literal. -/
theorem isPassedOn_binds :
    Condition.IsPassedOn (fun _ => True)
      (Condition.Binds context attr literal) where
  kept := ⟨trivial, trivial, fun _ => trivial, fun _ _ _ => trivial⟩
  negate := .negate
  join _ _ binds := .join binds _

theorem leafShows_binds (notBoolean : attr.isBoolean = false)
    (compares : leaf.Compares literal) :
    LeafShows context attr location
      (Condition.Binds context attr literal) leaf where
  single built := Predicate.ofLeaf_binds notBoolean compares built
  membership isEquality isGiven built := by
    subst isEquality
    cases compares with
    | equals => exact Predicate.ofMembership_binds isGiven built

/-- The condition of a filter binds the literals that its leaves compare
with. -/
theorem compile_binds (notBoolean : attr.isBoolean = false)
    (compares : leaf.Compares literal) {filter : Filter}
    (isLeaf : leaf ∈ filter.leaves) {condition : Condition}
    (compiled : filter.compile context attr location = .ok condition) :
    condition.Binds context attr literal :=
  compile_shows isPassedOn_binds ⟨fun _ _ => trivial, fun _ _ => trivial⟩
    (leafShows_binds notBoolean compares) filter isLeaf
    (List.Subset.refl _) compiled

end Filter

end AttributeQuery
