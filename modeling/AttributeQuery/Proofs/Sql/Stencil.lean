import AttributeQuery.Proofs.Sql.Symbols
import AttributeQuery.Proofs.Success
import AttributeQuery.Settings.Layout

/-!
# Stencils

A stencil is a condition with holes for the names of a layout. What is made for
every layout with one stencil takes nothing else from the layouts than the names
that fill its holes, and each of these as a whole. Such families of conditions
are closed under the ways to put conditions together, and so are computations of
them that fail for every layout or for none.
-/

namespace AttributeQuery

/-- A part of a stencil: fixed text, a hole for the name of a layout field, or a
bound value. -/
inductive StencilPart where
  | text (text : String)
  | name (field : LayoutField)
  | value (value : SqlValue)
  deriving DecidableEq

/-- A condition with holes for names of a layout. -/
abbrev Stencil := List StencilPart

/-- The piece that a part of a stencil becomes with the names of a layout. -/
def StencilPart.piece (layout : Layout) : StencilPart → Piece
  | .text fixed => .sql fixed
  | .name field => .sql (layout.name field)
  | .value bound => .param bound

/-- A piece of a condition as a part of a stencil. -/
def StencilPart.ofPiece : Piece → StencilPart
  | .sql fixed => .text fixed
  | .param bound => .value bound

/-- The condition of a stencil with the names of a layout in its holes. -/
def Stencil.fill (stencil : Stencil) (layout : Layout) : Condition :=
  ⟨stencil.map (·.piece layout)⟩

/-! ## Families of conditions -/

namespace Condition

/-- The conditions for all layouts are made with one stencil. -/
def IsUniform (condition : Layout → Condition) : Prop :=
  ∃ stencil : Stencil, ∀ layout,
    (condition layout).symbols = (stencil.fill layout).symbols

end Condition

@[simp] theorem Stencil.symbols_fill_append (first second : Stencil)
    (layout : Layout) :
    (Stencil.fill (first ++ second) layout).symbols =
      (first.fill layout).symbols ++ (second.fill layout).symbols := by
  simp [fill, Condition.symbols]

@[simp] theorem Stencil.symbols_fill_single (part : StencilPart)
    (layout : Layout) :
    (Stencil.fill [part] layout).symbols = (part.piece layout).symbols := by
  simp [fill, Condition.symbols]

/-- The texts for all layouts are made with one stencil. -/
def Text.IsUniform (text : Layout → String) : Prop :=
  Condition.IsUniform fun layout => .raw (text layout)

namespace Text.IsUniform

variable {first second : Layout → String}

theorem const (text : String) : IsUniform fun _ => text :=
  ⟨[.text text], fun layout => by
    simp only [Condition.symbols_raw, Stencil.symbols_fill_single]
    rfl⟩

theorem name (field : LayoutField) :
    IsUniform fun layout => layout.name field :=
  ⟨[.name field], fun layout => by
    simp only [Condition.symbols_raw, Stencil.symbols_fill_single]
    rfl⟩

theorem append (uniform : IsUniform first) (uniformOther : IsUniform second) :
    IsUniform fun layout => first layout ++ second layout := by
  obtain ⟨stencil, fits⟩ := uniform
  obtain ⟨other, fitsOther⟩ := uniformOther
  refine ⟨stencil ++ other, fun layout => ?_⟩
  simp [← fits, ← fitsOther]

theorem thenText (uniform : IsUniform first) (text : String) :
    IsUniform fun layout => first layout ++ text :=
  uniform.append (.const text)

theorem thenName (uniform : IsUniform first) (field : LayoutField) :
    IsUniform fun layout => first layout ++ layout.name field :=
  uniform.append (.name field)

end Text.IsUniform

namespace Condition.IsUniform

variable {first second : Layout → Condition} {text : Layout → String}

theorem const (condition : Condition) : IsUniform fun _ => condition := by
  refine ⟨condition.pieces.map StencilPart.ofPiece, fun layout => ?_⟩
  have same : ∀ piece : Piece,
      (StencilPart.ofPiece piece).piece layout = piece := by
    rintro (text | value) <;> rfl
  simp [Stencil.fill, Function.comp_def, same]

theorem append (uniform : IsUniform first) (uniformOther : IsUniform second) :
    IsUniform fun layout => first layout ++ second layout := by
  obtain ⟨stencil, fits⟩ := uniform
  obtain ⟨other, fitsOther⟩ := uniformOther
  refine ⟨stencil ++ other, fun layout => ?_⟩
  simp [← fits, ← fitsOther]

theorem sql (uniform : IsUniform first) (uniformText : Text.IsUniform text) :
    IsUniform fun layout => (first layout).sql (text layout) := by
  obtain ⟨stencil, fits⟩ := uniform.append uniformText
  exact ⟨stencil, fun layout => by simp [← fits]⟩

theorem param (uniform : IsUniform first) (value : SqlValue) :
    IsUniform fun layout => (first layout).param value :=
  uniform.append (.const ⟨[.param value]⟩)

theorem raw (uniformText : Text.IsUniform text) :
    IsUniform fun layout => .raw (text layout) :=
  uniformText

theorem negate (uniform : IsUniform first) :
    IsUniform fun layout => (first layout).negate :=
  ((const (.raw "NOT (")).append uniform).sql (.const ")")

end Condition.IsUniform

/-! ## Lists and computations -/

section Families

variable {α Failure : Type} {IsFamily : (Layout → α) → Prop}

/-- The lists for all layouts have an element for each of some families. -/
def AreUniform (IsFamily : (Layout → α) → Prop) (list : Layout → List α) :
    Prop :=
  ∃ families : List (Layout → α), (∀ family ∈ families, IsFamily family) ∧
    ∀ layout, list layout = families.map (· layout)

namespace AreUniform

variable {first second : Layout → List α}

theorem nil : AreUniform IsFamily fun _ => [] :=
  ⟨[], by simp, fun _ => rfl⟩

theorem cons {family : Layout → α} (isFamily : IsFamily family)
    (uniform : AreUniform IsFamily first) :
    AreUniform IsFamily fun layout => family layout :: first layout := by
  obtain ⟨families, each, same⟩ := uniform
  exact ⟨family :: families, List.forall_mem_cons.mpr ⟨isFamily, each⟩,
      fun layout => by
    simp [same]⟩

theorem append (uniform : AreUniform IsFamily first)
    (uniformOther : AreUniform IsFamily second) :
    AreUniform IsFamily fun layout => first layout ++ second layout := by
  obtain ⟨families, each, same⟩ := uniform
  obtain ⟨others, eachOther, sameOther⟩ := uniformOther
  exact ⟨families ++ others, List.forall_mem_append.mpr ⟨each, eachOther⟩,
      fun layout => by
    simp [same, sameOther]⟩

theorem map {β : Type} {IsResult : (Layout → β) → Prop}
    {change : Layout → α → β} (uniform : AreUniform IsFamily first)
    (isResult : ∀ family, IsFamily family →
      IsResult fun layout => change layout (family layout)) :
    AreUniform IsResult fun layout => (first layout).map (change layout) := by
  obtain ⟨families, each, same⟩ := uniform
  refine ⟨families.map fun family layout => change layout (family layout), ?_,
    fun layout => ?_⟩
  · exact List.forall_mem_map.mpr fun family member =>
      isResult family (each family member)
  · simp [same]

end AreUniform

/-- Computations for all layouts fail alike, or their results are a family. -/
inductive ComputesUniform (IsFamily : (Layout → α) → Prop)
    (computed : Layout → Except Failure α) : Prop where
  | fails (failure : Failure)
      (failed : ∀ layout, computed layout = .error failure)
  | returns (family : Layout → α) (isFamily : IsFamily family)
      (returned : ∀ layout, computed layout = .ok (family layout))

namespace ComputesUniform

variable {β : Type} {IsResult : (Layout → β) → Prop}

theorem ok {family : Layout → α} (isFamily : IsFamily family) :
    ComputesUniform IsFamily fun layout =>
      (.ok (family layout) : Except Failure α) :=
  .returns family isFamily fun _ => rfl

theorem error (failure : Failure) :
    ComputesUniform IsFamily fun _ => (.error failure : Except Failure α) :=
  .fails failure fun _ => rfl

/-- A computation that does not look at the layout. -/
theorem const {computed : Except Failure α}
    (isFamily : ∀ result, computed = .ok result → IsFamily fun _ => result) :
    ComputesUniform IsFamily fun _ => computed := by
  cases computed with
  | error failure => exact error failure
  | ok result => exact ok (isFamily result rfl)

theorem bind {computed : Layout → Except Failure α}
    {next : Layout → α → Except Failure β}
    (uniform : ComputesUniform IsFamily computed)
    (uniformNext : ∀ family, IsFamily family →
      ComputesUniform IsResult fun layout => next layout (family layout)) :
    ComputesUniform IsResult fun layout => computed layout >>= next layout := by
  cases uniform with
  | fails failure failed =>
      exact .fails failure fun layout => by rw [failed]; rfl
  | returns family isFamily returned =>
      have computes (layout : Layout) :
          (computed layout >>= next layout) = next layout (family layout) := by
        rw [returned]
        rfl
      simpa only [computes] using uniformNext family isFamily

/-- What follows a computation that does not look at the layout. -/
theorem after {computed : Except Failure α}
    {next : Layout → α → Except Failure β}
    (uniform : ∀ value, computed = .ok value →
      ComputesUniform IsResult fun layout => next layout value) :
    ComputesUniform IsResult fun layout => computed >>= next layout := by
  cases computed with
  | error failure => exact error failure
  | ok value => exact uniform value rfl

theorem mapM {γ : Type} {values : List γ}
    {compute : Layout → γ → Except Failure α}
    (uniform : ∀ value ∈ values,
      ComputesUniform IsFamily fun layout => compute layout value) :
    ComputesUniform (AreUniform IsFamily) fun layout =>
      values.mapM (compute layout) := by
  induction values with
  | nil => exact ok .nil
  | cons value rest ih =>
      obtain ⟨uniformFirst, uniformRest⟩ := List.forall_mem_cons.mp uniform
      simp only [List.mapM_cons]
      exact uniformFirst.bind fun _ isFamily =>
          (ih uniformRest).bind fun _ areFamilies =>
        ok (.cons isFamily areFamilies)

end ComputesUniform

end Families

namespace Condition.IsUniform

theorem appendAll {separator : String} {start : Layout → Condition}
    (uniform : IsUniform start) {conditions : Layout → List Condition}
    (areUniform : AreUniform IsUniform conditions) :
    IsUniform fun layout => Condition.appendAll separator (start layout)
      (conditions layout) := by
  have folded : ∀ {families : List (Layout → Condition)},
      (∀ family ∈ families, IsUniform family) → ∀ {joined : Layout → Condition},
      IsUniform joined →
      IsUniform fun layout => (families.map (· layout)).foldl
        (fun joined next => joined.sql separator ++ next) (joined layout) := by
    intro families each
    induction families with
    | nil => exact fun uniform => uniform
    | cons next rest ih =>
        obtain ⟨isUniform, eachRest⟩ := List.forall_mem_cons.mp each
        exact fun uniform =>
          ih eachRest ((uniform.sql (.const separator)).append isUniform)
  obtain ⟨families, each, same⟩ := areUniform
  simp only [same]
  cases families with
  | nil => exact uniform
  | cons next rest =>
      obtain ⟨isUniform, eachRest⟩ := List.forall_mem_cons.mp each
      exact folded eachRest (uniform.append isUniform)

theorem join {operator : String} {conditions : Layout → List Condition}
    (areUniform : AreUniform IsUniform conditions) :
    IsUniform fun layout => Condition.join operator (conditions layout) :=
  (appendAll (const (.raw "(")) areUniform).sql (.const ")")

theorem conjunction {conditions : Layout → List Condition}
    (areUniform : AreUniform IsUniform conditions) :
    IsUniform fun layout => Condition.conjunction (conditions layout) :=
  appendAll (const .empty) areUniform

end Condition.IsUniform

end AttributeQuery
