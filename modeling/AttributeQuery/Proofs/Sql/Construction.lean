import AttributeQuery.Proofs.Sql.Rendering

/-!
# Operands of conditions

Every operation on conditions puts texts and values around its operands and
between them. Wherever pieces of text merge, the characters and values are those
of the parts in their order. So a condition that is used as an operand, at any
depth, is rendered as it is by itself, its placeholders numbered from the values
before it.
-/

namespace AttributeQuery

/-! ## Characters and values of composed conditions -/

theorem flatMap_intercalate {α β : Type} (image : α → List β)
    (separator : List α) (lists : List (List α)) :
    (separator.intercalate lists).flatMap image =
      (separator.flatMap image).intercalate (lists.map (·.flatMap image)) := by
  induction lists with
  | nil => simp
  | cons first rest ih =>
      cases rest with
      | nil => simp
      | cons second others =>
          rw [List.map_cons, List.map_cons, List.intercalate_cons_cons,
            List.intercalate_cons_cons, List.flatMap_append,
            List.flatMap_append, ih, List.map_cons]

theorem mem_intercalate {α : Type} {value : α} {separator list : List α}
    {lists : List (List α)} (isOne : list ∈ lists) (member : value ∈ list) :
    value ∈ separator.intercalate lists := by
  induction lists with
  | nil => cases isOne
  | cons first rest ih =>
      cases rest with
      | nil =>
          obtain rfl := List.mem_singleton.mp isOne
          rwa [List.intercalate_singleton]
      | cons second others =>
          rw [List.intercalate_cons_cons]
          rcases List.mem_cons.mp isOne with rfl | later
          · exact List.mem_append_left _ (List.mem_append_left _ member)
          · exact List.mem_append_right _ (ih later)

namespace Condition

@[simp] theorem symbols_cast (condition : Condition)
    (castText : Option String) :
    (condition.cast castText).symbols =
      condition.symbols ++ castText.toList.flatMap fun text =>
        text.toList.map .inl := by
  cases castText <;> simp [cast]

/-- What is added step by step, a separator before it, stands between separators
in the end. -/
theorem symbols_foldl {α : Type} {add : Condition → α → Condition}
    {separator : List (Char ⊕ SqlValue)} {given : α → List (Char ⊕ SqlValue)}
    (adds : ∀ joined value,
      (add joined value).symbols = joined.symbols ++ separator ++ given value)
    {joined : Condition} (before : List (Char ⊕ SqlValue)) {first : α}
    (starts : joined.symbols = before ++ given first) (rest : List α) :
    (rest.foldl add joined).symbols =
      before ++ separator.intercalate ((first :: rest).map given) := by
  induction rest generalizing joined before first with
  | nil => simp [starts]
  | cons next rest ih =>
      -- what is joined ends with the value added last, so the separator can
      -- follow it
      have startsNext : (add joined next).symbols =
          (before ++ given first ++ separator) ++ given next := by
        rw [adds, starts]
      rw [List.foldl_cons, ih _ startsNext]
      simp only [List.map_cons, List.intercalate_cons_cons, List.append_assoc]

@[simp] theorem symbols_appendAll (separator : String) (start : Condition)
    (conditions : List Condition) :
    (appendAll separator start conditions).symbols =
      start.symbols ++ List.intercalate (separator.toList.map .inl)
        (conditions.map symbols) := by
  cases conditions with
  | nil => simp [appendAll]
  | cons first rest =>
      exact symbols_foldl (by simp) start.symbols
        (symbols_append start first) rest

@[simp] theorem symbols_paramList (castText : Option String)
    (values : List SqlValue) :
    (paramList castText values).symbols =
      List.intercalate (", ".toList.map .inl) (values.map fun value =>
        .inr value :: castText.toList.flatMap fun text =>
            text.toList.map .inl) := by
  cases values with
  | nil => simp [paramList]
  | cons first rest =>
      exact symbols_foldl (by simp) [] (by simp) rest

end Condition

/-! ## Operations and their parts -/

/-- A part of a condition: a text, a value, or a condition used as an
operand. -/
inductive Condition.Part where
  | text (text : String)
  | value (value : SqlValue)
  | operand (operand : Condition)

/-- A part as a condition by itself. -/
def Condition.Part.condition : Condition.Part → Condition
  | .text fixed => .raw fixed
  | .value bound => Condition.empty.param bound
  | .operand inner => inner

/-- What can be added at the end of a template. -/
inductive TemplatePart where
  | column
  | sql (text : String)
  | param (value : SqlValue)
  | cast (castText : Option String)
  | condition (embedded : Condition)

namespace TemplatePart

/-- The pieces that are added to the template. -/
def pieces : TemplatePart → List TemplatePiece
  | .column => [.column]
  | .sql text => [.sql text]
  | .param value => [.param value]
  | .cast castText => Template.castPieces castText
  | .condition embedded => Template.conditionPieces embedded

/-- The parts that the condition has of it once the column is filled in. -/
def parts (columnName : String) : TemplatePart → List Condition.Part
  | .column => [.text columnName]
  | .sql text => [.text text]
  | .param value => [.value value]
  | .cast castText => castText.toList.map .text
  | .condition embedded => [.operand embedded]

end TemplatePart

namespace Condition

/-- A use of one of the operations that make conditions. -/
inductive Construction where
  | empty
  | raw (text : String)
  | sql (operand : Condition) (text : String)
  | param (operand : Condition) (value : SqlValue)
  | append (first second : Condition)
  | negate (operand : Condition)
  | join (operator : String) (operands : List Condition)
  | conjunction (operands : List Condition)
  | paramList (castText : Option String) (values : List SqlValue)
  | apply (template : List TemplatePart) (columnName : String)

namespace Construction

/-- The condition that an operation gives. -/
def condition : Construction → Condition
  | .empty => Condition.empty
  | .raw text => Condition.raw text
  | .sql operand text => operand.sql text
  | .param operand value => operand.param value
  | .append first second => first ++ second
  | .negate operand => operand.negate
  | .join operator operands => Condition.join operator operands
  | .conjunction operands => Condition.conjunction operands
  | .paramList castText values => Condition.paramList castText values
  | .apply template columnName =>
      Template.apply ⟨template.flatMap (·.pieces)⟩ columnName

/-- The parts that an operation puts together, in their order. -/
def parts : Construction → List Part
  | .empty => []
  | .raw text => [.text text]
  | .sql operand text => [.operand operand, .text text]
  | .param operand value => [.operand operand, .value value]
  | .append first second => [.operand first, .operand second]
  | .negate operand => [.text "NOT (", .operand operand, .text ")"]
  | .join operator operands =>
      .text "(" :: List.intercalate [.text (" " ++ operator ++ " ")]
        (operands.map ([.operand ·])) ++ [.text ")"]
  | .conjunction operands =>
      List.intercalate [.text " AND "] (operands.map ([.operand ·]))
  | .paramList castText values =>
      List.intercalate [.text ", "]
        (values.map fun value => .value value :: castText.toList.map .text)
  | .apply template columnName =>
      template.flatMap (TemplatePart.parts columnName)

/-- A condition has the characters and values of its parts. -/
theorem symbols_condition (construction : Construction) :
    construction.condition.symbols =
      (construction.parts.map Part.condition).flatMap symbols := by
  rw [List.flatMap_map]
  cases construction with
  | empty => rfl
  | raw text => simp [condition, parts, Part.condition]
  | sql operand text => simp [condition, parts, Part.condition]
  | param operand value => simp [condition, parts, Part.condition]
  | append first second => simp [condition, parts, Part.condition]
  | negate operand => simp [condition, parts, Part.condition, Condition.negate]
  | join operator operands =>
      simp [condition, parts, Part.condition, Condition.join,
        flatMap_intercalate, Function.comp_def]
  | conjunction operands =>
      simp [condition, parts, Part.condition, Condition.conjunction,
        flatMap_intercalate, Function.comp_def]
  | paramList castText values =>
      simp [condition, parts, Part.condition, flatMap_intercalate,
        Function.comp_def, List.flatMap_map]
  | apply template columnName =>
      simp only [condition, parts, Template.symbols_apply, List.flatMap_assoc]
      refine List.flatMap_congr fun part _ => ?_
      cases part <;>
        simp [TemplatePart.pieces, TemplatePart.parts, Part.condition,
          TemplatePiece.symbols, Template.symbols_conditionPieces,
          Template.symbols_castPieces, List.flatMap_map]

end Construction

/-- A condition made by operations whose operands are made so too. -/
inductive IsConstructed : Condition → Prop where
  | of (construction : Construction)
      (operands : ∀ operand, .operand operand ∈ construction.parts →
        IsConstructed operand) :
      IsConstructed construction.condition

theorem values_flatMap_symbols (conditions : List Condition) :
    (conditions.flatMap symbols).filterMap Sum.getRight? =
      conditions.flatMap params := by
  rw [List.filterMap_flatMap]
  exact List.flatMap_congr fun condition _ =>
    (params_eq_filterMap_symbols condition).symm

/-- An occurrence of a condition in another one, between the conditions that
stand before it and after it: the condition is the whole, or it occurs in an
operand. -/
inductive OccursIn (occurring : Condition) :
    Condition → List Condition → List Condition → Prop where
  | whole : OccursIn occurring occurring [] []
  | within (construction : Construction) (earlier : List Part)
      {later : List Part} {operand : Condition} {before after : List Condition}
      (split : construction.parts = earlier ++ .operand operand :: later)
      (occurs : OccursIn occurring operand before after) :
      OccursIn occurring construction.condition
        (earlier.map Part.condition ++ before)
        (after ++ later.map Part.condition)

namespace OccursIn

variable {occurring whole : Condition} {before after : List Condition}

/-- The characters and values around an occurrence are those before and after
it. -/
theorem symbols_eq (occurs : OccursIn occurring whole before after) :
    whole.symbols = before.flatMap symbols ++ occurring.symbols ++
      after.flatMap symbols := by
  induction occurs with
  | whole => simp
  | within construction earlier split _ ih =>
      rw [construction.symbols_condition, split]
      simp [Part.condition, ih, List.append_assoc]

/-- The values of an occurrence stand between those before and after it. -/
theorem params_eq (occurs : OccursIn occurring whole before after) :
    whole.params = before.flatMap params ++ occurring.params ++
      after.flatMap params := by
  rw [params_eq_filterMap_symbols, occurs.symbols_eq, List.filterMap_append,
    List.filterMap_append, values_flatMap_symbols, values_flatMap_symbols,
    ← params_eq_filterMap_symbols]

/-- An occurrence is rendered as the condition is by itself, with the numbers of
its placeholders shifted by the number of values before it. -/
theorem render_eq (occurs : OccursIn occurring whole before after)
    (dialect : Dialect) :
    whole.render dialect =
      String.join (renderAll dialect 0 before) ++
        occurring.renderAfter dialect (before.flatMap params).length ++
        String.join (renderAll dialect
          ((before.flatMap params).length + occurring.params.length)
          after) := by
  rw [render_eq_writeSymbols, occurs.symbols_eq, writeSymbols_append,
    writeSymbols_append, join_renderAll, join_renderAll,
    renderAfter_eq_writeSymbols, List.filterMap_append, values_flatMap_symbols,
    ← params_eq_filterMap_symbols, List.length_append,
    Nat.zero_add, Nat.zero_add]

end OccursIn

/-! ## Empty conditions -/

/-- No piece of a condition is an empty text. -/
def HasNoEmptyText (condition : Condition) : Prop :=
  .sql "" ∉ condition.pieces

namespace HasNoEmptyText

variable {first second : Condition}

theorem empty : HasNoEmptyText .empty := by
  simp [HasNoEmptyText, Condition.empty]

theorem mem_of_mem_addText {text : String} (nonempty : text ≠ "")
    {pieces : List Piece} (member : .sql "" ∈ addText text pieces) :
    .sql "" ∈ pieces := by
  fun_induction addText text pieces with
  | case1 => simp [Ne.symm nonempty] at member
  | case2 last =>
      have isJoined : "" = last ++ text :=
        Piece.sql.inj (List.mem_singleton.mp member)
      exact absurd (String.append_eq_empty_iff.mp isJoined.symm).2 nonempty
  | case3 piece rest _ ih =>
      rcases List.mem_cons.mp member with isFirst | later
      · exact List.mem_cons.mpr (.inl isFirst)
      · exact List.mem_cons_of_mem _ (ih later)

theorem sql (full : first.HasNoEmptyText) (text : String) :
    (first.sql text).HasNoEmptyText := by
  unfold Condition.sql
  split
  next => exact full
  next nonempty => exact fun member => full (mem_of_mem_addText nonempty member)

theorem append (full : first.HasNoEmptyText)
    (fullOther : second.HasNoEmptyText) :
    (first ++ second).HasNoEmptyText :=
  fun member => (List.mem_append.mp member).elim full fullOther

theorem param (full : first.HasNoEmptyText) (value : SqlValue) :
    (first.param value).HasNoEmptyText :=
  full.append (show HasNoEmptyText ⟨[.param value]⟩ by simp [HasNoEmptyText])

theorem cast (full : first.HasNoEmptyText) (castText : Option String) :
    (first.cast castText).HasNoEmptyText := by
  cases castText with
  | none => exact full
  | some text => exact full.sql text

theorem raw (text : String) : (Condition.raw text).HasNoEmptyText :=
  empty.sql text

theorem foldl {α : Type} {add : Condition → α → Condition} {values : List α}
    (adds : ∀ joined : Condition, joined.HasNoEmptyText → ∀ value ∈ values,
      (add joined value).HasNoEmptyText) (full : first.HasNoEmptyText) :
    (values.foldl add first).HasNoEmptyText :=
  List.foldlRecOn values add full adds

theorem appendAll (separator : String) (full : first.HasNoEmptyText)
    {conditions : List Condition}
    (each : ∀ condition ∈ conditions, condition.HasNoEmptyText) :
    (appendAll separator first conditions).HasNoEmptyText := by
  cases conditions with
  | nil => exact full
  | cons next rest =>
      obtain ⟨fullNext, eachRest⟩ := List.forall_mem_cons.mp each
      exact foldl (fun joined full condition member =>
        (full.sql separator).append (eachRest condition member))
          (full.append fullNext)

theorem paramList (castText : Option String) (values : List SqlValue) :
    (Condition.paramList castText values).HasNoEmptyText := by
  cases values with
  | nil => exact empty
  | cons first rest =>
      exact foldl
        (fun joined full value _ => ((full.sql ", ").param value).cast castText)
        ((empty.param first).cast castText)

theorem apply (template : Template) (columnName : String) :
    (template.apply columnName).HasNoEmptyText := by
  refine foldl (fun joined full piece _ => ?_) empty
  cases piece with
  | sql text => exact full.sql text
  | param value => exact full.param value
  | column => exact full.sql columnName

end HasNoEmptyText

/-- An operation makes no empty text, unless there is one in an operand. -/
theorem Construction.hasNoEmptyText (construction : Construction)
    (operands : ∀ operand, .operand operand ∈ construction.parts →
      operand.HasNoEmptyText) :
    construction.condition.HasNoEmptyText := by
  have listed {separator : List Part} {operand : Condition}
      {conditions : List Condition} (member : operand ∈ conditions) :
      .operand operand ∈ separator.intercalate
        (conditions.map ([.operand ·])) :=
    mem_intercalate (List.mem_map_of_mem member) (List.mem_singleton_self _)
  cases construction with
  | empty => exact .empty
  | raw text => exact .raw text
  | sql operand text => exact (operands operand (by simp [parts])).sql text
  | param operand value =>
      exact (operands operand (by simp [parts])).param value
  | append first second =>
      exact (operands first (by simp [parts])).append
        (operands second (by simp [parts]))
  | negate operand =>
      exact ((HasNoEmptyText.raw "NOT (").append
        (operands operand (by simp [parts]))).sql ")"
  | join operator conditions =>
      refine ((HasNoEmptyText.raw "(").appendAll _ fun operand member => ?_).sql
        ")"
      exact operands operand (by simp [parts, listed member])
  | conjunction conditions =>
      refine HasNoEmptyText.empty.appendAll _ fun operand member => ?_
      exact operands operand (by simp [parts, listed member])
  | paramList castText values => exact .paramList castText values
  | apply template columnName => exact .apply _ columnName

theorem IsConstructed.hasNoEmptyText {condition : Condition}
    (constructed : condition.IsConstructed) : condition.HasNoEmptyText := by
  induction constructed with
  | of construction _ ih => exact construction.hasNoEmptyText ih

theorem HasNoEmptyText.isEmpty_iff_symbols {condition : Condition}
    (full : condition.HasNoEmptyText) :
    condition.isEmpty = true ↔ condition.symbols = [] := by
  obtain ⟨pieces⟩ := condition
  cases pieces with
  | nil => simp [isEmpty, symbols]
  | cons piece rest =>
      cases piece with
      | sql text =>
          have nonempty : text ≠ "" := by
            rintro rfl
            exact full List.mem_cons_self
          simp [isEmpty, symbols, Piece.symbols, nonempty]
      | param value => simp [isEmpty, symbols, Piece.symbols]

/-- A condition without characters and values is rendered as nothing, and no
other is. -/
theorem symbols_eq_nil_iff (condition : Condition) (dialect : Dialect) :
    condition.symbols = [] ↔ condition.render dialect = "" ∧
      condition.params = [] := by
  rw [render_eq_writeSymbols, params_eq_filterMap_symbols]
  cases condition.symbols with
  | nil => simp [writeSymbols]
  | cons symbol rest => cases symbol <;> simp [writeSymbols]

/-! ## Composition -/

/-- A condition in a template has its own text and values, whatever the
column. -/
theorem renderInto_conditionPieces (condition : Condition) (columnName : String)
    (dialect : Dialect) :
    (Template.apply ⟨Template.conditionPieces condition⟩ columnName).renderInto
      dialect {} = condition.renderInto dialect {} := by
  have same :
      (Template.apply ⟨Template.conditionPieces condition⟩ columnName).symbols =
      condition.symbols := by
    rw [Template.symbols_apply, Template.symbols_conditionPieces]
  rw [renderInto_start, renderInto_start, render_eq_of_symbols same,
    params_eq_of_symbols same]

/-- Conditions are composed without numbering placeholders again. Rendering
gives the values of a condition, with placeholders numbered from one on in their
places. Wherever a condition is used as an operand it is rendered as by itself,
its numbers shifted by the number of values before it. A template with a
condition in it is rendered as the condition, and a condition is empty when
nothing is rendered of it. -/
theorem rendering_composes {condition : Condition}
    (constructed : condition.IsConstructed) (dialect : Dialect) :
    condition.renderInto dialect {} =
      ⟨condition.render dialect, condition.params⟩ ∧
      (condition.params = (stretches condition.pieces).2.map Prod.fst ∧
        condition.render dialect = (stretches condition.pieces).1 ++
          String.join
            ((stretches condition.pieces).2.mapIdx fun index stretch =>
              dialect.placeholder (index + 1) ++ stretch.2)) ∧
      (∀ operand before after, OccursIn operand condition before after →
        condition.render dialect =
            String.join (renderAll dialect 0 before) ++
              operand.renderAfter dialect (before.flatMap params).length ++
              String.join (renderAll dialect
                ((before.flatMap params).length + operand.params.length)
                after) ∧
          condition.params = before.flatMap params ++ operand.params ++
            after.flatMap params) ∧
      (∀ columnName,
        (Template.apply ⟨Template.conditionPieces condition⟩
          columnName).renderInto dialect {} = condition.renderInto dialect {}) ∧
      (condition.isEmpty = true ↔ condition.render dialect = "" ∧
        condition.params = []) := by
  refine ⟨renderInto_start condition dialect,
    ⟨params_eq_stretches condition, render_eq_stretches condition dialect⟩,
    ?_, ?_, ?_⟩
  · intro operand before after occurs
    exact ⟨occurs.render_eq dialect, occurs.params_eq⟩
  · exact fun columnName =>
      renderInto_conditionPieces condition columnName dialect
  · rw [constructed.hasNoEmptyText.isEmpty_iff_symbols, symbols_eq_nil_iff]

/-- A list of values in a template, which is negated after another condition. -/
theorem rendering_composes_list :
    let list := paramList (some "::inet") [.text "10.0.0.1", .text "10.0.0.2"]
    let template : List TemplatePart :=
      [.column, .sql " IN (", .condition list, .sql ")"]
    let inner := (Construction.apply template "ip").condition
    let first := ((raw "id = ").param (.integer 1)).sql " AND "
    let whole := first ++ inner.negate
    let before := [first, raw "NOT (", raw "ip", raw " IN ("]
    whole.IsConstructed ∧ OccursIn list whole before [raw ")", raw ")"] ∧
      list.renderAfter .postgres 1 = "$2::inet, $3::inet" ∧
      whole.render .postgres = "id = $1 AND NOT (ip IN ($2::inet, $3::inet))" ∧
      whole.params = [.integer 1, .text "10.0.0.1", .text "10.0.0.2"] := by
  intro list template inner first whole before
  have isList : list.IsConstructed :=
    .of (.paramList (some "::inet") [.text "10.0.0.1", .text "10.0.0.2"]) (by
      simp [Construction.parts])
  have isInner : inner.IsConstructed :=
    .of (.apply template "ip") (by
      simpa [Construction.parts, template, TemplatePart.parts] using isList)
  have isNegated : inner.negate.IsConstructed :=
    .of (.negate inner) (by simpa [Construction.parts] using isInner)
  have isText : (raw "id = ").IsConstructed :=
    .of (.raw "id = ") (by simp [Construction.parts])
  have isCompared : ((raw "id = ").param (.integer 1)).IsConstructed :=
    .of (.param _ (.integer 1)) (by simpa [Construction.parts] using isText)
  have isFirst : first.IsConstructed :=
    .of (.sql _ " AND ") (by simpa [Construction.parts] using isCompared)
  have constructed : whole.IsConstructed :=
    .of (.append first inner.negate) (by
      simpa [Construction.parts] using And.intro isFirst isNegated)
  have occurs : OccursIn list whole before [raw ")", raw ")"] :=
    .within (.append first inner.negate) [.operand first] rfl
      (.within (.negate inner) [.text "NOT ("] rfl
        (.within (.apply template "ip") [.text "ip", .text " IN ("] rfl .whole))
  obtain ⟨-, -, operands, -⟩ := rendering_composes constructed .postgres
  obtain ⟨rendered, values⟩ := operands list _ _ occurs
  exact ⟨constructed, occurs, by decide +kernel,
    rendered.trans (by decide +kernel), values⟩

end Condition

end AttributeQuery
