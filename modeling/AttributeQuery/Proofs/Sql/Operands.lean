import AttributeQuery.Proofs.Sql.Composition
import AttributeQuery.Proofs.Sql.Symbols

/-!
# Reading columns and bound values

A column stands with the name of its row before it. A bound value may have a
cast after it, and lists of bound values have commas between them. In a template
a list is put piece after piece, which reads as the list does.
-/

namespace AttributeQuery.Sql

/-- A text that names a column of a row. -/
structure IsColumn (text qualifier name : String) : Prop where
  isQualifier : IsWord qualifier
  isName : IsWord name
  text : text = qualifier ++ "." ++ name

theorem IsColumn.spells {text qualifier name : String}
    (isColumn : IsColumn text qualifier name) :
    Spells text.toList [.word qualifier, .dot, .word name] .settled := by
  rw [isColumn.text]
  exact .qualified isColumn.isQualifier isColumn.isName

/-- The text of a cast, if there is one, and the type it converts to. -/
inductive IsCast : Option String → Option String → Prop where
  | none : IsCast none none
  | type {text type : String} (isType : type ≠ "AND" ∧ type ≠ "OR")
      (apart : startsApart text.toList = true)
      (spells : Spells text.toList [.operator "::", .word type] .settled) :
      IsCast (some text) (some type)

/-- The items of a cast. -/
def castItems : Option String → List Item
  | none => []
  | some type => [.operator "::", .word type]

/-- A bound value with a cast. -/
def Operand.boundAs (type : Option String) (value : SqlValue) : Operand :=
  match type with
  | none => .bound value
  | some type => .cast (.bound value) type

theorem wholeOperand?_bound (type : Option String) (value : SqlValue) :
    wholeOperand? (.bound value :: castItems type) =
      some (.boundAs type value) := by
  cases type <;> rfl

/-- No keyword stands in a cast. -/
theorem isWord_castItems {text type : Option String}
    (isCast : IsCast text type) :
    ∀ item ∈ castItems type, item.isWord "OR" = false ∧
      item.isWord "AND" = false := by
  cases isCast with
  | none => simp [castItems]
  | type isType => simp [castItems, Item.isWord, isType]

theorem isComma_castItems (type : Option String) :
    ∀ item ∈ castItems type, item.isComma = false := by
  cases type <;> simp [castItems, Item.isComma]

theorem operands?_bound (type : Option String) (value : SqlValue) :
    operands? (.bound value :: castItems type) =
      some [.boundAs type value] := by
  refine separated?_single ?_ (wholeOperand?_bound type value)
  intro item member
  rcases List.mem_cons.mp member with rfl | later
  · rfl
  · exact isComma_castItems type item later

/-- An operator before a bound value is no cast of what stands before it. -/
theorem casts_bound (operand : Operand) (symbol : String) (value : SqlValue)
    (rest : List Item) :
    casts operand (.operator symbol :: .bound value :: rest) =
      (operand, .operator symbol :: .bound value :: rest) := by
  unfold casts
  split
  next equal => simp at equal
  next => rfl

/-- That a column is compared with a bound value. -/
theorem negation?_compare (qualifier name symbol : String)
    (type : Option String) (value : SqlValue) :
    negation?
      (.column qualifier name :: .operator symbol :: .bound value ::
        castItems type) =
      some (.compare symbol (.column qualifier name)
        (.boundAs type value)) := by
  simp [negation?, predicate?, operand?, primary?, casts_bound, relation?,
    wholeOperand?_bound]

/-- That a column is one of the operands in parentheses. -/
theorem negation?_inList {items : List Item} {members : List Operand}
    (read : operands? items = some members) (qualifier name : String) :
    negation? [.column qualifier name, .word "IN", .group (.of items)] =
      some (.inList (.column qualifier name) members) := by
  have related : relation? (.column qualifier name)
      [.word "IN", .group (.of items)] =
      some (.inList (.column qualifier name) members) := by
    simp [relation?, Group.of, read]
  exact related

end AttributeQuery.Sql

namespace AttributeQuery.Condition

open Sql

variable {condition : Condition} {start middle stop : Assembly}
  {ending : Ending}
variable {castText type : Option String}

/-- A column, after a condition that ends between two tokens. -/
theorem Reads.column {text qualifier name : String}
    (isColumn : IsColumn text qualifier name) {outer : List (List Item)}
    {items : List Item}
    (reads : condition.Reads start ⟨outer, items, none⟩ .free) :
    (condition.sql text).Reads start
      ⟨outer, .column qualifier name :: items, none⟩ .settled :=
  reads.sql (.inl rfl) isColumn.spells rfl rfl

/-- A bound value with its cast. -/
theorem Reads.cast (isCast : IsCast castText type) {outer : List (List Item)}
    {items : List Item}
    (reads : condition.Reads start ⟨outer, items, none⟩ .settled) :
    (condition.cast castText).Reads start
      ⟨outer, (castItems type).reverse ++ items, none⟩ .settled := by
  cases isCast with
  | none => exact reads
  | type _ apart spells => exact reads.sql (.inr apart) spells rfl rfl

/-- A list of bound values is read as a list of operands. -/
theorem paramList_isRead (isCast : IsCast castText type) (first : SqlValue)
    (rest : List SqlValue) :
    ∃ items, (paramList castText (first :: rest)).IsRead items ∧
      operands? items = some ((first :: rest).map (.boundAs type)) := by
  have comma : Sql.Spells ", ".toList [.comma] .free := .of_run (by decide)
  have folded : ∀ (rest : List SqlValue) {list : Condition} {items : List Item}
      {operands : List Operand}, list.IsRead items →
      operands? items = some operands →
      ∃ all, (rest.foldl
        (fun list value => ((list.sql ", ").param value).cast castText)
        list).IsRead all ∧
        operands? all = some (operands ++ rest.map (.boundAs type)) := by
    intro rest
    induction rest with
    | nil =>
        intro list items operands reads read
        exact ⟨items, reads, by simpa using read⟩
    | cons value rest ih =>
        intro list items operands reads read
        have extended : (((list.sql ", ").param value).cast castText).IsRead
            (items ++ .comma :: .bound value :: castItems type) := by
          intro outer before
          have separated : (list.sql ", ").Reads ⟨outer, before, none⟩
              ⟨outer, .comma :: (items.reverse ++ before), none⟩ .free :=
            (reads outer before).sql (.inr rfl) comma rfl rfl
          simpa using (separated.param value).cast isCast
        obtain ⟨all, readsAll, readAll⟩ := ih extended
          (separated?_append rfl read (operands?_bound type value))
        exact ⟨all, readsAll, by simpa using readAll⟩
  have single : ((Condition.empty.param first).cast castText).IsRead
      (.bound first :: castItems type) := by
    intro outer before
    simpa using ((Reads.empty ⟨outer, before, none⟩).param first).cast isCast
  obtain ⟨all, readsAll, readAll⟩ :=
    folded rest single (operands?_bound type first)
  exact ⟨all, readsAll, by simpa using readAll⟩

/-! ## Conditions in templates -/

/-- A condition put after another one, piece after piece, is read as it is. -/
theorem Reads.foldl_applyPiece {first second : Condition}
    (readsFirst : first.Reads start middle .free)
    (readsSecond : second.Reads middle stop ending) (columnName : String) :
    ((Template.conditionPieces second).foldl (Template.applyPiece columnName)
      first).Reads start stop ending := by
  obtain ⟨lexemes, spells, read⟩ := readsFirst.append readsSecond
  refine ⟨lexemes, spells.of_symbols ?_, read⟩
  rw [Template.symbols_foldl_applyPiece, Template.symbols_conditionPieces,
    symbols_append]

end AttributeQuery.Condition
