import AttributeQuery.Proofs.Sql.Operands

/-!
# Reading listings

A statement lists columns of those rows of a table for which a condition is
true, in the order of some columns. Its clauses are found by the words that
begin them. The columns end at the first FROM, and the order begins at the last
ORDER, so nothing has to be known about the condition that stands between.
-/

namespace AttributeQuery.Sql

/-- What a statement lists: columns of the rows of a table that meet a
condition; the condition has a name for the row. -/
structure Listing where
  columns : List Operand
  table : String
  rowName : String
  condition : Expression
  order : List Operand

/-- The items before the last separator, and those after it. -/
def splitAtLast? (isSeparator : Item → Bool) :
    List Item → Option (List Item × List Item)
  | [] => none
  | item :: rest =>
      match splitAtLast? isSeparator rest with
      | some (before, after) => some (item :: before, after)
      | none => if isSeparator item then some ([], rest) else none

/-- The condition of a listing, and its order. -/
def restriction? (items : List Item) : Option (Expression × List Operand) :=
  match splitAtLast? (Item.isWord "ORDER") items with
  | some (before, .word "BY" :: after) => do return (← condition? before,
      ← operands? after)
  | _ => none

/-- The listing of items. -/
def listing? : List Item → Option Listing
  | .word "SELECT" :: items =>
      match items.dropWhile (!·.isWord "FROM") with
      | .word "FROM" :: .word table :: .word "AS" :: .word rowName ::
            .word "WHERE" :: rest => do
          let columns ← operands? (items.takeWhile (!·.isWord "FROM"))
          let (condition, order) ← restriction? rest
          return { columns, table, rowName, condition, order }
      | _ => none
  | _ => none

section Separator

variable {isSeparator : Item → Bool} {before after : List Item}
  {separator : Item}

/-- Items without a separator are not split. -/
theorem splitAtLast?_eq_none
    (apart : ∀ item ∈ after, isSeparator item = false) :
    splitAtLast? isSeparator after = none := by
  induction after with
  | nil => rfl
  | cons item rest ih =>
      have apartRest : ∀ item ∈ rest, isSeparator item = false := by
        intro item member
        exact apart item (List.mem_cons_of_mem _ member)
      simp [splitAtLast?, ih apartRest, apart item List.mem_cons_self]

/-- Items are split at a separator after which there is none. -/
theorem splitAtLast?_append (isOne : isSeparator separator = true)
    (apart : ∀ item ∈ after, isSeparator item = false) :
    splitAtLast? isSeparator (before ++ separator :: after) =
      some (before, after) := by
  induction before with
  | nil => simp [splitAtLast?, splitAtLast?_eq_none apart, isOne]
  | cons item rest ih => simp [splitAtLast?, ih]

end Separator

section Listing

variable {columnItems items orderItems : List Item}
  {columns order : List Operand}
variable {parts : List Expression}

/-- The clauses of a listing are found behind the words that begin them. -/
theorem listing?_clauses (table rowName : String)
    (noSource : ∀ item ∈ columnItems, item.isWord "FROM" = false)
    (readColumns : operands? columnItems = some columns)
    (conjoins : Conjoins items parts)
    (noOrder : ∀ item ∈ orderItems, item.isWord "ORDER" = false)
    (readOrder : operands? orderItems = some order) :
    listing?
        (.word "SELECT" :: columnItems ++
          .word "FROM" :: .word table :: .word "AS" :: .word rowName ::
          .word "WHERE" :: items ++
          .word "ORDER" :: .word "BY" :: orderItems) =
      some { columns, table, rowName, condition := .allOf parts, order } := by
  have noOther : ∀ item ∈ Item.word "BY" :: orderItems,
      item.isWord "ORDER" = false := by
    intro item member
    cases List.mem_cons.mp member with
    | inl isBy =>
        rw [isBy]
        rfl
    | inr later => exact noOrder item later
  have restricted : restriction?
      (items ++ .word "ORDER" :: .word "BY" :: orderItems) =
      some (.allOf parts, order) := by
    rw [restriction?, splitAtLast?_append rfl noOther]
    simp [conjoins.condition?, readOrder]
  have isColumn : ∀ item ∈ columnItems, (!item.isWord "FROM") = true := by
    simpa using noSource
  have isSource : (Item.word "FROM").isWord "FROM" = true := rfl
  simp [listing?, List.takeWhile_append_of_pos isColumn,
    List.dropWhile_append_of_pos isColumn, isSource, readColumns, restricted]

end Listing

end AttributeQuery.Sql
