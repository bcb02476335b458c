import AttributeQuery.Proofs.Filter.Grammar
import AttributeQuery.Proofs.Json.Rearrangement

/-!
# Numbers as operands

A number can stand in the text of a query as the operand of an equality or of a
comparison, at any depth. When the query is read, such a number becomes the
literal of a leaf: the texts before and after it make no difference, except that
of members with one key only the last one counts.
-/

namespace AttributeQuery

namespace Json.Outline

/-- The value of a key of an object, which is that of the last member with that
key. An object that starts with the embedding key has none. -/
inductive HasMember : Outline → String → Outline → Prop where
  | last (before after : List (List StringItem × Outline))
      {key : List StringItem} {name : String} {value : Outline}
      (isKey : decodeString? key = some name)
      (isLast : ∀ later ∈ after, decodeString? later.1 ≠ some name)
      (isObject : embeds (before ++ (key, value) :: after) = false) :
      HasMember (.object (before ++ (key, value) :: after)) name value

theorem HasMember.single {key : List StringItem} {name : String}
    {value : Outline} (isKey : decodeString? key = some name)
    (isObject : embeds [(key, value)] = false) :
    HasMember (.object [(key, value)]) name value :=
  .last [] [] isKey (by simp) isObject

/-- A number is the operand of an operator somewhere in a filter: the bare
number is that of an equality, and a combination of filters has the operands of
each. -/
inductive HasOperand : Outline → Operator → Numeral → Prop where
  | equals (numeral : Numeral) : HasOperand (.number numeral) .equals numeral
  | comparison {outline : Outline} {relation : Comparison} {numeral : Numeral}
      (member : outline.HasMember (Operator.comparison relation).name
        (.number numeral)) :
      HasOperand outline (.comparison relation) numeral
  | not {outline inner : Outline} {operator : Operator} {numeral : Numeral}
      (member : outline.HasMember Operator.not.name inner)
      (operand : HasOperand inner operator numeral) : HasOperand outline
      operator numeral
  | all {outline item : Outline} {items : List Outline} {operator : Operator}
      {numeral : Numeral}
      (member : outline.HasMember Operator.all.name (.array items))
      (isItem : item ∈ items) (operand : HasOperand item operator numeral) :
      HasOperand outline operator numeral
  | any {outline item : Outline} {items : List Outline} {operator : Operator}
      {numeral : Numeral}
      (member : outline.HasMember Operator.any.name (.array items))
      (isItem : item ∈ items) (operand : HasOperand item operator numeral) :
      HasOperand outline operator numeral

end Json.Outline

/-! ## Values of members and items -/

namespace Json.Value

variable {embedded? : String → Option Value} {depth : Nat}

/-- What a text is read as depends on its outline and on the texts embedded in
it. -/
theorem ofText?_eq_ofOutline? {text : String} {outline : Outline}
    (isOutline : Outline.ofText? text = some outline) :
    ofText? text =
      ofOutline? (ofTextWithin text.length) maximalDepth outline := by
  rw [ofText?, ofTextWithin, isOutline]
  rfl

/-- Each member is read, and the members after it keep their keys. -/
theorem membersOfOutline?_middle
    {before after : List (List StringItem × Outline)} {key : List StringItem}
    {member : Outline} {values : List (String × Value)}
    (read : membersOfOutline? embedded? depth
      (before ++ (key, member) :: after) = some values) :
    ∃ earlier text value later, values = earlier ++ (text, value) :: later ∧
      decodeString? key = some text ∧ ofOutline? embedded? depth member =
        some value ∧
      (after.map fun member => decodeString? member.1) = later.map fun value =>
        some value.1 := by
  induction before generalizing values with
  | nil =>
      obtain ⟨text, value, later, isText, readMember, readAfter, rfl⟩ :=
        membersOfOutline?_cons_eq_some.mp read
      exact ⟨[], text, value, later, rfl, isText, readMember,
        keys_of_membersOfOutline? readAfter⟩
  | cons first rest ih =>
      obtain ⟨firstText, firstValue, others, -, -, readRest, rfl⟩ :=
        membersOfOutline?_cons_eq_some.mp read
      obtain ⟨earlier, text, value, later, rfl, found⟩ := ih readRest
      exact ⟨(firstText, firstValue) :: earlier, text, value, later, rfl, found⟩

/-- The value of a key is read with the object. -/
theorem exists_member_of_ofOutline? {outline member : Outline} {name : String}
    (hasMember : outline.HasMember name member) {value : Value}
    (read : ofOutline? embedded? depth outline = some value) :
    ∃ members inner below, value = .object members ∧ (name, inner) ∈ members ∧
      ofOutline? embedded? below member = some inner := by
  cases hasMember with
  | last before after isKey isLast isObject =>
      cases depth with
      | zero => simp [ofOutline?] at read
      | succ below =>
          rw [ofOutline?, isObject] at read
          obtain ⟨values, readMembers, rfl⟩ := Option.map_eq_some_iff.mp read
          obtain ⟨earlier, text, inner, later, rfl, isText, readMember, keys⟩ :=
            membersOfOutline?_middle readMembers
          obtain rfl : text = name := Option.some.inj (isText.symm.trans isKey)
          refine ⟨_, inner, below, rfl, Sorted.mem_ofEntries_of_last earlier ?_,
            readMember⟩
          intro entry isLater same
          have isKeyOfLater : some text ∈ later.map fun value => some value.1 :=
            List.mem_map.mpr ⟨entry, isLater, congrArg some same⟩
          rw [← keys] at isKeyOfLater
          obtain ⟨member, isAfter, isSame⟩ := List.mem_map.mp isKeyOfLater
          exact isLast member isAfter isSame

theorem itemsOfOutline?_eq_some {items : List Outline} {values : List Value} :
    itemsOfOutline? embedded? depth items = some values ↔
      List.Forall₂
        (fun item value => ofOutline? embedded? depth item = some value)
        items values := by
  induction items generalizing values with
  | nil => simp [itemsOfOutline?, eq_comm]
  | cons item rest ih =>
      simp only [itemsOfOutline?, Option.bind_eq_bind, Option.bind_eq_some_iff,
        List.forall₂_cons_left_iff, ih]
      constructor
      · rintro ⟨value, readItem, later, readRest, returned⟩
        exact ⟨value, later, readItem, readRest,
          (Option.some.inj returned).symm⟩
      · rintro ⟨value, later, readItem, readRest, rfl⟩
        exact ⟨value, readItem, later, readRest, rfl⟩

/-- Each item of an array is read with the array. -/
theorem exists_item_of_ofOutline? {items : List Outline} {item : Outline}
    (isItem : item ∈ items) {value : Value}
    (read : ofOutline? embedded? depth (.array items) = some value) :
    ∃ values inner below, value = .array values ∧ inner ∈ values ∧
      ofOutline? embedded? below item = some inner := by
  cases depth with
  | zero => simp [ofOutline?] at read
  | succ below =>
      rw [ofOutline?] at read
      obtain ⟨values, readItems, rfl⟩ := Option.map_eq_some_iff.mp read
      obtain ⟨inner, isValue, readItem⟩ :=
        exists_of_forall₂_left (itemsOfOutline?_eq_some.mp readItems) isItem
      exact ⟨values, inner, below, rfl, isValue, readItem⟩

end Json.Value

/-! ## Leaves of filters -/

/-- The literal that a leaf compares the values of its attribute with. -/
inductive Leaf.Compares : Leaf → Literal → Prop where
  | equals (literal : Literal) : Compares (.equals literal) literal
  | comparison (relation : Comparison) (literal : Literal) :
      Compares (.comparison relation literal) literal

namespace Filter

theorem mem_leavesOfAll {children : List Filter} {child : Filter}
    (isChild : child ∈ children) {leaf : Leaf} (isLeaf : leaf ∈ child.leaves) :
    leaf ∈ leavesOfAll children := by
  induction children with
  | nil => cases isChild
  | cons first rest ih =>
      rw [leavesOfAll, List.mem_append]
      rcases List.mem_cons.mp isChild with rfl | isLater
      · exact .inl isLeaf
      · exact .inr (ih isLater)

/-- A leaf with an operator compares with a number. -/
def HasNumber (filter : Filter) (operator : Operator) (number : Json.Number) :
    Prop :=
  ∃ leaf ∈ filter.leaves, leaf.operator = operator ∧
    leaf.Compares (.ofNumber number)

variable {embedded? : String → Option Json.Value} {depth : Nat}
  {value : Json.Value}

/-- An object that is read as a filter and has a member has no other. -/
theorem exists_argument_of_ofJson {outline written : Json.Outline}
    {name : String} (member : outline.HasMember name written)
    (readValue : Json.Value.ofOutline? embedded? depth outline = some value)
    {filter : Filter} (read : Filter.ofJson value = .ok filter) :
    ∃ argument below,
      Json.Value.ofOutline? embedded? below written = some argument ∧
      Filter.ofJson (.object [(name, argument)]) = .ok filter := by
  obtain ⟨members, argument, below, rfl, isMember, readArgument⟩ :=
    Json.Value.exists_member_of_ofOutline? member readValue
  rcases scalar_or_member_of_ofJson read with isScalar | ⟨other,
    single, isObject⟩
  · cases isScalar
  · obtain rfl := Json.Value.object.inj isObject
    rw [← List.mem_singleton.mp isMember] at read
    exact ⟨argument, below, readArgument, read⟩

/-- Of the filters of a list, one is read from each item. -/
theorem exists_child_of_listOfJson {items : List Json.Outline}
    {item : Json.Outline} (isItem : item ∈ items)
    (readValue : Json.Value.ofOutline? embedded? depth (.array items) =
      some value)
    {operator : Operator} {children : List Filter}
    (read : listOfJson operator value = .ok children) :
    ∃ child ∈ children, ∃ inner below,
      Json.Value.ofOutline? embedded? below item = some inner ∧
        Filter.ofJson inner = .ok child := by
  obtain ⟨values, inner, below, rfl, isValue, readItem⟩ :=
    Json.Value.exists_item_of_ofOutline? isItem readValue
  obtain ⟨child, isChild, readChild⟩ :=
    exists_of_forall₂_left (itemsOfJson_eq_ok.mp read) isValue
  exact ⟨child, isChild, inner, below, readItem, readChild⟩

/-- An operand is read as a number, and that becomes the literal of a leaf. -/
theorem exists_hasNumber {outline : Json.Outline} {operator : Operator}
    {numeral : Json.Numeral} (operand : outline.HasOperand operator numeral)
    (readValue : Json.Value.ofOutline? embedded? depth outline = some value)
    {filter : Filter} (read : Filter.ofJson value = .ok filter) :
    ∃ number, numeral.number? = some number ∧
      filter.HasNumber operator number := by
  induction operand generalizing depth value filter with
  | equals numeral =>
      obtain ⟨number, isNumber, rfl⟩ := Option.map_eq_some_iff.mp readValue
      rw [ofJson_scalar (.number number)] at read
      obtain rfl := Except.ok.inj read
      exact ⟨number, isNumber, _, List.mem_cons_self, rfl,
        .equals (.ofNumber number)⟩
  | @comparison _ relation numeral member =>
      obtain ⟨argument, below, readArgument, read⟩ :=
        exists_argument_of_ofJson member readValue read
      obtain ⟨number, isNumber, rfl⟩ := Option.map_eq_some_iff.mp readArgument
      simp only [Filter.ofJson, Operator.ofName?_name
        (by simp : Operator.comparison relation ≠ .equals)] at read
      obtain rfl := Except.ok.inj read
      exact ⟨number, isNumber, _, List.mem_cons_self, rfl,
        .comparison relation (.ofNumber number)⟩
  | not member _ ih =>
      obtain ⟨argument, below, readArgument, read⟩ :=
        exists_argument_of_ofJson member readValue read
      simp only [Filter.ofJson,
        Operator.ofName?_name (by simp : Operator.not ≠ .equals)] at read
      obtain ⟨negated, readNegated, rfl⟩ := map_eq_ok.mp read
      obtain ⟨number, isNumber, hasNumber⟩ := ih readArgument readNegated
      exact ⟨number, isNumber, hasNumber⟩
  | all member isItem _ ih =>
      obtain ⟨argument, below, readArgument, read⟩ :=
        exists_argument_of_ofJson member readValue read
      simp only [Filter.ofJson,
        Operator.ofName?_name (by simp : Operator.all ≠ .equals)] at read
      obtain ⟨children, readChildren, rfl⟩ := map_eq_ok.mp read
      obtain ⟨child, isChild, value, within, readItem, readChild⟩ :=
        exists_child_of_listOfJson isItem readArgument readChildren
      obtain ⟨number, isNumber, leaf, isLeaf, isLiteral⟩ :=
        ih readItem readChild
      exact ⟨number, isNumber, leaf, mem_leavesOfAll isChild isLeaf, isLiteral⟩
  | any member isItem _ ih =>
      obtain ⟨argument, below, readArgument, read⟩ :=
        exists_argument_of_ofJson member readValue read
      simp only [Filter.ofJson,
        Operator.ofName?_name (by simp : Operator.any ≠ .equals)] at read
      obtain ⟨children, readChildren, rfl⟩ := map_eq_ok.mp read
      obtain ⟨child, isChild, value, within, readItem, readChild⟩ :=
        exists_child_of_listOfJson isItem readArgument readChildren
      obtain ⟨number, isNumber, leaf, isLeaf, isLiteral⟩ :=
        ih readItem readChild
      exact ⟨number, isNumber, leaf, mem_leavesOfAll isChild isLeaf, isLiteral⟩

end Filter

/-! ## Queries -/

namespace Query

theorem exists_filter_of_ofMembers {members : List (String × Json.Value)}
    {query : Query} (read : ofMembers members = .ok query) {name : String}
    {value : Json.Value} (member : (name, value) ∈ members) :
    ∃ filter, (name, filter) ∈ query ∧ Filter.ofJson value = .ok filter := by
  induction members generalizing query with
  | nil => cases member
  | cons first rest ih =>
      obtain ⟨filter, readFirst, later⟩ := bind_eq_ok.mp read
      obtain ⟨filters, readRest, returned⟩ := bind_eq_ok.mp later
      rw [← pure_eq_ok.mp returned]
      rcases List.mem_cons.mp member with rfl | isLater
      · exact ⟨filter, List.mem_cons_self, readFirst⟩
      · obtain ⟨other, isOther, readOther⟩ := ih readRest isLater
        exact ⟨other, List.mem_cons_of_mem _ isOther, readOther⟩

/-- The number that is an operand in the text of a query is the literal of a
leaf of the filter of its attribute. -/
theorem exists_hasNumber_of_ofText {text : String} {query : Query}
    (parsed : ofText text = .ok query) {outline written : Json.Outline}
    (isOutline : Json.Outline.ofText? text = some outline) {id : AttributeId}
    (member : outline.HasMember id written) {operator : Operator}
    {numeral : Json.Numeral} (operand : written.HasOperand operator numeral) :
    ∃ filter number, (id, filter) ∈ query ∧ numeral.number? = some number ∧
      filter.HasNumber operator number := by
  unfold ofText at parsed
  split at parsed
  next members isObject =>
    rw [Json.Value.ofText?_eq_ofOutline? isOutline] at isObject
    obtain ⟨_, value, below, sameObject, isMember, readValue⟩ :=
      Json.Value.exists_member_of_ofOutline? member isObject
    obtain rfl := Json.Value.object.inj sameObject
    obtain ⟨filter, isFilter, read⟩ :=
      exists_filter_of_ofMembers parsed isMember
    obtain ⟨number, isNumber, hasNumber⟩ :=
      Filter.exists_hasNumber operand readValue read
    exact ⟨filter, number, isFilter, isNumber, hasNumber⟩
  next => cases parsed
  next => cases parsed

end Query

end AttributeQuery
