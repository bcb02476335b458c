import AttributeQuery.Proofs.Json.Integers
import AttributeQuery.Proofs.Query.Binding

/-!
# Integers in queries

An integer that is an operand of a number attribute in the text of a query is
bound as the numeral of that integer if it has 64 bits with sign. Any other is
not refused, although there is no value that it could be kept in: it becomes the
nearest double, and what is bound is the shortest decimal of that, with zeros
for all further digits.
-/

namespace AttributeQuery.Compiler

/-- What is bound for an integer in the text of a query. It is that integer
exactly if the integer has 64 bits with sign or happens to be the shortest
decimal of the double it becomes; without 64 bits it is in any case a multiple
of a thousand. -/
theorem compileCondition_binds_integer {compiler : Compiler} {text : String}
    {query : Query} (parsed : Query.ofText text = .ok query)
    {outline written : Json.Outline}
    (isOutline : Json.Outline.ofText? text = some outline) {attr : Attribute}
    (found : compiler.schema.findAttribute? attr.id = some attr)
    (isNumber : attr.type = .scalar .number)
    (member : outline.HasMember attr.id written) {operator : Operator}
    {numeral : Json.Numeral} (operand : written.HasOperand operator numeral)
    {value : Int} (denotes : numeral.Denotes value) :
    ∃ filter number, (attr.id, filter) ∈ query ∧ numeral.number? = some number ∧
      filter.HasNumber operator number ∧
      ∀ servertypes hostnames condition,
        compiler.compileCondition servertypes attr.id filter hostnames =
          .ok condition →
        ∃ bound shown, SqlValue.text bound ∈ condition.params ∧
          encodeValue attr.id .number (.ofNumber number) = .ok (.text bound) ∧
          Text.Numeral.integer? bound = some shown ∧
          (shown = value ↔ IsSigned value ∨ ∃ negative magnitude,
            Literal.ofNumber number = .float (.finite negative magnitude) ∧
              Decimal.writtenInteger negative magnitude = value) ∧
          (¬IsSigned value → 1000 ∣ shown) := by
  obtain ⟨filter, number, inQuery, isRead, hasNumber⟩ :=
    Query.exists_hasNumber_of_ofText parsed isOutline member operand
  refine ⟨filter, number, inQuery, isRead, hasNumber, ?_⟩
  intro servertypes hostnames condition compiled
  obtain ⟨candidates, -, compiled⟩ := bind_eq_ok.mp compiled
  obtain ⟨other, location, foundOther, -, compiledFilter⟩ :=
    conditionIn_eq_ok.mp compiled
  obtain rfl := Option.some.inj (found.symm.trans foundOther)
  have notBoolean : attr.isBoolean = false := by
    simp [Attribute.isBoolean, isNumber]
  obtain ⟨leaf, isLeaf, -, compares⟩ := hasNumber
  obtain ⟨bound, isOperand, isParam⟩ :=
    Filter.compile_binds notBoolean compares isLeaf compiledFilter
  have encoded : encodeValue attr.id .number (.ofNumber number) =
      .ok bound := by
    simp only [Predicate.operand, isNumber] at isOperand
    obtain ⟨encoded, isEncoded, returned⟩ := bind_eq_ok.mp isOperand
    rw [isEncoded, (Prod.mk.inj (pure_eq_ok.mp returned)).1]
  obtain ⟨boundText, shown, rfl, isShown, same, divides⟩ :=
    Literal.encodeValue_ofNumber denotes isRead encoded
  exact ⟨boundText, shown, isParam, encoded, isShown, same, divides⟩

/-- The sizes above the greatest integer of 64 bits with sign. -/
theorem compileCondition_binds_integer_size :
    let size : Attribute := { id := "size", type := .scalar .number }
    let compiler : Compiler := ⟨⟨["vm"], [size], [⟨"vm", "size", none⟩]⟩, {}⟩
    let text := "\x7b\"size\": \x7b\"GreaterThan\": 9223372036854775807\x7d\x7d"
    ∃ filter condition bound, Query.ofText text = .ok [("size", filter)] ∧
      compiler.compileCondition ["vm"] "size" filter {} = .ok condition ∧
      SqlValue.text bound ∈ condition.params ∧
      Text.Numeral.integer? bound = some 9223372036854775807 := by
  intro size compiler text
  let spell (word : String) : List Json.StringItem := word.toList.map .char
  let numeral : Json.Numeral :=
    { negative := false, whole := "9223372036854775807".toList,
        isWhole := true }
  let greatest : Json.WholeNumber := ⟨9223372036854775807, by decide⟩
  let written : Json.Outline := .object [(spell "GreaterThan", .number numeral)]
  let filter : Filter :=
    .leaf (.comparison .greaterThan (.ofNumber (.whole greatest)))
  have isOutline : Json.Outline.ofText? text =
      some (.object [(spell "size", written)]) := by
    simp only [text, written, spell, numeral]
    rfl
  have isNumber : numeral.number? = some (.whole greatest) := by cbv
  have read : Json.Value.ofText? text =
      some (.object
        [("size", .object [("GreaterThan", .number (.whole greatest))])]) := by
    rw [Json.Value.ofText?_eq_ofOutline? isOutline]
    simp [written, spell, Json.Value.ofOutline?, Json.embeds,
      Json.Value.membersOfOutline?, Json.decodeString?, Json.decodeItems?,
      Json.embeddingKey, Json.maximalDepth, Sorted.ofEntries,
      Sorted.insertEntry, isNumber]
  have parsed : Query.ofText text = .ok [("size", filter)] := by
    rw [Query.ofText, read]
    rfl
  have compiles : ∃ condition,
      compiler.compileCondition ["vm"] "size" filter {} = .ok condition :=
    isOk_iff.mp (by decide +kernel)
  obtain ⟨condition, compiled⟩ := compiles
  have found : compiler.schema.findAttribute? size.id = some size := by decide
  have member : Json.Outline.HasMember (.object [(spell "size", written)])
      "size" written :=
    .single (by decide) (by decide)
  have argument : written.HasMember "GreaterThan" (.number numeral) :=
    .single (by decide) (by decide)
  have operand : written.HasOperand (.comparison .greaterThan) numeral :=
    .comparison argument
  have denotes : numeral.Denotes 9223372036854775807 :=
    .integer false _ 9223372036854775807 (by decide)
  obtain ⟨other, number, isFilter, -, -, binds⟩ :=
    compileCondition_binds_integer parsed isOutline found rfl member
      operand denotes
  obtain rfl : other = filter :=
    (Prod.mk.inj (List.mem_singleton.mp isFilter)).2
  obtain ⟨bound, shown, isParam, -, isShown, same, -⟩ :=
    binds ["vm"] {} condition compiled
  have isSigned : IsSigned 9223372036854775807 := by decide
  rw [same.mpr (.inl isSigned)] at isShown
  exact ⟨filter, condition, bound, parsed, compiled, isParam, isShown⟩

/-- An integer beyond 64 bits with sign is not refused and not kept: the
condition that the size is 9223372036854775809 asks for another size. -/
theorem compileCondition_changes_integer :
    let size : Attribute := { id := "size", type := .scalar .number }
    let compiler : Compiler := ⟨⟨["vm"], [size], [⟨"vm", "size", none⟩]⟩, {}⟩
    let text := "\x7b\"size\": 9223372036854775809\x7d"
    let numeral : Json.Numeral :=
      { negative := false, whole := "9223372036854775809".toList,
          isWhole := true }
    numeral.Denotes 9223372036854775809 ∧
    ∃ key filter condition,
      Json.Outline.ofText? text = some (.object [(key, .number numeral)]) ∧
      Query.ofText text = .ok [("size", filter)] ∧
      compiler.compileCondition ["vm"] "size" filter {} = .ok condition ∧
      condition.params = [.text "size", .text "9223372036854776000"] ∧
      ∀ bound, SqlValue.text bound ∈ condition.params →
        Text.Numeral.integer? bound ≠ some 9223372036854775809 := by
  intro size compiler text numeral
  let key : List Json.StringItem := "size".toList.map .char
  let given : Json.WholeNumber := ⟨9223372036854775809, by decide⟩
  let filter : Filter := .equals (.ofNumber (.whole given))
  have isOutline : Json.Outline.ofText? text =
      some (.object [(key, .number numeral)]) := by
    simp only [text, key, numeral]
    rfl
  have isNumber : numeral.number? = some (.whole given) := by cbv
  have read : Json.Value.ofText? text =
      some (.object [("size", .number (.whole given))]) := by
    rw [Json.Value.ofText?_eq_ofOutline? isOutline]
    simp [key, Json.Value.ofOutline?, Json.embeds, Json.Value.membersOfOutline?,
      Json.decodeString?, Json.decodeItems?, Json.embeddingKey,
      Json.maximalDepth, Sorted.ofEntries, Sorted.insertEntry, isNumber]
  have parsed : Query.ofText text = .ok [("size", filter)] := by
    rw [Query.ofText, read]
    rfl
  have compiles :
      (compiler.compileCondition ["vm"] "size" filter {}).toOption.map
      Condition.params = some [.text "size", .text "9223372036854776000"] := by
    decide +kernel
  obtain ⟨condition, compiled, params⟩ := Option.map_eq_some_iff.mp compiles
  refine ⟨.integer false _ 9223372036854775809 (by decide), key, filter,
    condition, isOutline, parsed, toOption_eq_some.mp compiled, params, ?_⟩
  rw [params]
  have shown : Text.Numeral.integer? "9223372036854776000" =
      some 9223372036854776000 := by
    decide +kernel
  simp only [List.mem_cons, SqlValue.text.injEq, List.not_mem_nil, or_false]
  rintro bound (rfl | rfl)
  · decide
  · simp [shown]

end AttributeQuery.Compiler
