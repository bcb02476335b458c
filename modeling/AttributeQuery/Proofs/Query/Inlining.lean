import AttributeQuery.Proofs.Query.Listing

/-!
# Inlined statements

The text of a statement with its values inlined has the same tokens as the text
with placeholders, except that each placeholder has become one literal, and that
literal denotes the value bound to it. No id or value, whatever its characters,
runs into what stands around it.
-/

namespace AttributeQuery

open Sql

namespace Sql.Writer

variable (dialect : Dialect) {lexemes : List Lexeme}

theorem isPlaceholder_ofParameter (index : Nat) :
    (Token.ofParameter dialect index).isPlaceholder = true := by
  cases dialect <;> rfl

theorem fill_placeholders (count : Nat) (value : SqlValue)
    (rest : List Lexeme) :
    (placeholders dialect).fill count (.value value :: rest) =
      Token.ofParameter dialect (count + 1) :: (placeholders dialect).fill
        (count + 1) rest :=
  rfl

theorem fill_literals (count : Nat) (value : SqlValue) (rest : List Lexeme) :
    literals.fill count (.value value :: rest) =
      Token.ofValue value :: literals.fill (count + 1) rest := rfl

/-- Written in two ways, lexemes have the same tokens except for
placeholders. -/
theorem fill_agree (count other : Nat) (lexemes : List Lexeme) :
    List.Forall₂
      (fun token inlined => token.isPlaceholder = true ∨ inlined = token)
      ((placeholders dialect).fill count lexemes)
      (literals.fill other lexemes) := by
  induction lexemes generalizing count other with
  | nil => exact .nil
  | cons lexeme rest ih =>
      cases lexeme with
      | token token => exact .cons (.inr rfl) (ih count other)
      | value value =>
          exact .cons (.inl (isPlaceholder_ofParameter dialect _))
            (ih (count + 1) (other + 1))

/-- The placeholders of lexemes have the numbers of their values. -/
theorem fill_filter_isPlaceholder (count : Nat)
    (plain : ∀ token, .token token ∈ lexemes → token.isPlaceholder = false) :
    ((placeholders dialect).fill count lexemes).filter Token.isPlaceholder =
      (List.range' (count + 1) (lexemes.filterMap Lexeme.value?).length).map
        (Token.ofParameter dialect) := by
  induction lexemes generalizing count with
  | nil => rfl
  | cons lexeme rest ih =>
      have ih :=
        fun count => ih count fun token member => plain token (.tail _ member)
      cases lexeme with
      | token token =>
          have isPlain := plain token (.head _)
          simp [fill, isPlain, ih, List.filterMap_cons]
      | value value =>
          rw [fill_placeholders,
            List.filter_cons_of_pos (isPlaceholder_ofParameter dialect _), ih]
          simp [List.range'_succ]

/-- What stands for a placeholder when values are inlined is the literal of its
value. -/
theorem fill_filterMap_literal (count other : Nat)
    (plain : ∀ token, .token token ∈ lexemes → token.isPlaceholder = false) :
    (((placeholders dialect).fill count lexemes).zip
        (literals.fill other lexemes)).filterMap
        (fun (token, inlined) =>
          if token.isPlaceholder then some inlined else none) =
      (lexemes.filterMap Lexeme.value?).map Token.ofValue := by
  induction lexemes generalizing count other with
  | nil => rfl
  | cons lexeme rest ih =>
      have ih :=
        fun count other => ih count other fun token member =>
          plain token (.tail _ member)
      cases lexeme with
      | token token =>
          have isPlain := plain token (.head _)
          simp [fill, isPlain, ih, List.filterMap_cons]
      | value value =>
          rw [fill_placeholders, fill_literals, List.zip_cons_cons,
            List.filterMap_cons]
          simp [isPlaceholder_ofParameter, ih]

end Sql.Writer

/-! ## Statements -/

namespace Compiler

/-- A statement is scanned as some lexemes, however its values are written. -/
theorem assemble_spells {compiler : Compiler}
    (valid : compiler.settings.layout.check = .ok ())
    (plain : ∀ attr ∈ compiler.schema.attributes, Location.HasPlainColumn attr)
    {servertypes : List ServertypeId} {query : Query} {hostnames : HostnameIds}
    {statement : Statement}
    (assembled : compiler.assemble servertypes query hostnames =
      .ok (some statement)) :
    ∃ lexemes, statement.body.Spells lexemes .settled := by
  obtain ⟨_, _, _, _, -, -, -, -, lexemes, spells, -⟩ :=
    assemble_reads valid plain assembled
  exact ⟨lexemes, spells⟩

/-- Inlining puts literals in the places of placeholders, token by token. The
placeholders of a statement are numbered from the left, there are as many as
bound values, and the literal in the place of each denotes the value bound to
it. -/
theorem tokens_inlineSql {compiler : Compiler}
    (valid : compiler.settings.layout.check = .ok ())
    (plain : ∀ attr ∈ compiler.schema.attributes, Location.HasPlainColumn attr)
    {servertypes : List ServertypeId} {query : Query} {hostnames : HostnameIds}
    {statement : Statement}
    (assembled : compiler.assemble servertypes query hostnames =
      .ok (some statement)) :
    (tokens statement.inlineSql).length = (tokens statement.sql).length ∧
    List.Forall₂
      (fun token inlined => token.isPlaceholder = true ∨ inlined = token)
      (tokens statement.sql) (tokens statement.inlineSql) ∧
    (tokens statement.sql).filter Token.isPlaceholder =
      (List.range' 1 statement.params.length).map
        (Token.ofParameter statement.dialect) ∧
    ((tokens statement.sql).zip (tokens statement.inlineSql)).filterMap
        (fun (token, inlined) =>
          if token.isPlaceholder then some inlined else none) =
      statement.params.map Token.ofValue := by
  obtain ⟨lexemes, spells⟩ := assemble_spells valid plain assembled
  have agree := Writer.fill_agree statement.dialect 0 0 lexemes
  rw [Statement.sql, Statement.inlineSql, Statement.params,
    spells.tokens_render, spells.tokens_inline, ← spells.values]
  exact ⟨agree.length_eq.symm, agree,
    Writer.fill_filter_isPlaceholder statement.dialect 0 spells.plain,
    Writer.fill_filterMap_literal statement.dialect 0 0 spells.plain⟩

/-- Ids and values with quotes and backslashes are put in place as they are. -/
theorem tokens_inlineSql_quotes :
    let attr : Attribute := { id := "owner's", type := .scalar .string }
    let compiler : Compiler :=
      { schema :=
        ⟨["it's"], [attr], [{ servertype := "it's", attributeId := "owner's" }]⟩
        settings := {} }
    let query : Query := [("owner's", .equals (.string "C:\\\\"))]
    ∃ statement, compiler.assemble ["it's"] query {} = .ok (some statement) ∧
      (tokens statement.inlineSql).length = (tokens statement.sql).length ∧
      ((tokens statement.sql).zip (tokens statement.inlineSql)).filterMap
          (fun (token, inlined) =>
            if token.isPlaceholder then some inlined else none) =
        statement.params.map Token.ofValue := by
  intro attr compiler query
  have assembled : ∃ statement,
      compiler.assemble ["it's"] query {} = .ok (some statement) :=
    ⟨_, rfl⟩
  obtain ⟨statement, assembled⟩ := assembled
  obtain ⟨sameLength, -, -, inlined⟩ := tokens_inlineSql (by decide)
    (by simp [compiler, attr, Location.HasPlainColumn]) assembled
  exact ⟨statement, assembled, sameLength, inlined⟩

end Compiler

end AttributeQuery
