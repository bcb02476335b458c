import AttributeQuery.Proofs.Query.Vetting

/-!
# Checked texts

A filter compiles only if every text it consists of can be inlined, at whatever
depth and under whatever operator it stands. Every text that is bound can be
inlined too, also when it has become a pattern, a numeral or the canonical text
of a network on the way; only identifiers of the schema are bound as they are.
-/

namespace AttributeQuery

variable {context : Context} {attr : Attribute}

/-- The text a leaf consists of, if it does: a literal or an expression. -/
def Leaf.text? : Leaf → Option String
  | .equals literal => literal.text?
  | .comparison _ literal => literal.text?
  | .regexp pattern => some pattern
  | .empty => none
  | .containment _ literal => literal.text?

namespace Predicate

theorem IsOperand.checks_text {literal : Literal} {value : SqlValue}
    (isOperand : IsOperand context attr literal value) {text : String}
    (isText : literal.text? = some text) : requireInlinable text = .ok () := by
  cases isOperand with
  | scalar _ encoded => exact (encodeValue_inlinable encoded).2 text isText
  | hostname _ checked => exact Option.some.inj isText ▸ checked

theorem networkTemplate_checks_text {relation : Containment} {literal : Literal}
    {template : Template}
    (built : networkTemplate context attr relation literal = .ok template)
    {text : String} (isText : literal.text? = some text) :
    requireInlinable text = .ok () := by
  obtain ⟨-, built⟩ := check_bind_eq_ok.mp built
  obtain ⟨value, encoded, -⟩ := bind_eq_ok.mp built
  exact (encodeValue_inlinable encoded).2 text isText

theorem IsContainment.checks_text {relation : Containment} {literal : Literal}
    {predicate : Predicate}
    (isContainment : IsContainment context attr relation literal predicate)
    {text : String} (isText : literal.text? = some text) :
    requireInlinable text = .ok () := by
  cases isContainment with
  | network _ found | supernet _ found =>
      exact networkTemplate_checks_text found isText
  | text _ isString checked _ =>
      subst isString
      exact Option.some.inj isText ▸ checked

/-- A leaf has a predicate only if its text has been checked. -/
theorem ofLeaf_checks_text {leaf : Leaf} {predicate : Predicate}
    (built : ofLeaf context attr leaf = .ok predicate) {text : String}
    (isText : leaf.text? = some text) : requireInlinable text = .ok () := by
  cases ofLeaf_eq_ok.mp built with
  | boolean => simp [Leaf.text?, Literal.text?] at isText
  | equality _ bound | comparison _ _ bound =>
      exact (operand_eq_ok.mp bound).1.checks_text isText
  | pattern _ isPattern =>
      cases isPattern with
      | hostname _ checked | value _ checked =>
          exact Option.some.inj isText ▸ checked
  | presence => simp [Leaf.text?] at isText
  | containment _ isContainment => exact isContainment.checks_text isText

end Predicate

/-- Texts that can be inlined, and the identifiers of a schema. Numbers and the
text around values are not restricted. -/
def Vetting.checked (schema : Schema) : Vetting where
  IsText _ := True
  IsValue
    | .text text =>
        requireInlinable text = .ok () ∨
          (∃ attr ∈ schema.attributes, attr.id = text) ∨
          text ∈ schema.servertypes
    | .integer _ => True
  append _ _ := trivial
  harmless _ := trivial
  escape := trivial

namespace Compiler

/-- No text escapes the checks: when a condition is compiled, every text of its
filter has been checked, and every text bound in it passes the check or is the
identifier of an attribute or a servertype. -/
theorem compileCondition_checks_texts {compiler : Compiler}
    {declarations : List Declaration}
    (built : Schema.build declarations = .ok compiler.schema)
    {servertypes : List ServertypeId} {id : AttributeId} {filter : Filter}
    {hostnames : HostnameIds} {condition : Condition}
    (compiled : compiler.compileCondition servertypes id filter hostnames =
      .ok condition) :
    (∀ leaf ∈ filter.leaves, ∀ text, leaf.text? = some text →
      requireInlinable text = .ok ()) ∧
    ∀ text, .text text ∈ condition.params →
      requireInlinable text = .ok () ∨
        (∃ attr ∈ compiler.schema.attributes, attr.id = text) ∨
        text ∈ compiler.schema.servertypes := by
  obtain ⟨candidates, declared, compiled⟩ := bind_eq_ok.mp compiled
  constructor
  · intro leaf member text isText
    obtain ⟨attr, location, -, -, compiledFilter⟩ :=
      conditionIn_eq_ok.mp compiled
    have succeeds := isOk_iff.mpr ⟨condition, compiledFilter⟩
    rw [Filter.compile_isOk] at succeeds
    obtain ⟨predicate, isPredicate⟩ :=
      isOk_iff.mp (List.all_eq_true.mp succeeds leaf member)
    exact Predicate.ofLeaf_checks_text isPredicate isText
  · intro text member
    have vetted : (compiler.context candidates hostnames).IsVetted
        (.checked compiler.schema) := by
      refine isVetted_context built declared hostnames (fun _ => trivial)
        (fun _ => trivial) ?_ ?_ ?_
      · exact fun inlinable => .inl (requireInlinable_eq_ok.mpr inlinable)
      · exact fun id isServertype => .inr (.inr isServertype)
      · exact fun attr isAttribute => .inr (.inl ⟨attr, isAttribute, rfl⟩)
    exact (conditionIn_passes vetted (fun _ _ _ _ _ => trivial)
      compiled).isValue member

/-- Of the names of virtual machines: one of two in a list, or one that contains
a percent sign and a backslash. -/
theorem compileCondition_checks_texts_names :
    let compiler : Compiler :=
      { schema := ⟨["vm"], [⟨"name", .scalar .string, none, true⟩],
          [⟨"vm", "name", none⟩]⟩
        settings := {} }
    let filter : Filter :=
      .any [.equals (.string "db"), .equals (.string "web"),
        .not (.leaf (.containment .contains (.string "5%\\\\")))]
    ∃ condition,
      compiler.compileCondition ["vm"] "name" filter {} = .ok condition ∧
      SqlValue.text "%5\\%\\\\\\\\%" ∈ condition.params ∧
      (∀ leaf ∈ filter.leaves, ∀ text, leaf.text? = some text →
        requireInlinable text = .ok ()) ∧
      ∀ text, .text text ∈ condition.params →
        requireInlinable text = .ok () ∨ text = "name" ∨ text = "vm" := by
  intro compiler filter
  have built : Schema.build
      [.servertype "vm", .attr ⟨"name", .scalar .string, none, true⟩,
        .binding ⟨"vm", "name", none⟩] = .ok compiler.schema := by
    cbv
  have compiled : ∃ condition,
      compiler.compileCondition ["vm"] "name" filter {} = .ok condition ∧
        SqlValue.text "%5\\%\\\\\\\\%" ∈ condition.params := ⟨_, rfl, by decide⟩
  obtain ⟨condition, compiled, isBound⟩ := compiled
  obtain ⟨checked, bound⟩ := compileCondition_checks_texts built compiled
  exact ⟨condition, compiled, isBound, checked, fun text member => by
    simpa [compiler, eq_comm] using bound text member⟩

end Compiler

end AttributeQuery
