import AttributeQuery.Proofs.Network.RoundTrip
import AttributeQuery.Proofs.Query.Congruence
import AttributeQuery.Proofs.Query.Independence

/-!
# Compiling filters that were sent

A filter that compiles is read back from the exchange format, and compiles to
the same condition. What the format loses does not count: a float that is not
finite is bound nowhere, and a network only where its text is read as that
network.
-/

namespace AttributeQuery

variable {context : Context} {attr : Attribute}

theorem requireInlinable_toText (network : Network) :
    requireInlinable network.toText = .ok () := by
  rw [requireInlinable, network.fault?_toText]

/-- The text of a network is bound as that network is. -/
theorem encodeValue_toText (id : AttributeId) (network : Network) :
    encodeValue id .inet (.string network.toText) =
      .ok (.text network.canonicalText) := by
  have readBack : Network.read? network.toText = some network := by
    rw [Network.read?, Network.ofText?_toText, Option.some_or]
  simp [encodeValue, requireInlinable_toText, readBack, bind, Except.bind]

/-- A literal that is bound is finite, and what it is read back as is bound as
the same value. -/
theorem encodeValue_exchanged {id : AttributeId} {domain : ValueDomain}
    {literal : Literal} {value : SqlValue}
    (encoded : encodeValue id domain literal = .ok value) :
    literal.isFinite = true ∧ encodeValue id domain literal.exchanged =
      .ok value := by
  cases literal with
  | boolean | integer | string => exact ⟨rfl, encoded⟩
  | float number =>
      apply And.intro _ encoded
      cases domain with
      | number =>
          simp only [encodeValue] at encoded
          split at encoded
          next finite => exact finite
          next => simp at encoded
      | boolean | string | inet | macaddr | date | datetime =>
          simp [encodeValue] at encoded
  | inet network =>
      apply And.intro rfl
      cases domain with
      | inet =>
          rw [← encoded]
          exact encodeValue_toText id network
      | boolean | number | string | macaddr | date | datetime =>
          simp [encodeValue] at encoded

namespace Predicate

theorem operand_exchanged {literal : Literal} {value : SqlValue}
    {castText : Option String}
    (bound : operand context attr literal = .ok (value, castText)) :
    literal.isFinite = true ∧
      operand context attr literal.exchanged = .ok (value, castText) := by
  obtain ⟨isOperand, isCast⟩ := operand_eq_ok.mp bound
  cases isOperand with
  | scalar type encoded =>
      obtain ⟨finite, encodedAgain⟩ := encodeValue_exchanged encoded
      exact ⟨finite, operand_eq_ok.mpr ⟨.scalar type encodedAgain, isCast⟩⟩
  | hostname => exact ⟨rfl, bound⟩

theorem networkTemplate_exchanged {relation : Containment} {literal : Literal}
    {template : Template}
    (built : networkTemplate context attr relation literal = .ok template) :
    literal.isFinite = true ∧
      networkTemplate context attr relation literal.exchanged =
        .ok template := by
  obtain ⟨supported, isSupported, later⟩ := bind_eq_ok.mp built
  obtain ⟨value, encoded, chosen⟩ := bind_eq_ok.mp later
  obtain ⟨finite, encodedAgain⟩ := encodeValue_exchanged encoded
  apply And.intro finite
  exact bind_eq_ok.mpr
    ⟨supported, isSupported, bind_eq_ok.mpr ⟨value, encodedAgain, chosen⟩⟩

theorem IsContainment.exchanged {relation : Containment} {literal : Literal}
    {predicate : Predicate}
    (isContainment : IsContainment context attr relation literal predicate) :
    literal.isFinite = true ∧
      IsContainment context attr relation literal.exchanged predicate := by
  cases isContainment with
  | network type found =>
      obtain ⟨finite, foundAgain⟩ := networkTemplate_exchanged found
      exact ⟨finite, .network type foundAgain⟩
  | supernet type found =>
      obtain ⟨finite, foundAgain⟩ := networkTemplate_exchanged found
      exact ⟨finite, .supernet type foundAgain⟩
  | text type isText checked found =>
      subst isText
      exact ⟨rfl, .text type rfl checked found⟩

/-- A leaf with a predicate is finite, and what it is read back as has the same
predicate. -/
theorem ofLeaf_exchanged {leaf : Leaf} {predicate : Predicate}
    (built : ofLeaf context attr leaf = .ok predicate) :
    leaf.isFinite = true ∧ ofLeaf context attr leaf.exchanged =
      .ok predicate := by
  rw [ofLeaf_eq_ok]
  cases ofLeaf_eq_ok.mp built with
  | boolean value isBoolean => exact ⟨rfl, .boolean value isBoolean⟩
  | equality notBoolean bound =>
      obtain ⟨finite, boundAgain⟩ := operand_exchanged bound
      exact ⟨finite, .equality notBoolean boundAgain⟩
  | comparison notBoolean isOrdered bound =>
      obtain ⟨finite, boundAgain⟩ := operand_exchanged bound
      exact ⟨finite, .comparison notBoolean isOrdered boundAgain⟩
  | pattern notBoolean isPattern => exact ⟨rfl, .pattern notBoolean isPattern⟩
  | presence notBoolean => exact ⟨rfl, .presence notBoolean⟩
  | containment notBoolean isContainment =>
      obtain ⟨finite, containedAgain⟩ := isContainment.exchanged
      exact ⟨finite, .containment notBoolean containedAgain⟩

end Predicate

namespace Filter

/-- A filter that compiles is read back as it was written, with its networks as
texts, and compiles to the same condition. -/
theorem compile_ofJson_toJson {context : Context} {attr : Attribute}
    {location : Location} {filter : Filter} {condition : Condition}
    (compiled : filter.compile context attr location = .ok condition) :
    ∃ received, Filter.ofJson filter.toJson = .ok received ∧
      received = filter.exchanged ∧
      received.compile context attr location = .ok condition := by
  have eachSucceeds : ∀ leaf ∈ filter.leaves, ∃ predicate,
      Predicate.ofLeaf context attr leaf = .ok predicate := by
    have succeeds : (filter.compile context attr location).isOk = true := by
      rw [compiled]
      rfl
    rw [compile_isOk] at succeeds
    intro leaf member
    exact isOk_iff.mp (List.all_eq_true.mp succeeds leaf member)
  have finite : ∀ leaf ∈ filter.leaves, leaf.isFinite = true := by
    intro leaf member
    obtain ⟨predicate, built⟩ := eachSucceeds leaf member
    exact (Predicate.ofLeaf_exchanged built).1
  have keep : ∀ leaf ∈ filter.leaves,
      KeepsPredicate context context attr Literal.exchanged leaf := by
    intro leaf member
    obtain ⟨predicate, built⟩ := eachSucceeds leaf member
    exact (Predicate.ofLeaf_exchanged built).2.trans built.symm
  refine ⟨filter.exchanged, ofJson_toJson filter finite, rfl, ?_⟩
  rw [exchanged, compile_mapLiterals rfl filter keep, compiled]

/-- Networks among addresses, in a merged run and under a negation, are sent as
texts and still bound in canonical form. -/
theorem compile_ofJson_toJson_networks :
    let attr : Attribute := ⟨"networks", .scalar .inet, none, true⟩
    let context : Context :=
      { schema := ⟨["vm"], [attr], [⟨"vm", "networks", none⟩]⟩
        options := {}
        layout := {}
        servertypes := ["vm"]
        hostnames := {} }
    let single : Network := .ofAddress (.v4 ⟨[10, 0, 0, 1], rfl⟩)
    let network : Network :=
      ⟨.v6 ⟨[0x2001, 0xdb8, 0, 0, 0, 0, 0, 0], rfl⟩, 32, by decide⟩
    let filter : Filter :=
      .any [.equals (.inet single), .equals (.string "10.0.0.2"),
        .not (.leaf (.containment .containedBy (.inet network)))]
    ∃ location condition received,
      Location.resolve context attr = .ok location ∧
      filter.compile context attr location = .ok condition ∧
      Filter.ofJson filter.toJson = .ok received ∧
      received =
        .any [.equals (.string "10.0.0.1/32"), .equals (.string "10.0.0.2"),
          .not (.leaf (.containment .containedBy (.string "2001:db8::/32")))] ∧
      received.compile context attr location = .ok condition := by
  intro attr context single network filter
  have resolved : ∃ location, Location.resolve context attr = .ok location :=
    ⟨_, rfl⟩
  obtain ⟨location, resolved⟩ := resolved
  have compiled : ∃ condition,
    filter.compile context attr location = .ok condition := ⟨_, rfl⟩
  obtain ⟨condition, compiled⟩ := compiled
  obtain ⟨received, readBack, isExchanged, compiledAgain⟩ :=
    compile_ofJson_toJson compiled
  have singleText : single.toText = "10.0.0.1/32" := by decide
  have networkText : network.toText = "2001:db8::/32" := by decide
  have asTexts : filter.exchanged = .any [.equals (.string "10.0.0.1/32"),
      .equals (.string "10.0.0.2"),
      .not (.leaf (.containment .containedBy (.string "2001:db8::/32")))] := by
    rw [← singleText, ← networkText]
    rfl
  exact ⟨location, condition, received, resolved, compiled, readBack,
    isExchanged.trans asTexts, compiledAgain⟩

end Filter

end AttributeQuery
