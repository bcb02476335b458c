import AttributeQuery.Proofs.Query.Combination
import AttributeQuery.Proofs.Query.Holders
import AttributeQuery.Proofs.Query.Listing

/-!
# Names of rows

The queries in a condition name their rows, and inner ones refer to the rows of
the queries that they stand in. No name hides another one of the same text: the
rows of links are numbered by the links that lead to them, and the row of the
values and the one of a supernet between networks have names of their own. So
every column is read of the row it was meant for.
-/

namespace AttributeQuery

open Sql

namespace Location

/-! ## Names in scope -/

/-- The names of rows that are no links. -/
def fixedNames : List String :=
  ["server", "sub", "supernet"]

/-- Names in scope, the innermost first: they are distinct, and the links among
them are numbered without a gap from the outermost. -/
structure AreNames (maxDepth : Nat) (names : List String) : Prop where
  distinct : names.Nodup
  links : ∃ count ≤ maxDepth,
    names.reverse.filter (fun name => !fixedNames.contains name) =
      (List.range count).map linkName

theorem linkName_notMem_fixedNames (depth : Nat) :
    linkName depth ∉ fixedNames := by
  intro member
  simp only [fixedNames, List.mem_cons, List.not_mem_nil, or_false] at member
  rcases member with isServer | isSub | isSupernet
  · exact ne_linkName (by decide) depth isServer.symm
  · exact ne_linkName (by decide) depth isSub.symm
  · exact ne_linkName (by decide) depth isSupernet.symm

theorem linkNames_nodup (depth count : Nat) :
    (linkNames depth count).Nodup := by
  rw [linkNames, List.nodup_reverse]
  exact List.Nodup.map (fun _ _ => linkName_injective) List.nodup_range'

/-- Links after other rows with distinct names are numbered from the first. -/
theorem areNames_linkNames {maxDepth count : Nat} (bounded : count ≤ maxDepth)
    {names : List String} (fixed : names ⊆ fixedNames)
    (distinct : names.Nodup) :
    AreNames maxDepth (linkNames 0 count ++ names) where
  distinct := by
    refine (linkNames_nodup 0 count).append distinct
      fun name isLink isFixed => ?_
    obtain ⟨depth, -, rfl⟩ := List.mem_map.mp (List.mem_reverse.mp isLink)
    exact linkName_notMem_fixedNames depth (fixed isFixed)
  links := by
    refine ⟨count, bounded, ?_⟩
    have noLinks : names.reverse.filter
        (fun name => !fixedNames.contains name) = [] := by
      refine List.filter_eq_nil_iff.mpr fun name member => ?_
      simpa using fixed (List.mem_reverse.mp member)
    have areLinks : ((List.range' 0 count).map linkName).filter
        (fun name => !fixedNames.contains name) =
          (List.range' 0 count).map linkName := by
      refine List.filter_eq_self.mpr fun name member => ?_
      obtain ⟨depth, -, rfl⟩ := List.mem_map.mp member
      simpa using linkName_notMem_fixedNames depth
    rw [List.reverse_append, List.filter_append, noLinks, List.nil_append,
      linkNames, List.reverse_reverse, areLinks, List.range_eq_range']

/-- Names of rows that are no links may stand by themselves. -/
theorem areNames_fixed (maxDepth : Nat) {names : List String}
    (fixed : names ⊆ fixedNames) (distinct : names.Nodup) :
    AreNames maxDepth names :=
  areNames_linkNames (Nat.zero_le maxDepth) fixed distinct

end Location

/-! ## Filters -/

theorem Condition.isKept_isScoped {IsScope : List String → Prop}
    {names : List String} :
    Condition.IsKept (Condition.IsScoped IsScope names) where
  always :=
    .single Filter.always_states
      (.not (.and (.constant true) (.constant false)))
  never :=
    .single Filter.never_states (.not (.or (.constant true) (.constant false)))
  negate := .negate
  join := .join

/-- The predicates of leaves and of lists of values are in scope at the location
of an attribute. -/
theorem Filter.leavesHold_isScoped {IsScope : List String → Prop}
    {context : Context} {attr : Attribute} {location : Location}
    (valid : context.layout.check = .ok ())
    (resolved : Location.resolve context attr = .ok location)
    (inScope : location.IsScoped IsScope ["server"]) (leaves : List Leaf) :
    LeavesHold context attr location
      (Condition.IsScoped IsScope ["server"]) leaves where
  leaf _ built := inScope.apply_ofLeaf valid resolved built
  membership _ built :=
    inScope.apply (.inl fun _ _ => Predicate.ofMembership_isScoped built)

namespace Compiler

/-- The condition of a filter is in scope. -/
theorem conditionIn_isScoped {context : Context}
    (valid : context.layout.check = .ok ())
    (plain : ∀ attr ∈ context.schema.attributes, Location.HasPlainColumn attr)
    {id : AttributeId} {filter : Filter} {condition : Condition}
    (compiled : conditionIn context id filter = .ok condition) :
    condition.IsScoped (Location.AreNames context.options.maxRelationDepth)
      ["server"] := by
  obtain ⟨attr, location, found, resolved, compiledFilter⟩ :=
    conditionIn_eq_ok.mp compiled
  have isDeclared := Schema.mem_of_findAttribute? found
  let IsScope := Location.AreNames context.options.maxRelationDepth
  have areScopes : ∀ count ≤ context.options.maxRelationDepth,
      IsScope (Location.linkNames 0 count ++ ["sub", "server"]) :=
    fun count bounded =>
      Location.areNames_linkNames bounded (by simp [Location.fixedNames])
        (by simp)
  have isOuter : IsScope ["supernet", "server"] :=
    Location.areNames_fixed _ (by simp [Location.fixedNames]) (by simp)
  have isInner : IsScope ["supernet", "sub", "server"] :=
    Location.areNames_fixed _ (by simp [Location.fixedNames]) (by simp)
  have located : location.IsScoped IsScope ["server"] :=
    Location.resolve_isScoped valid areScopes isOuter isInner
      (plain attr isDeclared) resolved
  exact Filter.compile_holds Condition.isKept_isScoped
    (Filter.leavesHold_isScoped valid resolved located filter.leaves) filter
    (List.Subset.refl _) compiledFilter

/-- What is read of the condition of a filter is in scope: every column is that
of the outer server or of a row that an enclosing query names. No query names
its row like one that it stands in, and the links are numbered one after the
other, up to the greatest number of links. -/
theorem compileCondition_names {compiler : Compiler}
    (valid : compiler.settings.layout.check = .ok ())
    (plain : ∀ attr ∈ compiler.schema.attributes, Location.HasPlainColumn attr)
    {servertypes : List ServertypeId} {id : AttributeId} {filter : Filter}
    {hostnames : HostnameIds} {condition : Condition}
    (compiled : compiler.compileCondition servertypes id filter hostnames =
      .ok condition) :
    ∃ expression, condition.expression? compiler.settings.options.dialect =
      some expression ∧
      expression.IsScoped
        (Location.AreNames compiler.settings.options.maxRelationDepth)
        ["server"] := by
  obtain ⟨candidates, -, compiledIn⟩ := bind_eq_ok.mp compiled
  have validContext : (compiler.context candidates hostnames).layout.check =
    .ok () := valid
  exact (conditionIn_isScoped validContext plain compiledIn).expression? _

/-- The site of a virtual machine is that of the rack of its host: the row of
the host is named inside the query for that of the rack. -/
theorem compileCondition_names_site :
    let host : Attribute :=
      { id := "host", type := .hostname (some "hypervisor") }
    let rack : Attribute := { id := "rack", type := .hostname (some "rack") }
    let site : Attribute := { id := "site", type := .scalar .string }
    let compiler : Compiler :=
      { schema := ⟨["hypervisor", "rack", "vm"], [host, rack, site],
          [⟨"vm", "host", none⟩, ⟨"vm", "rack", some "host"⟩,
            ⟨"vm", "site", some "rack"⟩]⟩
        settings := {} }
    ∃ condition expression,
      compiler.compileCondition ["vm"] "site" (.equals (.string "fra1")) {} =
        .ok condition ∧
      condition.expression? .postgres = some expression ∧
      expression.IsScoped (Location.AreNames 8) ["server"] := by
  intro host rack site compiler
  have compiled : ∃ condition,
      compiler.compileCondition ["vm"] "site" (.equals (.string "fra1")) {} =
        .ok condition :=
    isOk_iff.mp (by decide +kernel)
  obtain ⟨condition, compiled⟩ := compiled
  obtain ⟨expression, read, inScope⟩ := compileCondition_names (by decide)
    (by simp [compiler, host, rack, site, Location.HasPlainColumn]) compiled
  exact ⟨condition, expression, compiled, read, inScope⟩

end Compiler

end AttributeQuery
