import AttributeQuery.Proofs.Query.Congruence
import AttributeQuery.Proofs.Query.Independence

/-!
# Looking up hostnames

The hostnames collected from a query are all that its compilation consults. So
two directories that agree on them assemble it to the same statement or the same
error, and it does not matter whether the hostnames are looked up first.
-/

namespace AttributeQuery

/-! ## Directories -/

namespace HostnameIds

variable {ids other : HostnameIds}

/-- An inserted hostname has the id given, and the others keep theirs. -/
theorem get?_insert (hostname queried : String) (serverId : Int64) :
    (ids.insert hostname serverId).get? queried =
      if queried = hostname then some serverId else ids.get? queried := by
  cases ids with
  | mk entries =>
      simp only [insert, get?]
      induction entries with
      | nil =>
          by_cases same : queried = hostname
          · simp [Sorted.insertEntry, same]
          · simp [Sorted.insertEntry, same, Ne.symm same]
      | cons entry rest ih =>
          unfold Sorted.insertEntry
          split
          next before =>
            -- An entry passed over has a smaller key, so it is not the one
            -- queried.
            have notHostname : entry.1 ≠ hostname := ne_of_lt before
            by_cases isEntry : entry.1 = queried
            · simp [isEntry, isEntry ▸ notHostname]
            · simpa [List.find?_cons, isEntry] using ih
          next =>
            by_cases same : queried = hostname
            · split <;> simp [same]
            · split
              next replaced => simp [Ne.symm same, replaced]
              next => simp [List.find?_cons, Ne.symm same]

theorem entries_foldl_insert (entries : List (String × Int64))
    (start : HostnameIds) :
    (entries.foldl (fun found entry => found.insert entry.1 entry.2)
      start).entries =
      entries.foldl
        (fun sorted entry => Sorted.insertEntry entry.1 entry.2 sorted)
        start.entries := by
  induction entries generalizing start with
  | nil => rfl
  | cons entry rest ih => exact ih (start.insert entry.1 entry.2)

/-- A directory is made by inserting its entries one after the other. -/
theorem ofList_eq_foldl (entries : List (String × Int64)) :
    ofList entries =
      entries.foldl (fun found entry => found.insert entry.1 entry.2) {} := by
  rw [ofList, Sorted.ofEntries, ← entries_foldl_insert entries {}]

/-- Hostnames that are looked up and inserted have the ids they have in the
directory; the other hostnames keep theirs. -/
theorem get?_foldl_insert (hostnames : List String) (start : HostnameIds)
    (queried : String) :
    ((hostnames.filterMap fun hostname =>
      (ids.get? hostname).map (hostname, ·)).foldl
        (fun found entry => found.insert entry.1 entry.2) start).get? queried =
      if queried ∈ hostnames then (ids.get? queried).or (start.get? queried)
      else start.get? queried := by
  induction hostnames generalizing start with
  | nil => simp
  | cons hostname rest ih =>
      by_cases same : queried = hostname
      · subst same
        cases known : ids.get? queried with
        | none => simp [known, ih]
        | some serverId => simp [known, ih, get?_insert]
      · cases known : ids.get? hostname with
        | none => simp [known, ih, same]
        | some serverId => simp [known, ih, same, get?_insert]

/-- The hostnames looked up have the ids they have in the directory, and no
other hostname has one. -/
theorem get?_lookup (hostnames : List String) (queried : String) :
    (ids.lookup hostnames).get? queried =
      if queried ∈ hostnames then ids.get? queried else none := by
  rw [lookup, ofList_eq_foldl, get?_foldl_insert]
  simp [get?]

/-- Two directories have the same ids for some hostnames. -/
def AgreeOn (hostnames : List String) (ids other : HostnameIds) : Prop :=
  ∀ hostname ∈ hostnames, ids.get? hostname = other.get? hostname

/-- A directory agrees with what is looked up in it. -/
theorem agreeOn_lookup (hostnames : List String) :
    ids.AgreeOn hostnames (ids.lookup hostnames) := by
  intro hostname member
  rw [get?_lookup, if_pos member]

end HostnameIds

/-! ## Filters -/

variable {context : Context} {attr : Attribute} {other : HostnameIds}

namespace Predicate

/-- An operand consults a hostname only if it is compared with a link. -/
theorem operand_withHostnames {literal : Literal}
    (agree : attr.isLink = true → ∀ hostname, literal = .string hostname →
      context.hostnames.get? hostname = other.get? hostname) :
    operand (context.withHostnames other) attr literal =
      operand context attr literal := by
  cases type : attr.type with
  | scalar domain =>
      simp only [operand, type]
      rfl
  | hostname | reverseHostname | supernet =>
      have isLink : attr.isLink = true := by
        simp [Attribute.isLink, AttributeType.isLink, type]
      cases literal with
      | string hostname =>
          have sameId := agree isLink hostname rfl
          simp only [operand, type, Context.withHostnames, sameId]
      | boolean | integer | float | inet => simp only [operand, type]

/-- A leaf consults no hostname but the one it compares a link with. -/
theorem ofLeaf_withHostnames {leaf : Leaf}
    (agree : attr.isLink = true → ∀ hostname, leaf.hostname? = some hostname →
      context.hostnames.get? hostname = other.get? hostname) :
    ofLeaf (context.withHostnames other) attr leaf =
      ofLeaf context attr leaf := by
  cases leaf with
  | equals literal =>
      have sameOperand : operand (context.withHostnames other) attr literal =
          operand context attr literal := by
        apply operand_withHostnames
        intro isLink hostname isHostname
        exact agree isLink hostname (by rw [isHostname]; rfl)
      simp only [ofLeaf, ofEquality, sameOperand]
  | comparison relation literal =>
      simp only [ofLeaf, ofComparison]
      split
      · rfl
      · split
        · rfl
        next noLink =>
          rw [operand_withHostnames fun isLink => absurd isLink noLink]
  | regexp | empty | containment => rfl

end Predicate

/-- A filter keeps its condition with a directory that agrees on the hostnames
it compares a link with. -/
theorem Filter.compile_withHostnames {location : Location} {filter : Filter}
    (agree : attr.isLink = true →
      context.hostnames.AgreeOn
        (filter.leaves.filterMap Leaf.hostname?) other) :
    filter.compile (context.withHostnames other) attr location =
      filter.compile context attr location := by
  apply compile_congr
  · rfl
  · intro leaf member
    apply Predicate.ofLeaf_withHostnames
    intro isLink hostname isHostname
    exact agree isLink hostname
      (List.mem_filterMap.mpr ⟨leaf, member, isHostname⟩)

/-! ## Queries -/

namespace Query

variable {schema : Schema} {query rest : Query} {hostnames : List String}
  {id : AttributeId} {filter : Filter}

theorem allHostnames_cons_eq_ok :
    Query.allHostnames schema ((id, filter) :: rest) = .ok hostnames ↔
      ∃ attr later, schema.findAttribute? id = some attr ∧
        Query.allHostnames schema rest = .ok later ∧
        hostnames =
          if attr.isLink then filter.leaves.filterMap Leaf.hostname? ++ later
          else later := by
  simp only [Query.allHostnames, bind_eq_ok, pure_eq_ok,
    Schema.requireAttribute_eq_ok]
  constructor
  · intro ⟨attr, found, later, collected, returned⟩
    exact ⟨attr, later, found, collected, returned.symm⟩
  · intro ⟨attr, later, found, collected, isCollected⟩
    exact ⟨attr, found, later, collected, isCollected.symm⟩

/-- All attributes that a query names are declared. -/
def Declared (schema : Schema) (query : Query) : Prop :=
  ∀ entry ∈ query, ∃ attr, schema.findAttribute? entry.1 = some attr

/-- The hostnames of a query can be collected when all its attributes are
declared. -/
theorem Declared.exists_allHostnames (declared : Query.Declared schema query) :
    ∃ hostnames, Query.allHostnames schema query = .ok hostnames := by
  induction query with
  | nil => exact ⟨[], rfl⟩
  | cons entry rest ih =>
      obtain ⟨attr, found⟩ := declared entry List.mem_cons_self
      obtain ⟨later, collected⟩ :=
        ih fun other member => declared other (List.mem_cons_of_mem _ member)
      exact ⟨_,
        allHostnames_cons_eq_ok.mpr ⟨attr, later, found, collected, rfl⟩⟩

/-- Collecting the hostnames of a query stops at the first attribute that is not
declared. -/
theorem Declared.allHostnames_error {before after : Query}
    (declared : Query.Declared schema before)
    (unknown : schema.findAttribute? id = none) :
    Query.allHostnames schema (before ++ (id, filter) :: after) =
      .error (.unknownAttribute id) := by
  induction before with
  | nil =>
      simp [Query.allHostnames, Schema.requireAttribute, unknown,
        bind, Except.bind]
  | cons entry rest ih =>
      obtain ⟨attr, found⟩ := declared entry List.mem_cons_self
      have laterFails :=
        ih fun other member => declared other (List.mem_cons_of_mem _ member)
      simp [Query.allHostnames, Schema.requireAttribute, found, laterFails,
        bind, Except.bind]

theorem hostnames_eq_ok :
    query.hostnames schema = .ok hostnames ↔
      ∃ collected, Query.allHostnames schema query = .ok collected ∧
        Sorted.distinct collected = hostnames :=
  map_eq_ok

end Query

/-! ## Statements -/

namespace Compiler

/-- A filter on an attribute keeps its condition with a directory that agrees on
the hostnames it compares a link with. -/
theorem conditionIn_withHostnames {id : AttributeId} {filter : Filter}
    (agree : ∀ attr, context.schema.findAttribute? id = some attr →
      attr.isLink = true →
      context.hostnames.AgreeOn
        (filter.leaves.filterMap Leaf.hostname?) other) :
    conditionIn (context.withHostnames other) id filter =
      conditionIn context id filter := by
  have sameSchema : (context.withHostnames other).schema = context.schema := rfl
  simp only [conditionIn, sameSchema]
  cases found : context.schema.requireAttribute id with
  | error => rfl
  | ok attr =>
      have compiled (location : Location) :
          filter.compile (context.withHostnames other) attr location =
            filter.compile context attr location :=
        Filter.compile_withHostnames
          (agree attr (Schema.requireAttribute_eq_ok.mp found))
      simp only [Except.mapError, Location.resolve_withHostnames]
      change (Location.resolve context attr >>= _) =
        (Location.resolve context attr >>= _)
      exact bind_congr compiled

theorem restrict_withHostnames {query : Query} {hostnames : List String}
    (collected : Query.allHostnames context.schema query = .ok hostnames)
    (agree : context.hostnames.AgreeOn hostnames other)
    (statement : Condition) :
    restrict (context.withHostnames other) statement query =
      restrict context statement query := by
  induction query generalizing hostnames statement with
  | nil => rfl
  | cons entry rest ih =>
      obtain ⟨id, filter⟩ := entry
      obtain ⟨attr, later, found, collectedLater, isCollected⟩ :=
        Query.allHostnames_cons_eq_ok.mp collected
      have agreeFilter : ∀ declared,
          context.schema.findAttribute? id = some declared →
          declared.isLink = true →
          context.hostnames.AgreeOn
            (filter.leaves.filterMap Leaf.hostname?) other := by
        intro declared foundDeclared isLink hostname member
        have sameAttribute : attr = declared :=
          Option.some.inj (found.symm.trans foundDeclared)
        apply agree
        rw [isCollected, sameAttribute, if_pos isLink]
        exact List.mem_append_left _ member
      have agreeLater : context.hostnames.AgreeOn later other := by
        intro hostname member
        apply agree
        rw [isCollected]
        split
        · exact List.mem_append_right _ member
        · exact member
      have sameRest (statement : Condition) :=
        ih collectedLater agreeLater statement
      simp only [restrict, conditionIn_withHostnames agreeFilter, sameRest]

variable {compiler : Compiler} {servertypes : List ServertypeId} {query : Query}
  {ids other : HostnameIds}

/-- Directories that agree on the hostnames of a query assemble it alike. -/
theorem assemble_congr {hostnames : List String}
    (collected : query.hostnames compiler.schema = .ok hostnames)
    (agree : ids.AgreeOn hostnames other) :
    compiler.assemble servertypes query ids =
      compiler.assemble servertypes query other := by
  obtain ⟨all, collectedAll, distinct⟩ := Query.hostnames_eq_ok.mp collected
  have agreeAll : ids.AgreeOn all other := by
    intro hostname member
    apply agree
    rw [← distinct]
    exact Sorted.mem_distinct.mpr member
  apply bind_congr
  intro candidates
  let context := compiler.context candidates ids
  have restricted (statement : Condition) :
      restrict (context.withHostnames other) statement query =
        restrict context statement query :=
    restrict_withHostnames collectedAll agreeAll statement
  have sameBody : restrict (compiler.context candidates other)
      (selection (compiler.context candidates other)) query =
        restrict (compiler.context candidates ids)
          (selection (compiler.context candidates ids)) query := restricted _
  simp only [sameBody]
  rfl

/-- A query that restricts a statement names declared attributes only. -/
theorem declared_of_restrict {statement body : Condition}
    (restricted : restrict context statement query = .ok body) :
    Query.Declared context.schema query := by
  induction query generalizing statement with
  | nil => simp [Query.Declared]
  | cons entry rest ih =>
      obtain ⟨condition, compiled, later⟩ := bind_eq_ok.mp restricted
      obtain ⟨attr, required, -⟩ := bind_eq_ok.mp compiled
      intro other member
      cases member with
      | head =>
          exact ⟨attr,
            Schema.requireAttribute_eq_ok.mp (mapError_eq_ok.mp required)⟩
      | tail _ member => exact ih later other member

/-- A query that is assembled for some servertypes names declared attributes
only. -/
theorem declared_of_assemble (requested : servertypes ≠ [])
    {statement : Option Statement}
    (assembled : compiler.assemble servertypes query ids = .ok statement) :
    Query.Declared compiler.schema query := by
  obtain ⟨candidates, declared, later⟩ := bind_eq_ok.mp assembled
  obtain ⟨servertype, member⟩ := List.exists_mem_of_ne_nil servertypes requested
  have nonempty := List.ne_nil_of_mem ((mem_candidates declared).mpr member)
  rw [if_neg (by simpa using nonempty)] at later
  obtain ⟨body, restricted, -⟩ := bind_eq_ok.mp later
  exact declared_of_restrict restricted

/-- Looking up the hostnames of a query first assembles it as the whole
directory does, with the same error if there is one: the hostnames collected are
all that the assembly consults. A query with an attribute that is not declared
fails both ways. -/
theorem prepare_eq_assemble (compiler : Compiler)
    (servertypes : List ServertypeId) (query : Query) (ids : HostnameIds) :
    (Query.Declared compiler.schema query →
      compiler.prepare ids servertypes query =
        compiler.assemble servertypes query ids) ∧
    (∀ hostnames other, query.hostnames compiler.schema = .ok hostnames →
      ids.AgreeOn hostnames other →
      compiler.assemble servertypes query ids =
        compiler.assemble servertypes query other) ∧
    (∀ before id filter after, query = before ++ (id, filter) :: after →
      Query.Declared compiler.schema before →
      compiler.schema.findAttribute? id = none →
      servertypes ≠ [] →
      compiler.prepare ids servertypes query =
        .error (.schema (.unknownAttribute id)) ∧
        ∃ error, compiler.assemble servertypes query ids = .error error) := by
  apply And.intro
  · intro declared
    obtain ⟨all, collected⟩ := declared.exists_allHostnames
    have distinct : query.hostnames compiler.schema =
        .ok (Sorted.distinct all) :=
      Query.hostnames_eq_ok.mpr ⟨all, collected, rfl⟩
    cases servertypes with
    | nil => rfl
    | cons servertype rest =>
        have looked : compiler.prepare ids (servertype :: rest) query =
            compiler.assemble (servertype :: rest) query
              (ids.lookup (Sorted.distinct all)) := by
          simp only [prepare, distinct]
          rfl
        rw [looked]
        exact (assemble_congr distinct (HostnameIds.agreeOn_lookup _)).symm
  apply And.intro
  · intro hostnames other collected agree
    exact assemble_congr collected agree
  · intro before id filter after isQuery declared unknown requested
    apply And.intro
    · have failed : query.hostnames compiler.schema =
          .error (.unknownAttribute id) := by
        rw [isQuery, Query.hostnames, declared.allHostnames_error unknown]
        rfl
      simp only [prepare, failed]
      rw [if_neg (by simpa using requested)]
      rfl
    · cases assembled : compiler.assemble servertypes query ids with
      | error failure => exact ⟨failure, rfl⟩
      | ok statement =>
          have member : (id, filter) ∈ query := by simp [isQuery]
          obtain ⟨attr, found⟩ :=
            declared_of_assemble requested assembled _ member
          simp [unknown] at found

/-- A directory that knows more than the query asks for gives the same statement
as the hostnames looked up, and an undeclared attribute fails both ways. -/
theorem prepare_eq_assemble_hypervisor :
    let compiler : Compiler :=
      { schema := ⟨["vm"], [⟨"hypervisor", .hostname none, none, false⟩,
            ⟨"os", .scalar .string, none, false⟩],
          [⟨"vm", "hypervisor", none⟩, ⟨"vm", "os", none⟩]⟩
        settings := {} }
    let directory : HostnameIds := ⟨[("a", 1), ("b", 2), ("unused", 3)]⟩
    let query : Query := [("os", .equals (.string "unused")),
      ("hypervisor",
        .not (.any [.equals (.string "b"), .equals (.string "a")]))]
    (∃ statement, compiler.assemble ["vm"] query ⟨[("a", 1), ("b", 2)]⟩ =
      .ok (some statement) ∧
      compiler.prepare directory ["vm"] query = .ok (some statement)) ∧
    compiler.prepare directory ["vm"] (query ++ [("color", .leaf .empty)]) =
      .error (.schema (.unknownAttribute "color")) := by
  intro compiler directory query
  have declared : Query.Declared compiler.schema query := by
    intro entry member
    simp only [query, List.mem_cons, List.not_mem_nil, or_false] at member
    rcases member with rfl | rfl
    · exact ⟨_, rfl⟩
    · exact ⟨_, rfl⟩
  have assembled : ∃ statement,
      compiler.assemble ["vm"] query ⟨[("a", 1), ("b", 2)]⟩ =
        .ok (some statement) := ⟨_, rfl⟩
  have agree : directory.AgreeOn ["a", "b"] ⟨[("a", 1), ("b", 2)]⟩ := by
    intro hostname member
    simp only [List.mem_cons, List.not_mem_nil, or_false] at member
    rcases member with rfl | rfl
    · rfl
    · rfl
  obtain ⟨looked, congruent, -⟩ :=
    prepare_eq_assemble compiler ["vm"] query directory
  obtain ⟨statement, assembled⟩ := assembled
  apply And.intro
  · have sameStatement := congruent ["a", "b"] _ rfl agree
    exact ⟨statement, assembled,
      (looked declared).trans (sameStatement.trans assembled)⟩
  · have fails :=
      (prepare_eq_assemble compiler ["vm"] (query ++ [("color", .leaf .empty)])
        directory).2.2 query "color" (.leaf .empty)
      [] rfl declared rfl (by simp)
    exact fails.1

end Compiler

end AttributeQuery
