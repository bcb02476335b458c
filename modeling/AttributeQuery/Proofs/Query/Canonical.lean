import AttributeQuery.Proofs.Json.Rearrangement
import AttributeQuery.Proofs.Query.Congruence
import AttributeQuery.Proofs.Schema.Order
import AttributeQuery.Proofs.Text.ByteOrder
import AttributeQuery.Query.Statement

/-!
# Canonical statements

A statement is determined by what is asked: by the set of requested servertypes,
by what is declared, and by the members of the query. In which order any of
these are given, and how often a servertype is, makes no difference, neither to
the statement nor to the error that is reported.
-/

namespace AttributeQuery

/-- A context with another schema. -/
def Context.withSchema (context : Context) (schema : Schema) : Context :=
  { context with schema }

/-- The location of an attribute depends on the contents of the schema alone. -/
theorem Location.resolve_withSchema {context : Context} {schema : Schema}
    (same : schema.SameContents context.schema) (attr : Attribute) :
    resolve (context.withSchema schema) attr = resolve context attr := by
  apply resolve_congr
  · rfl
  · rfl
  · intro table _
    apply stored_congr
    · exact same
    · rfl
    · rfl
    · rfl

/-! ## Queries -/

namespace Query

variable {members : List (String × Json.Value)} {query : Query} {text : String}

/-- The attributes of a query are the keys of its members, in their order. -/
theorem ids_of_ofMembers (read : Query.ofMembers members = .ok query) :
    query.map (·.1) = members.map (·.1) := by
  induction members generalizing query with
  | nil =>
      obtain rfl := Except.ok.inj read
      rfl
  | cons member rest ih =>
      obtain ⟨filter, -, later⟩ := bind_eq_ok.mp read
      obtain ⟨filters, readRest, returned⟩ := bind_eq_ok.mp later
      obtain rfl := pure_eq_ok.mp returned
      rw [List.map_cons, List.map_cons, ih readRest]

/-- The attributes of a query that was read are in strictly ascending order. -/
theorem ids_pairwise (read : Query.ofText text = .ok query) :
    (query.map (·.1)).Pairwise (· < ·) := by
  unfold Query.ofText at read
  split at read
  next members isObject =>
    rw [ids_of_ofMembers read, List.pairwise_map]
    exact Json.Value.ofTextWithin_object_pairwise isObject
  next => cases read
  next => cases read

theorem ofText_eq_of_sameMembers {other : String}
    (same : Json.SameMembers text other) :
    Query.ofText text = Query.ofText other := by
  rw [Query.ofText, Query.ofText, same.ofText?_eq]

end Query

/-! ## Statements -/

namespace Compiler

variable {context : Context} {schema other : Schema} {settings : Settings}

section SameContents

variable (same : schema.SameContents context.schema)

include same

theorem conditionIn_withSchema (id : AttributeId) (filter : Filter) :
    conditionIn (context.withSchema schema) id filter =
      conditionIn context id filter := by
  have sameAttribute : (context.withSchema schema).schema.requireAttribute id =
      context.schema.requireAttribute id := same.requireAttribute_eq id
  have compiled (attr : Attribute) (location : Location) :
      filter.compile (context.withSchema schema) attr location =
        filter.compile context attr location := by
    apply Filter.compile_congr
    · rfl
    · intro leaf _
      rfl
  simp only [conditionIn, sameAttribute, Location.resolve_withSchema same,
    compiled]

theorem restrict_withSchema (query : Query) (statement : Condition) :
    restrict (context.withSchema schema) statement query =
      restrict context statement query := by
  induction query generalizing statement with
  | nil => rfl
  | cons entry rest ih => simp only [restrict, conditionIn_withSchema same, ih]

end SameContents

theorem candidates_congr (same : schema.SameContents other)
    {servertypes others : List ServertypeId}
    (sameServertypes : ∀ id, id ∈ servertypes ↔ id ∈ others) :
    Compiler.candidates ⟨schema, settings⟩ servertypes =
      Compiler.candidates ⟨other, settings⟩ others := by
  have undeclared (ids : List ServertypeId) :
      Compiler.undeclared? ⟨schema, settings⟩ ids =
        Compiler.undeclared? ⟨other, settings⟩ ids := by
    simp only [Compiler.undeclared?, same.hasServertype_eq]
  rw [Compiler.candidates, Compiler.candidates,
    Sorted.distinct_congr sameServertypes, undeclared]

/-- Compilers whose schemas have the same contents assemble a query alike, in
whatever order and however often the servertypes are requested. -/
theorem assemble_of_sameContents (same : schema.SameContents other)
    {servertypes others : List ServertypeId}
    (sameServertypes : ∀ id, id ∈ servertypes ↔ id ∈ others) (query : Query)
    (hostnames : HostnameIds) :
    Compiler.assemble ⟨schema, settings⟩ servertypes query hostnames =
      Compiler.assemble ⟨other, settings⟩ others query hostnames := by
  rw [assemble, assemble, candidates_congr same sameServertypes]
  apply bind_congr
  intro candidates
  let context := Compiler.context ⟨other, settings⟩ candidates hostnames
  have restricted (statement : Condition) :
      restrict (context.withSchema schema) statement query =
        restrict context statement query :=
    restrict_withSchema same query statement
  have sameBody : restrict
        (Compiler.context ⟨schema, settings⟩ candidates hostnames)
        (selection (Compiler.context ⟨schema, settings⟩ candidates hostnames))
        query = restrict context (selection context) query := restricted _
  simp only [sameBody]
  rfl

/-- Read a query and assemble it. -/
def assembleText (compiler : Compiler) (servertypes : List ServertypeId)
    (text : String) (hostnames : HostnameIds) :
    Except FilterError (Except CompileError (Option Statement)) :=
  (Query.ofText text).map fun query =>
    compiler.assemble servertypes query hostnames

/-- The order of declarations does not decide whether they build a schema. For
schemas built from the same declarations, requested servertypes that are the
same but for order and repetitions, and texts whose objects have the same
members, the statement is the same, or the error, with all settings and
hostnames. The filters of a query that was read are in strictly ascending order
of the bytes of their attributes. -/
theorem assembleText_canonical {declarations others : List Declaration}
    (isPerm : declarations.Perm others) :
    ((∃ schema, Schema.build declarations = .ok schema) ↔
      ∃ schema, Schema.build others = .ok schema) ∧
    (∀ text query, Query.ofText text = .ok query →
      (query.map (·.1)).Pairwise fun id other => Text.bytes id <
        Text.bytes other) ∧
    ∀ schema other, Schema.build declarations = .ok schema →
      Schema.build others = .ok other →
      ∀ servertypes otherServertypes : List ServertypeId,
        (∀ id, id ∈ servertypes ↔ id ∈ otherServertypes) →
      ∀ text otherText, Json.SameMembers text otherText →
      ∀ settings hostnames,
        assembleText ⟨schema, settings⟩ servertypes text hostnames =
          assembleText ⟨other, settings⟩ otherServertypes otherText
            hostnames := by
  refine ⟨Schema.exists_build_iff_of_perm isPerm, fun text query read => ?_, ?_⟩
  · exact (Query.ids_pairwise read).imp Text.bytes_lt_bytes
  · intro schema other built builtOther servertypes otherServertypes
      sameServertypes text otherText sameMembers settings hostnames
    have same := Schema.build_sameContents isPerm built builtOther
    simp only [assembleText, Query.ofText_eq_of_sameMembers sameMembers,
      assemble_of_sameContents same sameServertypes]

/-- A query for two servertypes, declared and asked for in two ways. -/
theorem assembleText_canonical_note :
    let host : Attribute :=
      { id := "host", type := .hostname (some "hypervisor") }
    let note : Attribute := { id := "note", type := .scalar .string }
    let declarations : List Declaration :=
      [.servertype "vm", .servertype "hypervisor", .attr note, .attr host,
        .binding ⟨"vm", "note", some "host"⟩, .binding ⟨"vm", "host", none⟩,
        .binding ⟨"hypervisor", "note", none⟩]
    let text := "\x7b\"note\": \"spare\", \"host\": \"hv1\"\x7d"
    let otherText := "\x7b\"host\": \"hv1\", \"note\": \"spare\"\x7d"
    let hostnames := HostnameIds.ofList [("hv1", 7)]
    ∃ schema other statement, Schema.build declarations = .ok schema ∧
      Schema.build declarations.reverse = .ok other ∧
      assembleText ⟨schema, {}⟩ ["vm", "hypervisor", "vm"] text hostnames =
        .ok (.ok (some statement)) ∧
      assembleText ⟨other, {}⟩ ["hypervisor", "vm"] otherText hostnames =
        .ok (.ok (some statement)) ∧
      ∃ query, Query.ofText text = .ok query ∧
        (query.map (·.1)).Pairwise fun id other => Text.bytes id <
          Text.bytes other := by
  intro host note declarations text otherText hostnames
  have isPerm : declarations.Perm declarations.reverse :=
    (List.reverse_perm declarations).symm
  obtain ⟨builds, ascending, agree⟩ := assembleText_canonical isPerm
  let schema : Schema := ⟨["hypervisor", "vm"], [host, note],
    [⟨"hypervisor", "note", none⟩, ⟨"vm", "host", none⟩,
      ⟨"vm", "note", some "host"⟩]⟩
  have built : Schema.build declarations = .ok schema := by cbv
  obtain ⟨other, builtOther⟩ := builds.mp ⟨schema, built⟩
  let spell (word : String) : List Json.StringItem := word.toList.map .char
  let members : List (List Json.StringItem × Json.Outline) :=
    [(spell "note", .string (spell "spare")),
      (spell "host", .string (spell "hv1"))]
  have changed : Json.Outline.Rearranged (.object members)
      (.object members.reverse) :=
    .members (List.reverse_perm members).symm (by decide)
      (by decide) (by decide)
  have isOutline : Json.Outline.ofText? text = some (.object members) := by
    simp only [text, members, spell]
    rfl
  have isOther : Json.Outline.ofText? otherText =
      some (.object members.reverse) := by
    simp only [otherText, members, spell]
    rfl
  have read : Json.Value.ofText? text =
      some (.object [("host", .string "hv1"), ("note", .string "spare")]) := by
    rw [Json.Value.ofText?, Json.Value.ofTextWithin, isOutline]
    have sorted : ¬"note" < "host" := by decide
    simp [members, spell, Json.Value.ofOutline?, Json.embeds,
      Json.Value.membersOfOutline?, Json.decodeString?, Json.decodeItems?,
      Json.embeddingKey, Json.maximalDepth, Sorted.ofEntries,
      Sorted.insertEntry, sorted]
  have readOther : Json.Value.ofText? otherText =
      some (.object [("host", .string "hv1"), ("note", .string "spare")]) := by
    rw [Json.Value.ofText?, Json.Value.ofTextWithin, isOther]
    have sorted : "host" < "note" := by decide
    simp [members, spell, Json.Value.ofOutline?, Json.embeds,
      Json.Value.membersOfOutline?, Json.decodeString?, Json.decodeItems?,
      Json.embeddingKey, Json.maximalDepth, Sorted.ofEntries,
      Sorted.insertEntry, sorted]
  have query : Query.ofText text =
      .ok [("host", .equals (.string "hv1")),
        ("note", .equals (.string "spare"))] := by
    rw [Query.ofText, read]
    rfl
  have same :=
    agree schema other built builtOther ["vm", "hypervisor", "vm"]
      ["hypervisor", "vm"] (by simp) text otherText
      (.written isOutline isOther changed read readOther) {} hostnames
  have assembled : ∃ statement,
        Compiler.assemble ⟨schema, {}⟩ ["vm", "hypervisor", "vm"]
          [("host", .equals (.string "hv1")),
            ("note", .equals (.string "spare"))] hostnames =
        .ok (some statement) := ⟨_, rfl⟩
  obtain ⟨statement, assembled⟩ := assembled
  have answered : assembleText ⟨schema, {}⟩ ["vm", "hypervisor", "vm"] text
      hostnames = .ok (.ok (some statement)) := by
    rw [assembleText, query, Except.map, assembled]
  exact ⟨schema, other, statement, built, builtOther, answered, same ▸ answered,
    _, query, ascending _ _ query⟩

end Compiler

end AttributeQuery
