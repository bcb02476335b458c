import AttributeQuery.Proofs.Query.Predicate
import AttributeQuery.Proofs.Query.Relation

/-!
# What located predicates state

A predicate at a location is read as what it states about the column of the
location, inside the query for a row where the location is one. The locations
that attributes have can all be read, if the column of a special attribute has a
plain name, and what is read at them refers to rows in scope only.
-/

namespace AttributeQuery.Location

open Sql

/-- A location with a readable column and, where it is a row, readable
conditions. -/
inductive IsReadable : Location → Prop where
  | column {name qualifier column : String}
      (isColumn : IsColumn name qualifier column) :
      IsReadable (.column name)
  | existence {table valueColumn : String} {conditions : List Condition}
      {networkColumn : Option String} {partLists : List (List Expression)}
      (isTable : IsWord table) (isSome : conditions ≠ [])
      (stated : Condition.StateAll conditions partLists)
      (isColumn : ∀ subject, ∃ qualifier column,
        IsColumn (subjectColumn valueColumn networkColumn subject)
          qualifier column) :
      IsReadable (.existence table conditions valueColumn networkColumn)

theorem isWord_sub : IsWord "sub" := .of_isIdentifier (by decide)

section Located

variable {predicate : Predicate} {parts : Operand → List Expression}

/-- A predicate about a column of the outer server. -/
theorem located_column_states {name qualifier column : String}
    (isColumn : IsColumn name qualifier column)
    (states : predicate.template.States parts) :
    ((Location.column name).located predicate).States
      (parts (.column qualifier column)) :=
  states _ _ _ isColumn

variable {table valueColumn qualifier column : String}
  {conditions : List Condition}
variable {networkColumn : Option String} {partLists : List (List Expression)}

/-- A predicate about a column of a row that meets conditions. -/
theorem located_existence_states (isTable : IsWord table)
    (isSome : conditions ≠ [])
    (stated : Condition.StateAll conditions partLists)
    (isColumn : IsColumn
      (subjectColumn valueColumn networkColumn predicate.subject) qualifier
      column) (nonempty : predicate.template.isEmpty = false)
    (states : predicate.template.States parts) :
    ((Location.existence table conditions valueColumn networkColumn).located
      predicate).States
      [.hasRow table "sub"
        (.allOf (partLists.flatten ++ parts (.column qualifier column)))] := by
  obtain ⟨first, rest, rfl⟩ := List.exists_cons_of_ne_nil isSome
  have all : Condition.StateAll ((first :: rest) ++ [predicate.template.apply
      (subjectColumn valueColumn networkColumn predicate.subject)])
      (partLists ++ [parts (.column qualifier column)]) :=
    List.rel_append stated (.cons (states _ _ _ isColumn) .nil)
  simpa [located, nonempty] using existsRow_states isTable isWord_sub all

/-- A row meets conditions, and nothing is said about it. -/
theorem located_existence_empty (isTable : IsWord table)
    (isSome : conditions ≠ [])
    (stated : Condition.StateAll conditions partLists)
    (isEmpty : predicate.template.isEmpty = true) :
    ((Location.existence table conditions valueColumn networkColumn).located
      predicate).States [.hasRow table "sub" (.allOf partLists.flatten)] := by
  obtain ⟨first, rest, rfl⟩ := List.exists_cons_of_ne_nil isSome
  simpa [located, isEmpty] using existsRow_states isTable isWord_sub stated

end Located

/-- What is located is negated as a whole. -/
theorem apply_states {location : Location} {predicate : Predicate}
    {parts : List Expression}
    (states : (location.located predicate).States parts) :
    (location.apply predicate).States
      (if predicate.isNegated then [.not (.allOf parts)] else parts) := by
  unfold apply
  split
  · exact states.negate
  · exact states

/-! ## Names in scope -/

section Scoping

variable {IsScope : List String → Prop} {names : List String}
variable {location : Location} {predicate : Predicate}

/-- A location whose column and conditions are in scope, and at which the row of
a supernet between networks may be named. -/
inductive IsScoped (IsScope : List String → Prop) (names : List String) :
    Location → Prop
  | column {text qualifier name : String}
      (isColumn : IsColumn text qualifier name) (isName : qualifier ∈ names)
      (isScope : IsScope ("supernet" :: names)) :
      IsScoped IsScope names (.column text)
  | existence {table valueColumn : String} {conditions : List Condition}
      {networkColumn : Option String} (isTable : IsWord table)
      (isScope : IsScope ("sub" :: names))
      (isInner : IsScope ("supernet" :: "sub" :: names))
      (isSome : conditions ≠ [])
      (each : ∀ condition ∈ conditions,
        condition.IsScoped IsScope ("sub" :: names))
      (isColumn : ∀ subject, ∃ name,
        IsColumn (subjectColumn valueColumn networkColumn subject) "sub" name) :
      IsScoped IsScope names
        (.existence table conditions valueColumn networkColumn)

theorem IsScoped.isReadable (inScope : location.IsScoped IsScope names) :
    location.IsReadable := by
  cases inScope with
  | column isColumn => exact .column isColumn
  | existence isTable _ _ isSome each isColumn =>
      obtain ⟨partLists, stated, -⟩ :=
        Condition.exists_stateAll_of_isScoped each
      exact .existence isTable isSome stated fun subject =>
        ⟨_, isColumn subject⟩

/-- A predicate at a location in scope is in scope, unless there is nothing to
read about a column of the outer server. -/
theorem IsScoped.apply (inScope : location.IsScoped IsScope names)
    (fits : (∀ inner, IsScope ("supernet" :: inner) →
        predicate.template.IsScoped IsScope inner) ∨
      predicate.template.isEmpty = true ∧ ∀ name, location ≠ .column name) :
    (location.apply predicate).IsScoped IsScope names := by
  have located : (location.located predicate).IsScoped IsScope names := by
    cases inScope with
    | column isColumn isName isScope =>
        rcases fits with template | ⟨-, noColumn⟩
        · exact (template _ isScope).apply isColumn isName
        · exact absurd rfl (noColumn _)
    | existence isTable isScope isInner isSome each isColumn =>
        obtain ⟨name, isColumn⟩ := isColumn predicate.subject
        refine existsRow_isScoped isTable isWord_sub isScope (by simp [isSome])
          (List.forall_mem_append.mpr ⟨each, ?_⟩)
        rcases fits with template | ⟨isEmpty, -⟩
        · have inner := template _ isInner
          simpa [inner.nonempty] using inner.apply isColumn List.mem_cons_self
        · simp [isEmpty]
  unfold Location.apply
  split
  next => exact located.negate
  next => exact located

end Scoping

/-! ## Locations of attributes -/

theorem isColumn_sub {text name : String}
    (isName : Text.Identifier.isIdentifier name = true)
    (isText : text = "sub" ++ "." ++ name) : IsColumn text "sub" name :=
  ⟨isWord_sub, .of_isIdentifier isName, isText⟩

theorem isColumn_subOwner : IsColumn "sub.server_id" "sub" "server_id" :=
  isColumn_sub (by decide) rfl

theorem isColumn_subAttribute :
    IsColumn "sub.attribute_id" "sub" "attribute_id" :=
  isColumn_sub (by decide) rfl

theorem isColumn_subValue : IsColumn "sub.value" "sub" "value" :=
  isColumn_sub (by decide) rfl

/-- The field of a special attribute names a plain column. -/
def HasPlainColumn (attr : Attribute) : Prop :=
  ∀ special, attr.special = some special →
    Text.Identifier.isIdentifier special.column = true

section Resolve

variable {context : Context} {attr : Attribute} {location : Location}

/-- Only a special attribute is a column of the outer server. -/
theorem ne_column_of_resolve (notSpecial : attr.isSpecial = false)
    (resolved : resolve context attr = .ok location) (name : String) :
    location ≠ .column name := by
  cases resolve_eq_ok resolved with
  | column isSpecial => simp [Attribute.isSpecial, isSpecial] at notSpecial
  | supernet | reverseHostname | stored => simp

section Scoping

variable (valid : context.layout.check = .ok ()) {IsScope : List String → Prop}
variable (areScopes : ∀ count ≤ context.options.maxRelationDepth,
  IsScope (linkNames 0 count ++ ["sub", "server"]))
variable (isOuter : IsScope ["supernet", "server"])
variable (isInner : IsScope ["supernet", "sub", "server"])

include valid areScopes isOuter isInner

/-- Seen from the outer server, the location of an attribute is in scope. -/
theorem resolve_isScoped (plain : HasPlainColumn attr)
    (resolved : resolve context attr = .ok location) :
    location.IsScoped IsScope ["server"] := by
  have isScope : IsScope ["sub", "server"] := areScopes 0 (Nat.zero_le _)
  have isSub : "sub" ∈ ["sub", "server"] := by simp
  have isServer : "server" ∈ ["sub", "server"] := by simp
  cases resolve_eq_ok resolved with
  | @column special isSpecial =>
      have isName : IsWord "server" := .of_isIdentifier (by decide)
      exact .column ⟨isName, .of_isIdentifier (plain special isSpecial), rfl⟩
        List.mem_cons_self isOuter
  | supernet =>
      have isColumn (field : LayoutField) :
          IsColumn ("sub." ++ context.named field) "sub"
            (context.named field) :=
        ⟨isWord_sub, isWord_named valid field, rfl⟩
      refine .existence (isWord_named valid _) isScope isInner (by simp) ?_
        fun subject => ?_
      · simp only [List.forall_mem_cons]
        exact ⟨columnIs_isScoped (isColumn _) isSub _,
          containsServer_isScoped valid isServer isWord_sub isSub, nofun⟩
      · cases subject <;> exact ⟨_, isColumn _⟩
  | reverseHostname =>
      refine .existence (isWord_named valid _) isScope isInner (by simp) ?_
        fun subject => ?_
      · simp only [List.forall_mem_cons]
        exact ⟨columnIs_isScoped isColumn_subAttribute isSub _,
          columnsEqual_isScoped isColumn_subValue (isColumn_server valid _)
            isSub isServer,
          nofun⟩
      · cases subject <;> exact ⟨_, isColumn_subOwner⟩
  | stored _ _ held =>
      have holders :=
        holderWithin_isScoped valid context.options.maxRelationDepth 0
          isServer areScopes
      refine .existence (isWord_named valid _) isScope isInner (by simp) ?_
        fun subject => ?_
      · simp only [List.forall_mem_cons]
        exact ⟨holders.each isColumn_subOwner isSub held,
          columnIs_isScoped isColumn_subAttribute isSub attr.id, nofun⟩
      · cases subject <;> exact ⟨_, isColumn_subValue⟩

end Scoping

variable (valid : context.layout.check = .ok ())

include valid

/-- Every leaf of an attribute is in scope at its location. -/
theorem IsScoped.apply_ofLeaf {IsScope : List String → Prop}
    {names : List String} (inScope : location.IsScoped IsScope names)
    (resolved : resolve context attr = .ok location) {leaf : Leaf}
    {predicate : Predicate}
    (built : Predicate.ofLeaf context attr leaf = .ok predicate) :
    (location.apply predicate).IsScoped IsScope names := by
  refine inScope.apply ?_
  rcases Predicate.ofLeaf_isReadable valid built with
    ⟨nonempty, -⟩ | ⟨isEmpty, notSpecial⟩
  · refine .inl fun inner isScope =>
      (Predicate.ofLeaf_isScoped valid isScope built).resolve_right ?_
    simp [nonempty]
  · exact .inr ⟨isEmpty, ne_column_of_resolve notSpecial resolved⟩

/-- Where nothing is asked of the names, the location of an attribute is in
scope. -/
theorem resolve_isScoped_always (plain : HasPlainColumn attr)
    (resolved : resolve context attr = .ok location) :
    location.IsScoped (fun _ => True) ["server"] :=
  resolve_isScoped valid (fun _ _ => trivial) trivial trivial plain resolved

/-- The location of an attribute can be read. -/
theorem resolve_isReadable (plain : HasPlainColumn attr)
    (resolved : resolve context attr = .ok location) : location.IsReadable :=
  (resolve_isScoped_always valid plain resolved).isReadable

/-- Every leaf of an attribute can be read at its location. -/
theorem apply_ofLeaf_states (plain : HasPlainColumn attr)
    (resolved : resolve context attr = .ok location) {leaf : Leaf}
    {predicate : Predicate}
    (built : Predicate.ofLeaf context attr leaf = .ok predicate) :
    ∃ parts, (location.apply predicate).States parts := by
  obtain ⟨parts, states, -⟩ :=
    (resolve_isScoped_always valid plain resolved).apply_ofLeaf valid
      resolved built
  exact ⟨parts, states⟩

end Resolve

end AttributeQuery.Location
