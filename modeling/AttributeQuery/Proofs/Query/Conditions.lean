import AttributeQuery.Proofs.Query.Layout
import AttributeQuery.Proofs.Sql.Scoping
import AttributeQuery.Query.Location

/-!
# What located conditions state

The conditions that describe the holder of an attribute are read back as what
they were built to say, whatever identifiers the layout uses for tables and
columns and whatever texts the schema uses for its ids.
-/

namespace AttributeQuery

open Sql

namespace Location

/-! ## Single conditions -/

section Conditions

variable {column other qualifier otherQualifier name otherName : String}

theorem columnIs_states (isColumn : IsColumn column qualifier name)
    (text : String) :
    (columnIs column text).States
      [.compare "=" (.column qualifier name) (.bound (.text text))] := by
  have equals : Sql.Spells " = ".toList [.operator "="] .free :=
    .of_run (by decide)
  refine ⟨[.column qualifier name, .operator "=", .bound (.text text)],
    fun outer before => ?_, .single (by simp [Item.isWord]) rfl⟩
  exact (Condition.Reads.raw (isColumn.spells.followedBy (.inr rfl) equals)
    rfl rfl).param _

theorem columnsEqual_states (isColumn : IsColumn column qualifier name)
    (isOther : IsColumn other otherQualifier otherName) :
    (columnsEqual column other).States
      [.compare "=" (.column qualifier name)
        (.column otherQualifier otherName)] := by
  have equals : Sql.Spells " = ".toList [.operator "="] .free :=
    .of_run (by decide)
  refine ⟨[.column qualifier name, .operator "=",
    .column otherQualifier otherName],
    fun outer before => ?_, .single (by simp [Item.isWord]) rfl⟩
  exact Condition.Reads.raw
    ((isColumn.spells.followedBy (.inr rfl) equals).followedBy
      (.inl rfl) isOther.spells) rfl rfl

end Conditions

/-- A table has a row that meets some conditions. -/
theorem existsRow_states {table rowName : String} (isTable : IsWord table)
    (isRowName : IsWord rowName) {first : Condition} {rest : List Condition}
    {partLists : List (List Expression)}
    (stated : Condition.StateAll (first :: rest) partLists) :
    (existsRow table rowName (first :: rest)).States
      [.hasRow table rowName (.allOf partLists.flatten)] := by
  obtain ⟨items, conjoins, reads⟩ := Condition.reads_conjunction stated
  have opening : Sql.Spells "EXISTS (SELECT 1 FROM ".toList
      [.word "EXISTS", .opening, .word "SELECT", .number 1, .word "FROM"]
      .free :=
    .of_run (by decide)
  have named : Sql.Spells " AS ".toList [.word "AS"] .free :=
    .of_run (by decide)
  have conditions : Sql.Spells " WHERE ".toList [.word "WHERE"] .free :=
    .of_run (by decide)
  refine ⟨[.word "EXISTS", .group (.of (queryItems table rowName items))],
    fun outer before => ?_,
    .single (by simp [Item.isWord]) (conjoins.query? table rowName)⟩
  have opened :
      (Condition.raw ("EXISTS (SELECT 1 FROM " ++ table ++ " AS " ++ rowName ++
        " WHERE ")).Reads ⟨outer, before, none⟩
        ⟨(.word "EXISTS" :: before) :: outer,
          [.word "WHERE", .word rowName, .word "AS", .word table, .word "FROM",
            .number 1, .word "SELECT"], none⟩ .free := .raw
    ((((opening.followedBy (.inl rfl) (.word isTable)).followedBy
      (.inr rfl) named).followedBy (.inl rfl) (.word isRowName)).followedBy
      (.inr rfl) conditions) rfl rfl
  have read := opened.append (reads (.empty _))
  exact (Condition.Reads.close
    (by simpa [Condition.conjunction, queryItems] using read)).settle

/-- The servertype of the outer server is one of some. -/
def guardExpression (context : Context) (servertypes : List ServertypeId) :
    Expression :=
  .inList (.column "server" (context.named .servertypeColumn))
    ((servertypes.map .text).map .bound)

section Layout

variable {context : Context} (valid : context.layout.check = .ok ())

include valid

theorem isWord_named (field : LayoutField) : IsWord (context.named field) :=
  Layout.isWord_name valid field

/-- A column of the outer server row. -/
theorem isColumn_server (field : LayoutField) :
    IsColumn (serverColumn (context.named field)) "server"
      (context.named field) where
  isQualifier := .of_isIdentifier (by decide)
  isName := isWord_named valid field
  text := rfl

theorem containsServer_states {rowName : String} (isRowName : IsWord rowName) :
    (containsServer context rowName).States
      [.compare ">>=" (.column rowName (context.named .networkColumn))
        (.column "server" (context.named .networkColumn))] := by
  have isName := isWord_named valid .networkColumn
  have isServer : IsWord "server" := .of_isIdentifier (by decide)
  have dot : Sql.Spells ".".toList [.dot] .free := .of_run (by decide)
  have contains : Sql.Spells " >>= server.".toList
      [.operator ">>=", .word "server", .dot] .free := .of_run (by decide)
  refine ⟨[.column rowName (context.named .networkColumn), .operator ">>=",
    .column "server" (context.named .networkColumn)], fun outer before => ?_,
    .single (by simp [Item.isWord]) rfl⟩
  exact Condition.Reads.raw
    (((Spells.qualified isRowName isName).followedBy
      (.inr rfl) contains).followedBy (.inl rfl) (.word isName)) rfl rfl

theorem servertypeGuard_states (first : ServertypeId)
    (rest : List ServertypeId) :
    (servertypeGuard context (first :: rest)).States
      [guardExpression context (first :: rest)] := by
  have opening : Sql.Spells " IN (".toList [.word "IN", .opening] .free :=
    .of_run (by decide)
  have server : Sql.Spells "server.".toList [.word "server", .dot] .free :=
    .of_run (by decide)
  obtain ⟨items, reads, read⟩ :=
    Condition.paramList_isRead .none (.text first) (rest.map .text)
  refine ⟨[.column "server" (context.named .servertypeColumn), .word "IN",
    .group (.of items)],
    fun outer before => ?_, .single (by simp [Item.isWord]) ?_⟩
  · have opened :
        (Condition.raw ("server." ++ context.named .servertypeColumn ++
          " IN (")).Reads ⟨outer, before, none⟩
        ⟨(.word "IN" :: .column "server" (context.named .servertypeColumn) ::
          before) :: outer, [], none⟩ .free := .raw
      ((server.followedBy (.inl rfl)
        (.word (isWord_named valid .servertypeColumn))).followedBy
        (.inr rfl) opening) rfl rfl
    exact (Condition.Reads.close
      (by simpa using opened.append (reads _ _))).settle
  · exact negation?_inList read _ _

/-- A strategy with the servertypes it is for. -/
def guardedExpression (context : Context) (strategy : Strategy)
    (parts : List Expression) : Expression :=
  .allOf (guardExpression context strategy.servertypes :: parts)

theorem guarded_states {strategy : Strategy} {parts : List Expression}
    (hasServertype : strategy.servertypes ≠ [])
    (states : strategy.condition.States parts) :
    (guarded context strategy).States
      [guardedExpression context strategy parts] := by
  obtain ⟨first, rest, servertypes⟩ := List.exists_cons_of_ne_nil hasServertype
  have guard := servertypeGuard_states valid first rest
  rw [← servertypes] at guard
  simpa [guarded, guardedExpression] using
    Condition.states_join_and (.cons guard (.cons states .nil))

theorem anyGuarded_states {strategies : List Strategy}
    {partLists : List (List Expression)} (isSome : strategies ≠ [])
    (haveServertypes : ∀ strategy ∈ strategies, strategy.servertypes ≠ [])
    (stated : List.Forall₂
      (fun strategy parts => strategy.condition.States parts)
      strategies partLists) :
    (anyGuarded context strategies).States
      [.anyOf (List.zipWith (guardedExpression context) strategies
        partLists)] := by
  have each : Condition.StateAll (strategies.map (guarded context))
      ((List.zipWith (guardedExpression context) strategies partLists).map
        ([·])) := by
    clear isSome
    induction stated with
    | nil => exact .nil
    | cons states _ ih =>
        exact .cons
          (guarded_states valid (haveServertypes _ List.mem_cons_self) states)
          (ih fun strategy member =>
            haveServertypes strategy (List.mem_cons_of_mem _ member))
  match strategies, partLists, stated with
  | [], _, _ => exact absurd rfl isSome
  | [strategy], [parts], .cons states .nil =>
      exact guarded_states valid (haveServertypes _ List.mem_cons_self) states
  | first :: second :: rest, _, _ =>
      have joined := Condition.states_join_or each
      simpa [anyGuarded, Function.comp_def, Expression.allOf] using joined

end Layout

/-! ## Links -/

theorem toList_linkName (depth : Nat) :
    (linkName depth).toList = ['r', 'e', 'l'] ++ Nat.toDigits 10
      (depth + 1) := by
  simp [linkName, Text.Numeral.ofNat, String.toList_append]

theorem isWord_linkName (depth : Nat) : IsWord (linkName depth) := by
  refine ⟨'r', ['e', 'l'] ++ Nat.toDigits 10 (depth + 1), ?_, by decide,
    fun char member => ?_⟩
  · rw [toList_linkName]
    rfl
  · rcases List.mem_append.mp member with isLetter | isDigit
    · simp only [List.mem_cons, List.not_mem_nil, or_false] at isLetter
      rcases isLetter with rfl | rfl <;> decide
    · simp [Text.Identifier.isContinuation, isDigit_of_mem_toDigits isDigit]

/-- A column of a row, given by the text after the name of the row. -/
theorem isColumn_of_suffix {rowName name suffix : String}
    (isRowName : IsWord rowName) (isName : IsWord name)
    (text : suffix = "." ++ name) :
    IsColumn (rowName ++ suffix) rowName name where
  isQualifier := isRowName
  isName := isName
  text := by rw [text, String.append_assoc]

theorem isColumn_owner {rowName : String} (isRowName : IsWord rowName) :
    IsColumn (rowName ++ ".server_id") rowName "server_id" :=
  isColumn_of_suffix isRowName (.of_isIdentifier (by decide)) rfl

theorem isColumn_attribute {rowName : String} (isRowName : IsWord rowName) :
    IsColumn (rowName ++ ".attribute_id") rowName "attribute_id" :=
  isColumn_of_suffix isRowName (.of_isIdentifier (by decide)) rfl

theorem isColumn_value {rowName : String} (isRowName : IsWord rowName) :
    IsColumn (rowName ++ ".value") rowName "value" :=
  isColumn_of_suffix isRowName (.of_isIdentifier (by decide)) rfl

section Links

variable {context : Context} (valid : context.layout.check = .ok ())
  (depth : Nat)
variable {reached qualifier name : String}
  (isReached : IsColumn reached qualifier name)

include valid isReached

theorem hostnameLink_states {owner : Condition} {ownerParts : List Expression}
    (states : owner.States ownerParts) (via : AttributeId) :
    (existsRow (context.named .relationTable) (linkName depth)
      [columnIs (linkName depth ++ ".attribute_id") via, owner,
        columnsEqual (linkName depth ++ ".value") reached]).States
      [.hasRow (context.named .relationTable) (linkName depth)
        (.allOf (Expression.compare "="
          (.column (linkName depth) "attribute_id") (.bound (.text via)) ::
          ownerParts ++
          [Expression.compare "=" (.column (linkName depth) "value")
            (.column qualifier name)]))] := by
  have isRowName := isWord_linkName depth
  have states := existsRow_states (isWord_named valid .relationTable) isRowName
    (.cons (columnIs_states (isColumn_attribute isRowName) via) (.cons states
      (.cons (columnsEqual_states (isColumn_value isRowName) isReached) .nil)))
  simpa using states

theorem supernetLink_states (target : ServertypeId) :
    (existsRow (context.named .serverTable) (linkName depth)
      [columnIs (linkName depth ++ "." ++ context.named .servertypeColumn)
        target, containsServer context (linkName depth),
        columnsEqual (linkName depth ++ "." ++ context.named .serverIdColumn)
          reached]).States
      [.hasRow (context.named .serverTable) (linkName depth)
        (.allOf [
          .compare "="
            (.column (linkName depth) (context.named .servertypeColumn))
            (.bound (.text target)),
          .compare ">>="
            (.column (linkName depth) (context.named .networkColumn))
            (.column "server" (context.named .networkColumn)),
          .compare "="
            (.column (linkName depth) (context.named .serverIdColumn))
            (.column qualifier name)])] := by
  have isRowName := isWord_linkName depth
  have isColumn (field : LayoutField) :
      IsColumn (linkName depth ++ "." ++ context.named field) (linkName depth)
        (context.named field) := ⟨isRowName, isWord_named valid field, rfl⟩
  exact existsRow_states (isWord_named valid .serverTable) isRowName
    (.cons (columnIs_states (isColumn _) target)
      (.cons (containsServer_states valid isRowName)
        (.cons (columnsEqual_states (isColumn _) isReached) .nil)))

theorem reverseLink_states (reversed : AttributeId) :
    (existsRow (context.named .relationTable) (linkName depth)
      [columnIs (linkName depth ++ ".attribute_id") reversed,
        columnsEqual (linkName depth ++ ".value")
          (serverColumn (context.named .serverIdColumn)),
        columnsEqual (linkName depth ++ ".server_id") reached]).States
      [.hasRow (context.named .relationTable) (linkName depth)
        (.allOf [
          .compare "=" (.column (linkName depth) "attribute_id")
            (.bound (.text reversed)),
          .compare "=" (.column (linkName depth) "value")
            (.column "server" (context.named .serverIdColumn)),
          .compare "=" (.column (linkName depth) "server_id")
            (.column qualifier name)])] := by
  have isRowName := isWord_linkName depth
  exact existsRow_states (isWord_named valid .relationTable) isRowName
    (.cons (columnIs_states (isColumn_attribute isRowName) reversed)
      (.cons (columnsEqual_states (isColumn_value isRowName)
        (isColumn_server valid _))
        (.cons (columnsEqual_states (isColumn_owner isRowName) isReached)
          .nil)))

end Links

/-! ## Names in scope -/

section Scoping

variable {IsScope : List String → Prop} {names : List String}

section Rows

variable {column other qualifier otherQualifier name otherName : String}

theorem columnIs_isScoped (isColumn : IsColumn column qualifier name)
    (isName : qualifier ∈ names) (text : String) :
    (columnIs column text).IsScoped IsScope names :=
  .single (columnIs_states isColumn text)
    (.compare _ (.column _ isName) (.bound _))

theorem columnsEqual_isScoped (isColumn : IsColumn column qualifier name)
    (isOther : IsColumn other otherQualifier otherName)
    (isName : qualifier ∈ names) (isOtherName : otherQualifier ∈ names) :
    (columnsEqual column other).IsScoped IsScope names :=
  .single (columnsEqual_states isColumn isOther)
    (.compare _ (.column _ isName) (.column _ isOtherName))

end Rows

/-- The conditions on a row may name it. -/
theorem existsRow_isScoped {table rowName : String} (isTable : IsWord table)
    (isRowName : IsWord rowName) (isScope : IsScope (rowName :: names))
    {conditions : List Condition} (isSome : conditions ≠ [])
    (each : ∀ condition ∈ conditions,
      condition.IsScoped IsScope (rowName :: names)) :
    (existsRow table rowName conditions).IsScoped IsScope names := by
  obtain ⟨partLists, stated, inScope⟩ :=
    Condition.exists_stateAll_of_isScoped each
  obtain ⟨first, rest, rfl⟩ := List.exists_cons_of_ne_nil isSome
  refine .single (existsRow_states isTable isRowName stated)
    (.hasRow table isScope (.allOf fun part member => ?_))
  obtain ⟨parts, isList, isPart⟩ := List.mem_flatten.mp member
  exact inScope parts isList part isPart

section Layout

variable {context : Context} (valid : context.layout.check = .ok ())
variable (outer : "server" ∈ names)

include valid outer

theorem containsServer_isScoped {rowName : String} (isRowName : IsWord rowName)
    (isName : rowName ∈ names) :
    (containsServer context rowName).IsScoped IsScope names :=
  .single (containsServer_states valid isRowName)
    (.compare _ (.column _ isName) (.column _ outer))

theorem guarded_isScoped {strategy : Strategy}
    (hasServertype : strategy.servertypes ≠ [])
    (inScope : strategy.condition.IsScoped IsScope names) :
    (guarded context strategy).IsScoped IsScope names := by
  obtain ⟨first, rest, servertypes⟩ := List.exists_cons_of_ne_nil hasServertype
  have guard : (servertypeGuard context strategy.servertypes).IsScoped
      IsScope names := by
    rw [servertypes]
    refine .single (servertypeGuard_states valid first rest)
      (.inList (.column _ outer) fun member isMember => ?_)
    obtain ⟨value, -, rfl⟩ := List.mem_map.mp isMember
    exact .bound value
  refine .join (.inl rfl) (by simp) fun condition member => ?_
  simp only [List.mem_cons, List.not_mem_nil, or_false] at member
  rcases member with rfl | rfl
  · exact guard
  · exact inScope

theorem anyGuarded_isScoped {strategies : List Strategy}
    (isSome : strategies ≠ [])
    (haveServertypes : ∀ strategy ∈ strategies, strategy.servertypes ≠ [])
    (each : ∀ strategy ∈ strategies,
      strategy.condition.IsScoped IsScope names) :
    (anyGuarded context strategies).IsScoped IsScope names := by
  have eachGuarded : ∀ strategy ∈ strategies,
      (guarded context strategy).IsScoped IsScope names :=
    fun strategy member =>
      guarded_isScoped valid outer (haveServertypes strategy member)
        (each strategy member)
  match strategies with
  | [] => exact absurd rfl isSome
  | [strategy] => exact eachGuarded strategy List.mem_cons_self
  | first :: second :: rest =>
      refine .join (.inr rfl) (by simp) fun condition member => ?_
      obtain ⟨strategy, isStrategy, rfl⟩ := List.mem_map.mp member
      exact eachGuarded strategy isStrategy

end Layout

end Scoping

end Location

end AttributeQuery
