import AttributeQuery.Proofs.Sql.Reading

/-!
# Reading composed conditions

Conditions are put together from texts and from other conditions. Where each
part is read as some items, the whole is read as the items of its parts, and a
condition in parentheses is one item. A condition states some parts when it is
read as these with AND between them; a conjunction of conditions then states the
parts of all of them.
-/

namespace AttributeQuery.Sql

/-! ## Texts -/

/-- Texts one after the other, where the first may be followed by anything or
the second starts apart. -/
theorem Spells.followedBy {first second : String}
    {firstTokens secondTokens : List Token} {firstEnding ending : Ending}
    (spellsFirst : Spells first.toList firstTokens firstEnding)
    (joint : firstEnding = .free ∨ startsApart second.toList = true)
    (spellsSecond : Spells second.toList secondTokens ending) :
    Spells (first ++ second).toList (firstTokens ++ secondTokens) ending := by
  rw [String.toList_append]
  exact spellsFirst.append joint spellsSecond

/-- A name with a qualifier. -/
theorem Spells.qualified {qualifier name : String}
    (isQualifier : IsWord qualifier) (isName : IsWord name) :
    Spells (qualifier ++ "." ++ name).toList [.word qualifier, .dot, .word name]
      .settled := by
  have dot : Spells ".".toList [.dot] .free := .of_run (by decide)
  exact ((Spells.word isQualifier).followedBy (.inr rfl) dot).followedBy
    (.inl rfl) (.word isName)

/-! ## Parts with separators between them -/

section Separated

variable {α : Type} {isSeparator : Item → Bool}
  {readPart : List Item → Option α}

/-- Items without separators are one part. -/
theorem separated?_single {items : List Item} {part : α}
    (apart : ∀ item ∈ items, isSeparator item = false)
    (read : readPart items = some part) :
    separated? isSeparator readPart items = some [part] := by
  simp [separated?, List.splitOnP_eq_singleton apart, read]

/-- A separator between items separates their parts. -/
theorem separated?_append {first second : List Item}
    {firstParts secondParts : List α} {separator : Item}
    (isOne : isSeparator separator = true)
    (readFirst : separated? isSeparator readPart first = some firstParts)
    (readSecond : separated? isSeparator readPart second = some secondParts) :
    separated? isSeparator readPart (first ++ separator :: second) =
      some (firstParts ++ secondParts) := by
  simp only [separated?] at readFirst readSecond ⊢
  rw [List.splitOnP_append_cons _ _ isOne, List.mapM_append,
    readFirst, readSecond]
  rfl

end Separated

/-- The items of a query on the rows of a table, with those of its condition. -/
def queryItems (table rowName : String) (items : List Item) : List Item :=
  .word "SELECT" :: .number 1 :: .word "FROM" :: .word table :: .word "AS" ::
    .word rowName :: .word "WHERE" :: items

/-- Items that are conditions with AND between them, and none with OR. -/
def Conjoins (items : List Item) (parts : List Expression) : Prop :=
  (∀ item ∈ items, item.isWord "OR" = false) ∧ conjuncts? items = some parts

namespace Conjoins

variable {items first second : List Item}
  {parts firstParts secondParts : List Expression}

/-- A condition that is one part. -/
theorem single {part : Expression}
    (apart : ∀ item ∈ items, item.isWord "OR" = false ∧
      item.isWord "AND" = false)
    (read : negation? items = some part) : Conjoins items [part] :=
  ⟨fun item member => (apart item member).1,
    separated?_single (fun item member => (apart item member).2) read⟩

/-- A negation is one part if what it negates is. -/
theorem negated {part : Expression}
    (apart : ∀ item ∈ items, item.isWord "OR" = false ∧
      item.isWord "AND" = false)
    (read : negation? items = some part) :
    Conjoins (.word "NOT" :: items) [.not part] := by
  refine single (List.forall_mem_cons.mpr ⟨by simp [Item.isWord], apart⟩) ?_
  rw [negation?, read]
  rfl

theorem append (conjoinsFirst : Conjoins first firstParts)
    (conjoinsSecond : Conjoins second secondParts) :
    Conjoins (first ++ .word "AND" :: second) (firstParts ++ secondParts) := by
  refine ⟨?_, separated?_append rfl conjoinsFirst.2 conjoinsSecond.2⟩
  intro item member
  rcases List.mem_append.mp member with before | after
  · exact conjoinsFirst.1 item before
  · rcases List.mem_cons.mp after with rfl | after
    · rfl
    · exact conjoinsSecond.1 item after

/-- Parts with AND between them are one alternative. -/
theorem alternative (conjoins : Conjoins items parts) :
    separated? (Item.isWord "OR") conjuncts? items = some [parts] :=
  separated?_single conjoins.1 conjoins.2

theorem condition? (conjoins : Conjoins items parts) :
    condition? items = some (.allOf parts) := by
  rw [Sql.condition?, conjoins.alternative]
  rfl

/-- Conditions on the rows of a table are the query of EXISTS. -/
theorem query? (conjoins : Conjoins items parts) (table rowName : String) :
    query? (queryItems table rowName items) =
      some (.hasRow table rowName (.allOf parts)) := by
  rw [queryItems, Sql.query?, conjoins.condition?]
  rfl

/-- A condition in parentheses is one part. -/
theorem group {condition : Expression}
    (read : Sql.condition? items = some condition) :
    Conjoins [.group (.of items)] [condition] :=
  single (by simp [Item.isWord]) read

end Conjoins

end AttributeQuery.Sql

namespace AttributeQuery.Condition

open Sql

/-! ## Items of conditions -/

/-- Reading a condition leads from the items read before it to those read after
it. -/
def Reads (condition : Condition) (start stop : Assembly) (ending : Ending) :
    Prop :=
  ∃ lexemes, condition.Spells lexemes ending ∧ start.readAll lexemes = some stop

namespace Reads

variable {condition first second : Condition} {start middle stop : Assembly}
variable {ending added : Ending}

theorem empty (start : Assembly) : Condition.empty.Reads start start .free :=
  ⟨[], .empty, rfl⟩

theorem settle (reads : condition.Reads start stop ending) :
    condition.Reads start stop .settled := by
  obtain ⟨lexemes, spells, read⟩ := reads
  exact ⟨lexemes, spells.settle, read⟩

/-- A condition with text added that may follow it. -/
theorem sql (reads : condition.Reads start middle ending) {text : String}
    {spelled : List Token}
    (joint : ending = .free ∨ startsApart text.toList = true)
    (spells : Sql.Spells text.toList spelled added)
    (plain : spelled.all (!·.isPlaceholder) = true)
    (read : middle.readAll (spelled.map .token) = some stop) :
    (condition.sql text).Reads start stop added := by
  obtain ⟨lexemes, spellsBefore, readBefore⟩ := reads
  exact ⟨_, spellsBefore.sql joint spells plain, by
    simp [Assembly.readAll_append, readBefore, read]⟩

/-- A condition with a value added, between two tokens. -/
theorem param {outer : List (List Item)} {items : List Item}
    (reads : condition.Reads start ⟨outer, items, none⟩ .free)
    (value : SqlValue) :
    (condition.param value).Reads start ⟨outer, .bound value :: items, none⟩
      .settled := by
  obtain ⟨lexemes, spells, read⟩ := reads
  refine ⟨_, spells.param value, ?_⟩
  rw [Assembly.readAll_append, read]
  rfl

/-- Two conditions one after the other, the first ending between two tokens. -/
theorem append (readsFirst : first.Reads start middle .free)
    (readsSecond : second.Reads middle stop ending) :
    (first ++ second).Reads start stop ending := by
  obtain ⟨firstLexemes, spellsFirst, readFirst⟩ := readsFirst
  obtain ⟨secondLexemes, spellsSecond, readSecond⟩ := readsSecond
  refine ⟨_, spellsFirst.append spellsSecond, ?_⟩
  rw [Assembly.readAll_append, readFirst]
  exact readSecond

/-- A text without values. -/
theorem raw {text : String} {spelled : List Token}
    (spells : Sql.Spells text.toList spelled ending)
    (plain : spelled.all (!·.isPlaceholder) = true)
    (read : start.readAll (spelled.map .token) = some stop) :
    (Condition.raw text).Reads start stop ending :=
  (Reads.empty start).sql (.inl rfl) spells plain read

end Reads

/-- A condition is read as some items, whatever stands before it. -/
def IsRead (condition : Condition) (items : List Item) : Prop :=
  ∀ outer before,
    condition.Reads ⟨outer, before, none⟩
      ⟨outer, items.reverse ++ before, none⟩ .settled

/-- A condition states some parts: it is read as these with AND between
them. -/
def States (condition : Condition) (parts : List Expression) : Prop :=
  ∃ items, condition.IsRead items ∧ Conjoins items parts

/-- Conditions state lists of parts, one after the other. -/
abbrev StateAll (conditions : List Condition)
    (partLists : List (List Expression)) : Prop :=
  List.Forall₂ States conditions partLists

section Joining

variable {α : Type} {separator operator : String}
  {Parsed : List Item → List α → Prop}

/-- Conditions with a word between them are read as the items of all of them. It
is enough that what items are read as can be put together at that word. -/
theorem reads_appendAll
    (spelled : Sql.Spells separator.toList [.word operator] .free)
    (apart : startsApart separator.toList = true)
    (together : ∀ {first second firstParts secondParts},
      Parsed first firstParts →
      Parsed second secondParts →
      Parsed (first ++ .word operator :: second) (firstParts ++ secondParts))
    {first : Condition} {rest : List Condition} {valueLists : List (List α)}
    (parsed : List.Forall₂ (fun condition values =>
      ∃ items, condition.IsRead items ∧ Parsed items values)
        (first :: rest) valueLists) :
    ∃ items, Parsed items valueLists.flatten ∧
      ∀ {opening : Condition} {start : Assembly} {outer before},
        opening.Reads start ⟨outer, before, none⟩ .free →
        (appendAll separator opening (first :: rest)).Reads start
          ⟨outer, items.reverse ++ before, none⟩ .settled := by
  have folded : ∀ {rest : List Condition} {valueLists : List (List α)},
      List.Forall₂ (fun condition values =>
        ∃ items, condition.IsRead items ∧ Parsed items values) rest valueLists →
      ∀ {items : List Item} {values : List α}, Parsed items values →
        ∃ all, Parsed all (values ++ valueLists.flatten) ∧
          ∀ {joined : Condition} {start : Assembly} {outer before},
            joined.Reads start ⟨outer, items.reverse ++ before, none⟩ .settled →
            (rest.foldl (fun joined next => joined.sql separator ++ next)
              joined).Reads start ⟨outer, all.reverse ++ before, none⟩
            .settled := by
    intro rest valueLists parsed
    induction parsed with
    | nil =>
        intro items values read
        exact ⟨items, by simpa using read, fun reads => reads⟩
    | cons parsedNext _ ih =>
        intro items values read
        obtain ⟨nextItems, readsNext, readNext⟩ := parsedNext
        obtain ⟨all, readAll, readsAll⟩ := ih (together read readNext)
        refine ⟨all, by simpa using readAll,
          fun {joined start outer before} reads => ?_⟩
        have separated : (joined.sql separator).Reads start
            ⟨outer, .word operator :: (items.reverse ++ before), none⟩ .free :=
          reads.sql (.inr apart) spelled rfl rfl
        exact readsAll (by simpa using separated.append (readsNext outer _))
  cases parsed with
  | cons parsedFirst parsedRest =>
      obtain ⟨items, reads, read⟩ := parsedFirst
      obtain ⟨all, readAll, readsAll⟩ := folded parsedRest read
      exact ⟨all, readAll, fun opened => readsAll (opened.append (reads _ _))⟩

end Joining

/-- A closing parenthesis makes the items after the last open one a group. -/
theorem Reads.close {condition : Condition} {start : Assembly}
    {items before : List Item} {outer : List (List Item)}
    (reads : condition.Reads start ⟨before :: outer, items.reverse, none⟩
      .settled) :
    (condition.sql ")").Reads start
      ⟨outer, .group (.of items) :: before, none⟩ .free := by
  have closing : Sql.Spells ")".toList [.closing] .free := .of_run (by decide)
  exact reads.sql (.inr rfl) closing rfl (by
    simp [Assembly.readAll, Assembly.read, Assembly.readToken])

/-- An opening parenthesis. -/
theorem Reads.open (outer : List (List Item)) (before : List Item) :
    (Condition.raw "(").Reads ⟨outer, before, none⟩
      ⟨before :: outer, [], none⟩ .free := by
  have opening : Sql.Spells "(".toList [.opening] .free := .of_run (by decide)
  exact Reads.raw opening rfl rfl

section States

variable {condition : Condition} {conditions : List Condition}
  {parts : List Expression}
variable {partLists : List (List Expression)}

/-- Conditions with AND between them state the parts of all of them. -/
theorem reads_conjunction {first : Condition} {rest : List Condition}
    (stated : StateAll (first :: rest) partLists) :
    ∃ items, Conjoins items partLists.flatten ∧
      ∀ {opening : Condition} {start : Assembly} {outer before},
        opening.Reads start ⟨outer, before, none⟩ .free →
        (appendAll " AND " opening (first :: rest)).Reads start
          ⟨outer, items.reverse ++ before, none⟩ .settled := by
  have spelled : Sql.Spells " AND ".toList [.word "AND"] .free :=
    .of_run (by decide)
  exact reads_appendAll spelled rfl Conjoins.append stated

/-- Conditions with OR between them are the alternatives they state. -/
theorem reads_disjunction {first : Condition} {rest : List Condition}
    (stated : StateAll (first :: rest) partLists) :
    ∃ items, separated? (Item.isWord "OR") conjuncts? items = some partLists ∧
      ∀ {opening : Condition} {start : Assembly} {outer before},
        opening.Reads start ⟨outer, before, none⟩ .free →
        (appendAll " OR " opening (first :: rest)).Reads start
          ⟨outer, items.reverse ++ before, none⟩ .settled := by
  have spelled : Sql.Spells " OR ".toList [.word "OR"] .free :=
    .of_run (by decide)
  have alternatives : List.Forall₂
      (fun condition values => ∃ items, condition.IsRead items ∧
        separated? (Item.isWord "OR") conjuncts? items = some values)
      (first :: rest) (partLists.map ([·])) := by
    refine List.forall₂_map_right_iff.mpr (stated.imp ?_)
    rintro condition parts ⟨items, reads, conjoins⟩
    exact ⟨items, reads, conjoins.alternative⟩
  obtain ⟨items, read, reads⟩ := reads_appendAll spelled rfl
    (fun readFirst readSecond => separated?_append rfl readFirst readSecond)
    alternatives
  exact ⟨items, by simpa [← List.flatMap_def] using read, reads⟩

/-- A conjunction without parentheses states the parts of all conditions. -/
theorem states_conjunction {first : Condition} {rest : List Condition}
    (stated : StateAll (first :: rest) partLists) :
    (conjunction (first :: rest)).States partLists.flatten := by
  obtain ⟨items, conjoins, reads⟩ := reads_conjunction stated
  exact ⟨items, fun outer before => reads (.empty _), conjoins⟩

/-- A condition that is read as one group. -/
theorem States.group {items : List Item} {whole : Expression}
    (reads : ∀ outer before,
      condition.Reads ⟨outer, before, none⟩
        ⟨outer, .group (.of items) :: before, none⟩ .free)
    (read : condition? items = some whole) : condition.States [whole] :=
  ⟨[.group (.of items)],
    fun outer before => (reads outer before).settle, .group read⟩

theorem states_join_and {first : Condition} {rest : List Condition}
    (stated : StateAll (first :: rest) partLists) :
    (join "AND" (first :: rest)).States [.allOf partLists.flatten] := by
  obtain ⟨items, conjoins, reads⟩ := reads_conjunction stated
  refine .group (fun outer before => Reads.close ?_) conjoins.condition?
  simpa using reads (.open outer before)

theorem states_join_or {first : Condition} {rest : List Condition}
    (stated : StateAll (first :: rest) partLists) :
    (join "OR" (first :: rest)).States [.anyOf (partLists.map .allOf)] := by
  obtain ⟨items, alternatives, reads⟩ := reads_disjunction stated
  have read : condition? items = some (.anyOf (partLists.map .allOf)) := by
    rw [condition?, alternatives]
    rfl
  refine .group (fun outer before => Reads.close ?_) read
  simpa using reads (.open outer before)

theorem States.negate (states : condition.States parts) :
    condition.negate.States [.not (.allOf parts)] := by
  obtain ⟨items, reads, conjoins⟩ := states
  have opening : Sql.Spells "NOT (".toList [.word "NOT", .opening] .free :=
    .of_run (by decide)
  refine ⟨[.word "NOT", .group (.of items)], fun outer before => ?_,
    .negated (by simp [Item.isWord]) conjoins.condition?⟩
  have opened : (raw "NOT (").Reads ⟨outer, before, none⟩
      ⟨(.word "NOT" :: before) :: outer, [], none⟩ .free := .raw opening rfl rfl
  exact (Reads.close (by simpa using opened.append (reads _ _))).settle

end States

/-! ## Truth -/

/-- What a condition with some parts states in either dialect. -/
theorem States.expression? {condition : Condition} {parts : List Expression}
    (states : condition.States parts) (dialect : Dialect) :
    condition.expression? dialect = some (.allOf parts) := by
  obtain ⟨items, reads, conjoins⟩ := states
  obtain ⟨lexemes, spells, read⟩ := reads [] []
  simp [Condition.expression?, spells.bound, read, Assembly.complete?,
    conjoins.condition?]

/-- A condition is as true as the conjunction of its parts. -/
theorem States.truth? {condition : Condition} {parts : List Expression}
    (states : condition.States parts) (dialect : Dialect) {Value : Type}
    (database : Database Value) (scopes : Scopes Value) :
    condition.truth? dialect database scopes =
      some (.all (parts.map fun part => part.truth database scopes)) := by
  rw [Condition.truth?, states.expression? dialect, Option.map_some,
    Expression.truth_allOf]

/-- A condition is true, read in either dialect, when its parts all are. -/
theorem States.truth?_eq_yes_iff {condition : Condition}
    {parts : List Expression} (states : condition.States parts)
    (dialect : Dialect) {Value : Type} {database : Database Value}
    {scopes : Scopes Value} :
    condition.truth? dialect database scopes = some .yes ↔
      Expression.AllHold database scopes parts := by
  rw [states.truth?, Option.some.injEq, Expression.all_eq_yes_iff_allHold]

/-- A condition can be read, and what it states has a truth on some rows. -/
def HasTruth {Value : Type} (database : Database Value) (scopes : Scopes Value)
    (condition : Condition) (truth : Truth) : Prop :=
  ∃ parts, condition.States parts ∧
    .all (parts.map fun part => part.truth database scopes) = truth

section HasTruth

variable {Value : Type} {database : Database Value} {scopes : Scopes Value}
variable {condition first : Condition} {rest : List Condition}
variable {truth : Truth} {truths : List Truth}

theorem HasTruth.truth? (holds : HasTruth database scopes condition truth)
    (dialect : Dialect) :
    condition.truth? dialect database scopes = some truth := by
  obtain ⟨parts, states, rfl⟩ := holds
  exact states.truth? dialect database scopes

theorem HasTruth.unique {other : Truth}
    (holds : HasTruth database scopes condition truth)
    (holdsOther : HasTruth database scopes condition other) : truth = other :=
  Option.some.inj
    ((holds.truth? .postgres).symm.trans (holdsOther.truth? .postgres))

theorem HasTruth.negate (holds : HasTruth database scopes condition truth) :
    HasTruth database scopes condition.negate truth.not := by
  obtain ⟨parts, states, rfl⟩ := holds
  exact ⟨_, states.negate, by simp [Expression.truth, Expression.truth_allOf]⟩

/-- Conditions that have truths state lists of parts that have them. -/
theorem stateAll_of_hasTruth {conditions : List Condition}
    (hold : List.Forall₂ (HasTruth database scopes) conditions truths) :
    ∃ partLists, StateAll conditions partLists ∧
      partLists.map (fun parts => Truth.all (parts.map fun part =>
        part.truth database scopes)) = truths := by
  induction hold with
  | nil => exact ⟨[], .nil, rfl⟩
  | cons holds _ ih =>
      obtain ⟨parts, states, rfl⟩ := holds
      obtain ⟨partLists, stated, rfl⟩ := ih
      exact ⟨parts :: partLists, .cons states stated, rfl⟩

theorem hasTruth_join_and
    (hold : List.Forall₂ (HasTruth database scopes) (first :: rest) truths) :
    HasTruth database scopes (join "AND" (first :: rest)) (.all truths) := by
  obtain ⟨partLists, stated, rfl⟩ := stateAll_of_hasTruth hold
  refine ⟨_, states_join_and stated, ?_⟩
  rw [List.map_singleton, Truth.all_cons, Truth.all_nil, Truth.and_yes,
    Expression.truth_allOf, List.map_flatten, Truth.all_flatten, List.map_map]
  rfl

theorem hasTruth_join_or
    (hold : List.Forall₂ (HasTruth database scopes) (first :: rest) truths) :
    HasTruth database scopes (join "OR" (first :: rest)) (.any truths) := by
  obtain ⟨partLists, stated, rfl⟩ := stateAll_of_hasTruth hold
  refine ⟨_, states_join_or stated, ?_⟩
  simp [Expression.truth_anyOf, Expression.truth_allOf, Function.comp_def]

end HasTruth

end AttributeQuery.Condition
