import AttributeQuery.Proofs.Query.Vetting

/-!
# Spliced columns

The column of a special attribute stands in the text of a statement as the
schema gives it, as soon as a leaf of the query is about the attribute. What
follows it never starts with a quote or a backslash, so nothing after the column
changes what its quotes mean.
-/

namespace AttributeQuery

/-! ## Texts -/

/-- A text that starts with neither a quote nor a backslash. -/
def Text.StartsPlain (chars : List Char) : Prop :=
  chars.head? ≠ some '\'' ∧ chars.head? ≠ some '\\'

/-- A text stands in another one, and what follows it starts plain. -/
def Text.StandsIn (text chars : List Char) : Prop :=
  ∃ before after, chars = before ++ text ++ after ∧ StartsPlain after

namespace Text

variable {text chars other : List Char}

theorem StartsPlain.append (plain : StartsPlain chars)
    (plainOther : StartsPlain other) :
    StartsPlain (chars ++ other) := by
  unfold StartsPlain
  rw [List.head?_append]
  exact ⟨by simp [plain.1, plainOther.1], by simp [plain.2, plainOther.2]⟩

theorem StandsIn.append_left (stands : StandsIn text chars)
    (plain : StartsPlain other) :
    StandsIn text (chars ++ other) := by
  obtain ⟨before, after, rfl, plainAfter⟩ := stands
  exact ⟨before, after ++ other, by simp, plainAfter.append plain⟩

theorem StandsIn.append_right (stands : StandsIn text chars) :
    StandsIn text (other ++ chars) := by
  obtain ⟨before, after, rfl, plainAfter⟩ := stands
  exact ⟨other ++ before, after, by simp, plainAfter⟩

end Text

/-- Texts that start plain. Values are not restricted. -/
def Vetting.plain : Vetting where
  IsText text := Text.StartsPlain text.toList
  IsValue _ := True
  append plain plainOther := by
    rw [String.toList_append]
    exact plain.append plainOther
  harmless harmless := by
    have notHead {mark : Char} (isMark : Text.isHarmless mark = false) :
        _ ≠ some mark :=
      fun isHead => Text.not_mem_of_isHarmless harmless isMark
        (List.mem_of_mem_head? isHead)
    exact ⟨notHead (by decide), notHead (by decide)⟩
  escape := ⟨by decide, by decide⟩

/-! ## Conditions -/

namespace Condition

/-- A text stands in a condition, whatever number its first placeholder has. -/
def Splices (dialect : Dialect) (text : List Char) (condition : Condition) :
    Prop :=
  ∀ count, Text.StandsIn text
    ((Sql.Writer.placeholders dialect).text count condition.pieces).toList

variable {dialect : Dialect} {text : List Char} {first second : Condition}

/-- The text of a condition of plain texts starts plain. -/
theorem Passes.startsPlain (passes : first.Passes .plain) (dialect : Dialect)
    (count : Nat) :
    Text.StartsPlain
      ((Sql.Writer.placeholders dialect).text count first.pieces).toList := by
  rw [Sql.Writer.text_placeholders]
  exact Passes.isText_renderPieces passes
    (Dialect.isText_placeholder dialect) count

namespace Splices

/-- A text that was just added. -/
theorem added (condition : Condition) (added : String) :
    (condition.sql added).Splices dialect added.toList := by
  intro count
  rw [text_sql, String.toList_append]
  exact ⟨_, [], (List.append_nil _).symm, by simp [Text.StartsPlain]⟩

theorem sql (splices : first.Splices dialect text) {added : String}
    (plain : Text.StartsPlain added.toList) :
    (first.sql added).Splices dialect text := by
  intro count
  rw [text_sql, String.toList_append]
  exact (splices count).append_left plain

theorem param (splices : first.Splices dialect text) (value : SqlValue) :
    (first.param value).Splices dialect text := by
  intro count
  rw [text_param, String.toList_append]
  exact (splices count).append_left (Dialect.isText_placeholder dialect _ :
    Vetting.plain.IsText _)

theorem append_left (splices : first.Splices dialect text)
    (passes : second.Passes .plain) :
    (first ++ second).Splices dialect text := by
  intro count
  change Text.StandsIn text ((Sql.Writer.placeholders dialect).text count
    (first.pieces ++ second.pieces)).toList
  rw [Sql.Writer.text_append, String.toList_append]
  exact (splices count).append_left (passes.startsPlain dialect _)

theorem append_right (splices : second.Splices dialect text) :
    (first ++ second).Splices dialect text := by
  intro count
  change Text.StandsIn text ((Sql.Writer.placeholders dialect).text count
    (first.pieces ++ second.pieces)).toList
  rw [Sql.Writer.text_append, String.toList_append]
  exact (splices _).append_right

theorem negate (splices : first.Splices dialect text) :
    first.negate.Splices dialect text :=
  splices.append_right.sql (Vetting.plain.harmless (by decide))

theorem foldl {separator : String} (plain : Text.StartsPlain separator.toList)
    {conditions : List Condition}
    (pass : ∀ condition ∈ conditions, condition.Passes .plain)
    (splices : first.Splices dialect text ∨
      ∃ condition ∈ conditions, condition.Splices dialect text) :
    (conditions.foldl (fun joined next => joined.sql separator ++ next)
      first).Splices dialect text := by
  induction conditions generalizing first with
  | nil => simpa using splices
  | cons next rest ih =>
      obtain ⟨passesNext, passRest⟩ := List.forall_mem_cons.mp pass
      refine ih passRest ?_
      rw [List.exists_mem_cons_iff] at splices
      rcases splices with inFirst | inNext | inRest
      · exact .inl ((inFirst.sql plain).append_left passesNext)
      · exact .inl inNext.append_right
      · exact .inr inRest

/-- A text that stands in one of several conditions stands in their
combination. -/
theorem join {operator : String}
    (plain : Text.StartsPlain (" " ++ operator ++ " ").toList)
    {conditions : List Condition}
    (pass : ∀ condition ∈ conditions, condition.Passes .plain)
    (splices : ∃ condition ∈ conditions, condition.Splices dialect text) :
    (Condition.join operator conditions).Splices dialect text := by
  cases conditions with
  | nil => simp at splices
  | cons next rest =>
      obtain ⟨-, passRest⟩ := List.forall_mem_cons.mp pass
      rw [List.exists_mem_cons_iff] at splices
      exact (foldl plain passRest (splices.imp_left append_right)).sql
        (Vetting.plain.harmless (by decide))

end Splices

end Condition

/-- The column stands in a template that has a hole for it. -/
theorem Template.Passes.apply_splices {template : Template}
    (passes : template.Passes .plain) (hasColumn : .column ∈ template.pieces)
    (dialect : Dialect) (column : String) :
    (template.apply column).Splices dialect column.toList := by
  have filled : ∀ {pieces : List TemplatePiece},
      (∀ piece ∈ pieces, Vetting.plain.AdmitsTemplate piece) →
      ∀ {applied : Condition},
      applied.Splices dialect column.toList ∨ .column ∈ pieces →
      (pieces.foldl (applyPiece column) applied).Splices dialect
      column.toList := by
    intro pieces pass
    induction pieces with
    | nil => exact fun splices => splices.resolve_right (by simp)
    | cons piece rest ih =>
        obtain ⟨passFirst, passRest⟩ := List.forall_mem_cons.mp pass
        intro applied splices
        refine ih passRest ?_
        cases piece with
        | sql text => exact splices.imp (·.sql passFirst) (by simp)
        | param value => exact splices.imp (·.param value) (by simp)
        | column => exact .inl (.added applied column)
  exact filled passes (.inr hasColumn)

/-! ## Predicates -/

namespace Predicate

variable {context : Context} {attr : Attribute}

theorem column_mem_textTemplate {dialect : Dialect} {relation : Containment}
    {text : String} {template : Template}
    (found : textTemplate? dialect relation text = some template) :
    .column ∈ template.pieces := by
  cases relation with
  | startsWith | contains | containedBy =>
      obtain rfl := Option.some.inj found
      cases dialect <;>
        simp [Dialect.startsWith, Dialect.contains,
          Dialect.containedBy, Dialect.like]
  | containedOnlyBy | overlaps => simp [textTemplate?] at found

theorem column_mem_networkTemplate {relation : Containment} {literal : Literal}
    {template : Template}
    (built : networkTemplate context attr relation literal = .ok template) :
    .column ∈ template.pieces := by
  obtain ⟨-, built⟩ := check_bind_eq_ok.mp built
  obtain ⟨value, -, built⟩ := bind_eq_ok.mp built
  cases relation <;> simp [← pure_eq_ok.mp built]

theorem IsContainment.column_mem {relation : Containment} {literal : Literal}
    {predicate : Predicate}
    (isContainment : IsContainment context attr relation literal predicate) :
    .column ∈ predicate.template.pieces := by
  cases isContainment with
  | network _ found | supernet _ found => exact column_mem_networkTemplate found
  | text _ _ _ found => exact column_mem_textTemplate found

/-- The template of a leaf has a hole for a column, or it is that of a boolean
of a side table and has no pieces. -/
theorem column_mem_or_isEmpty_ofLeaf {leaf : Leaf} {predicate : Predicate}
    (built : ofLeaf context attr leaf = .ok predicate) :
    .column ∈ predicate.template.pieces ∨
      predicate.template.isEmpty = true ∧ attr.isSpecial = false := by
  cases ofLeaf_eq_ok.mp built with
  | boolean =>
      cases special : attr.isSpecial with
      | true => exact .inl (by simp)
      | false => exact .inr (by simp [Template.isEmpty])
  | equality | comparison => exact .inl (by simp [comparedBy])
  | pattern _ isPattern => cases isPattern <;> exact .inl (by simp)
  | presence => exact .inl (by simp)
  | containment _ isContainment => exact .inl isContainment.column_mem

/-- The predicate of a leaf about a special attribute has a hole for its
column. -/
theorem column_mem_ofLeaf (special : attr.isSpecial = true) {leaf : Leaf}
    {predicate : Predicate} (built : ofLeaf context attr leaf = .ok predicate) :
    .column ∈ predicate.template.pieces :=
  (column_mem_or_isEmpty_ofLeaf built).resolve_right (by simp [special])

theorem column_mem_ofMembership {literals : List Literal}
    {predicate : Predicate}
    (built : ofMembership context attr literals = .ok predicate) :
    .column ∈ predicate.template.pieces := by
  obtain ⟨bound, -, returned⟩ := bind_eq_ok.mp built
  simp [← pure_eq_ok.mp returned]

end Predicate

/-! ## Filters -/

variable {context : Context} {attr : Attribute} {dialect : Dialect}
  {column : String}

/-- A predicate about a column. -/
theorem Location.apply_splices {predicate : Predicate}
    (passes : predicate.template.Passes .plain)
    (hasColumn : .column ∈ predicate.template.pieces) :
    ((Location.column column).apply predicate).Splices dialect
      column.toList := by
  have located := passes.apply_splices hasColumn dialect column
  unfold Location.apply
  split
  · exact located.negate
  · exact located

/-- A column of the server table starts with the name of the table. -/
theorem Location.plain_serverColumn (column : String) :
    Vetting.plain.IsText (serverColumn column) := by
  have table : "server.".toList = ['s', 'e', 'r', 'v', 'e', 'r', '.'] := rfl
  simp [Vetting.plain, Text.StartsPlain, serverColumn, table]

/-- A vetting of plain texts, with an attribute that is held by a column. -/
structure Context.IsSpliced (context : Context) (attr : Attribute)
    (column : String) : Prop where
  vetted : context.IsVetted .plain
  special : attr.isSpecial = true
  plain : Text.StartsPlain column.toList

theorem Context.IsSpliced.passes (spliced : context.IsSpliced attr column) :
    (Location.column column).Passes .plain :=
  spliced.plain

namespace Filter

/-- Joining plain conditions passes on what stands in one of them. -/
theorem isPassedOn_splices (text : List Char) :
    Condition.IsPassedOn (Condition.Passes .plain)
      (Condition.Splices dialect text) where
  kept := isKept_passes
  negate := .negate
  join := by
    rintro operator conditions (rfl | rfl) pass splices
    · exact .join (Vetting.plain.harmless (by decide)) pass splices
    · exact .join (Vetting.plain.harmless (by decide)) pass splices

theorem leafShows_splices (spliced : context.IsSpliced attr column)
    (leaf : Leaf) :
    LeafShows context attr (.column column)
      (Condition.Splices dialect column.toList) leaf where
  single built :=
    Location.apply_splices (Predicate.ofLeaf_passes spliced.vetted built)
      (Predicate.column_mem_ofLeaf spliced.special built)
  membership _ _ built := Location.apply_splices
    (Predicate.ofMembership_passes spliced.vetted built)
    (Predicate.column_mem_ofMembership built)

/-- The column stands in the condition of a filter that has a leaf. -/
theorem compile_splices (spliced : context.IsSpliced attr column)
    (filter : Filter) {condition : Condition} (isSome : filter.leaves ≠ [])
    (compiled : filter.compile context attr (.column column) = .ok condition) :
    condition.Splices dialect column.toList := by
  obtain ⟨leaf, isLeaf⟩ := List.exists_mem_of_ne_nil _ isSome
  exact compile_shows (isPassedOn_splices column.toList)
    (leavesHold_passes spliced.vetted fun _ => spliced.passes)
    (leafShows_splices spliced leaf) filter isLeaf (List.Subset.refl _) compiled

end Filter

/-! ## Statements -/

namespace Compiler

theorem conditionIn_splices {id : AttributeId} {special : SpecialField}
    {filter : Filter} (vetted : context.IsVetted .plain)
    (found : context.schema.findAttribute? id = some attr)
    (isSpecial : attr.special = some special) (isSome : filter.leaves ≠ [])
    {condition : Condition}
    (compiled : conditionIn context id filter = .ok condition) :
    condition.Splices dialect
      (Location.serverColumn special.column).toList := by
  obtain ⟨other, location, foundOther, resolved, compiled⟩ :=
    conditionIn_eq_ok.mp compiled
  obtain rfl := Option.some.inj (found.symm.trans foundOther)
  simp only [Location.resolve, isSpecial, Except.ok.injEq] at resolved
  rw [← resolved] at compiled
  refine Filter.compile_splices
    ⟨vetted, by simp [Attribute.isSpecial, isSpecial], ?_⟩ filter
    isSome compiled
  exact Location.plain_serverColumn special.column

/-- The column of a special attribute that a query is about stands in the
restricted statement. -/
theorem restrict_splices {query : Query} {special : SpecialField}
    (vetted : context.IsVetted .plain) (isSpecial : attr.special = some special)
    {statement body : Condition}
    (splices : statement.Splices dialect
      (Location.serverColumn special.column).toList ∨
      query.Concerns context.schema attr)
    (restricted : restrict context statement query = .ok body) :
    body.Splices dialect (Location.serverColumn special.column).toList := by
  induction query generalizing statement with
  | nil =>
      rw [← Except.ok.inj restricted]
      exact splices.resolve_right (by simp [Query.Concerns])
  | cons entry rest ih =>
      obtain ⟨condition, compiled, later⟩ := bind_eq_ok.mp restricted
      refine ih ?_ later
      rcases splices with before | ⟨other, member, isSome, found⟩
      · refine .inl
          ((before.sql (Vetting.plain.harmless (by decide))).append_left ?_)
        exact conditionIn_passes vetted
          (fun _ _ _ _ _ => Location.plain_serverColumn _) compiled
      · rcases List.mem_cons.mp member with rfl | isLater
        · exact .inl
            (conditionIn_splices vetted found isSpecial isSome
              compiled).append_right
        · exact .inr ⟨other, isLater, isSome, found⟩

end Compiler

end AttributeQuery
