import AttributeQuery.Proofs.Query.Splicing
import AttributeQuery.Schema.Document
import AttributeQuery.Settings.Source

/-!
# Safe statements

The text of a statement never ends the statement early, never starts a comment
and holds no quote apart from those around the escape character of patterns,
whatever the identifiers, values and names of tables and columns are:
identifiers and values are bound, and names are plain identifiers. The column of
a special attribute is the one exception. It stands in the text as the schema
gives it, so a statement is as safe as the special columns it names.
-/

namespace AttributeQuery

/-! ## Safe texts -/

/-- A text that keeps within the statement it stands in. -/
structure Text.IsSafe (chars : List Char) : Prop where
  noSemicolon : ';' ∉ chars
  noControl : ∀ char ∈ chars, isControl char = false
  noLineComment : ¬ ['-', '-'] <:+: chars
  noBlockComment : ¬ ['/', '*'] <:+: chars
  quotes : ∀ before after, chars = before ++ '\'' :: after →
    ("ESCAPE ".toList <:+ before ∧ ['\\', '\''] <+: after) ∨
      "ESCAPE '\\".toList <:+ before

namespace Text

variable {first second : List Char}

/-- Two characters stand next to each other in neither of two texts, nor where
the texts meet. -/
theorem not_infix_append {char next : Char}
    (notFirst : ¬ [char, next] <:+: first)
    (notSecond : ¬ [char, next] <:+: second)
    (apart : first.getLast? ≠ some char ∨ second.head? ≠ some next) :
    ¬ [char, next] <:+: first ++ second := by
  rintro ⟨before, after, same⟩
  rw [List.append_assoc] at same
  rcases List.append_eq_append_iff.mp same with
    ⟨between, isFirst, isRest⟩ | ⟨between, -, isSecond⟩
  · match between with
    | [] => exact notSecond ⟨[], after, by simpa using isRest⟩
    | [only] =>
        obtain ⟨rfl, rfl⟩ : char = only ∧ next :: after = second := by
          simpa using isRest
        simp [isFirst] at apart
    | one :: other :: rest =>
        obtain ⟨rfl, rfl, -⟩ : char = one ∧ next = other ∧
            after = rest ++ second := by
          simpa using isRest
        exact notFirst ⟨before, rest, by simp [isFirst]⟩
  · exact notSecond ⟨between, after, by simp [isSecond]⟩

/-- Two safe texts are safe together, unless a comment starts where they
meet. -/
theorem IsSafe.append (safe : IsSafe first) (safeOther : IsSafe second)
    (apart : second.head? ≠ some '-' ∧ second.head? ≠ some '*' ∨
      first.getLast? ≠ some '-' ∧ first.getLast? ≠ some '/') :
    IsSafe (first ++ second) where
  noSemicolon := by simp [safe.noSemicolon, safeOther.noSemicolon]
  noControl := List.forall_mem_append.mpr ⟨safe.noControl, safeOther.noControl⟩
  noLineComment := not_infix_append safe.noLineComment safeOther.noLineComment
    (apart.symm.imp And.left And.left)
  noBlockComment :=
    not_infix_append safe.noBlockComment safeOther.noBlockComment
      (apart.symm.imp And.right And.right)
  quotes before after same := by
    rcases List.append_eq_append_iff.mp same with
      ⟨between, rfl, isSecond⟩ | ⟨between, isFirst, isRest⟩
    · exact (safeOther.quotes between after isSecond).imp
        (.imp_left fun isSuffix => isSuffix.trans (List.suffix_append _ _))
        fun isSuffix => isSuffix.trans (List.suffix_append _ _)
    · cases between with
      | nil =>
          have alone := safeOther.quotes [] after (by simpa using isRest.symm)
          simp at alone
      | cons quote rest =>
          obtain ⟨rfl, rfl⟩ : '\'' = quote ∧ after = rest ++ second := by
            simpa using isRest
          exact (safe.quotes before rest isFirst).imp_left
            (.imp_right fun isPrefix => isPrefix.trans (List.prefix_append _ _))

/-- A text that ends a text ends what follows a character it does not have. -/
theorem suffix_of_suffix_append {mark : Char} {text before after : List Char}
    (notMark : mark ∉ text) (isSuffix : text <:+ before ++ mark :: after) :
    text <:+ after := by
  have later : mark :: after <:+ before ++ mark :: after :=
    List.suffix_append _ _
  rcases List.suffix_or_suffix_of_suffix isSuffix later with inLater | longer
  · rcases List.suffix_cons_iff.mp inLater with same | isSuffix
    · exact absurd (same ▸ List.mem_cons_self) notMark
    · exact isSuffix
  · exact absurd (longer.subset List.mem_cons_self) notMark

/-- A column is safe when a text is in which it stands behind the name of its
table: no quote of the column is made right by what stands around it. -/
theorem IsSafe.of_standsIn {column : List Char} (safe : IsSafe first)
    (stands : StandsIn ("server.".toList ++ column) first) : IsSafe column := by
  obtain ⟨outer, rest, rfl, plain⟩ := stands
  have table : "server.".toList = ['s', 'e', 'r', 'v', 'e', 'r'] ++ ['.'] := rfl
  have isInfix : column <:+: outer ++ ("server.".toList ++ column) ++ rest :=
    ⟨outer ++ "server.".toList, rest, by simp⟩
  refine ⟨fun member => safe.noSemicolon (isInfix.subset member),
    fun char member => safe.noControl char (isInfix.subset member),
    fun opener => safe.noLineComment (opener.trans isInfix),
    fun opener => safe.noBlockComment (opener.trans isInfix), ?_⟩
  rintro before after rfl
  have around : outer ++ ("server.".toList ++ (before ++ '\'' :: after)) ++
      rest =
      ((outer ++ ['s', 'e', 'r', 'v', 'e', 'r']) ++ '.' :: before) ++ '\'' ::
        (after ++ rest) := by
    simp [table]
  refine (safe.quotes _ _ around).imp
    (.imp (suffix_of_suffix_append (by decide)) ?_)
    (suffix_of_suffix_append (by decide))
  intro isPrefix
  match after with
  | [] =>
      obtain ⟨later, rfl⟩ := isPrefix
      simp [StartsPlain] at plain
  | [only] =>
      obtain ⟨later, same⟩ := isPrefix
      obtain ⟨-, rfl⟩ : '\\' = only ∧ '\'' :: later = rest := by
        simpa using same
      simp [StartsPlain] at plain
  | one :: other :: _ =>
      obtain ⟨later, same⟩ := isPrefix
      obtain ⟨rfl, rfl, -⟩ : '\\' = one ∧ '\'' = other ∧ _ := by
        simpa using same
      exact List.prefix_append [_, _] _

theorem isSafe_of_isHarmless {chars : List Char}
    (harmless : chars.all isHarmless = true) :
    IsSafe chars := by
  have notIn {mark : Char} (isMark : isHarmless mark = false) : mark ∉ chars :=
    not_mem_of_isHarmless harmless isMark
  have noMinus : '-' ∉ chars := notIn (by decide)
  have noStar : '*' ∉ chars := notIn (by decide)
  refine ⟨notIn (by decide), fun char member => ?_,
    fun opener => ?_, fun opener => ?_, ?_⟩
  · have isHarmless := List.all_eq_true.mp harmless char member
    simp only [Text.isHarmless, Bool.and_eq_true,
      Bool.not_eq_true'] at isHarmless
    exact isHarmless.2
  · exact noMinus (opener.subset (by decide))
  · exact noStar (opener.subset (by decide))
  · rintro before after rfl
    exact absurd (List.mem_append_right before List.mem_cons_self)
      (notIn (by decide))

/-- The clause that names the escape character of patterns is safe. -/
theorem isSafe_escape : IsSafe " ESCAPE '\\'".toList := by
  have chars : " ESCAPE '\\'".toList =
      [' ', 'E', 'S', 'C', 'A', 'P', 'E', ' ', '\'', '\\', '\''] := rfl
  rw [chars]
  refine ⟨by decide, by simp [isControl], by decide, by decide,
    fun before after same => ?_⟩
  · obtain ⟨rest, rfl, ends⟩ : ∃ rest,
        before = [' ', 'E', 'S', 'C', 'A', 'P', 'E', ' '] ++ rest ∧
          (rest = [] ∧ after = ['\\', '\''] ∨ rest = ['\'', '\\'] ∧
            after = []) := by
      simpa [List.cons_eq_append_iff] using same
    rcases ends with ⟨rfl, rfl⟩ | ⟨rfl, rfl⟩
    · decide
    · decide

theorem isHarmless_of_isContinuation {char : Char}
    (continues : Identifier.isContinuation char = true) :
    isHarmless char = true := by
  have notMark (mark : Char) (isMark : Identifier.isContinuation mark = false) :
      char ≠ mark := by
    rintro rfl
    simp [isMark] at continues
  have isPrinted : isControl char = false := by
    simp only [Identifier.isContinuation, Ascii.isLetter, Ascii.isDigit,
      Bool.or_eq_true, Bool.and_eq_true, decide_eq_true_eq, Char.le_def,
      UInt32.le_iff_toNat_le, Char.reduceVal, UInt32.reduceToNat] at continues
    simp only [isControl, Char.toNat, Bool.or_eq_false_iff,
      Bool.and_eq_false_iff, decide_eq_false_iff_not]
    rcases continues with bounded | rfl
    · omega
    · decide
  simp [isHarmless, isPrinted, notMark ';' (by decide), notMark '-' (by decide),
    notMark '/' (by decide), notMark '*' (by decide), notMark '\'' (by decide),
    notMark '\\' (by decide)]

end Text

/-- Texts that are safe wherever they stand. Values are not restricted. -/
def Vetting.safe : Vetting where
  IsText text :=
    Text.IsSafe text.toList ∧ text.toList.head? ≠ some '-' ∧
      text.toList.head? ≠ some '*'
  IsValue _ := True
  append first second := by
    rw [String.toList_append]
    refine ⟨first.1.append second.1 (.inl second.2), ?_⟩
    rw [List.head?_append]
    exact ⟨by simp [first.2.1, second.2.1], by simp [first.2.2, second.2.2]⟩
  harmless harmless := by
    have notHead {mark : Char} (isMark : Text.isHarmless mark = false) :
        _ ≠ some mark :=
      fun isHead => Text.not_mem_of_isHarmless harmless isMark
        (List.mem_of_mem_head? isHead)
    exact ⟨Text.isSafe_of_isHarmless harmless, notHead (by decide),
      notHead (by decide)⟩
  escape := ⟨Text.isSafe_escape, by decide, by decide⟩

/-- The column of a special attribute is safe after the name of the table. -/
theorem Location.isText_serverColumn_safe {column : String}
    (safe : Text.IsSafe column.toList) :
    Vetting.safe.IsText (serverColumn column) := by
  have table : "server.".toList = ['s', 'e', 'r', 'v', 'e', 'r', '.'] := rfl
  have server : Text.IsSafe "server.".toList :=
    Text.isSafe_of_isHarmless (by decide)
  simp only [Vetting.safe, serverColumn, String.toList_append]
  refine ⟨server.append safe (.inr (by decide)), ?_⟩
  simp [table]

/-- Every vetting admits plain names. -/
theorem Sql.IsWord.isText {vetting : Vetting} {name : String}
    (isWord : IsWord name) :
    vetting.IsText name := by
  obtain ⟨first, rest, chars, isStart, continues⟩ := isWord
  refine vetting.harmless ?_
  rw [chars, List.all_cons, Bool.and_eq_true, List.all_eq_true]
  refine ⟨Text.isHarmless_of_isContinuation ?_, fun char member =>
    Text.isHarmless_of_isContinuation (continues char member)⟩
  simp only [Text.Identifier.isStart, Text.Identifier.isContinuation,
    Bool.or_eq_true] at isStart ⊢
  tauto

/-! ## Accepted inputs -/

/-- A schema that was built from declarations or read from a document. -/
inductive Schema.IsAccepted (schema : Schema) : Prop where
  | declared {declarations : List Declaration}
      (built : build declarations = .ok schema)
  | json {text : String} (read : ofJson text = .ok schema)
  | toml {text : String} (read : ofToml text = .ok schema)

/-- The schema of a document is built from the declarations it consists of. -/
theorem Schema.exists_build_of_ofDocument {format : Format}
    {document? : Option Document} {schema : Schema}
    (read : ofDocument format document? = .ok schema) :
    ∃ declarations, build declarations = .ok schema := by
  unfold ofDocument at read
  split at read
  next => simp at read
  next =>
    obtain ⟨attributes, -, built⟩ := bind_eq_ok.mp read
    exact ⟨_, built⟩

theorem Schema.IsAccepted.exists_build {schema : Schema}
    (accepted : schema.IsAccepted) :
    ∃ declarations, build declarations = .ok schema := by
  cases accepted with
  | declared built => exact ⟨_, built⟩
  | json read => exact exists_build_of_ofDocument read
  | toml read => exact exists_build_of_ofDocument read

/-- Settings of a TOML text have a valid layout. -/
theorem Settings.layout_valid_of_ofToml {text : String} {settings : Settings}
    (accepted : Settings.ofToml text = .ok settings) :
    settings.layout.check = .ok () := by
  obtain ⟨layer, -, resolved⟩ := bind_eq_ok.mp accepted
  obtain ⟨checked, returned⟩ := check_bind_eq_ok.mp resolved
  rw [← pure_eq_ok.mp returned]
  exact (Settings.check_eq_ok.mp checked).2

namespace Compiler

section Accepted

variable {compiler : Compiler} (accepted : compiler.schema.IsAccepted)
variable {text : String}
  (configured : Settings.ofToml text = .ok compiler.settings)
variable {servertypes : List ServertypeId} {query : Query}
  {hostnames : HostnameIds}

include accepted configured

/-- A vetting that does not restrict values admits all that an accepted schema
and accepted settings provide. -/
theorem isVetted_of_accepted {candidates : List ServertypeId}
    (declared : compiler.candidates servertypes = .ok candidates)
    {vetting : Vetting} (isValue : ∀ value, vetting.IsValue value) :
    (compiler.context candidates hostnames).IsVetted vetting := by
  obtain ⟨declarations, built⟩ := accepted.exists_build
  have valid := Settings.layout_valid_of_ofToml configured
  exact isVetted_context built declared hostnames
    (fun field => (Layout.isWord_name valid field).isText) (fun _ => isValue _)
    (fun _ => isValue _) (fun _ _ => isValue _) fun _ _ => isValue _

variable {statement : Statement}
  (assembled : compiler.assemble servertypes query hostnames =
    .ok (some statement))

include assembled

/-- The column of a special attribute that a query is about stands in the
statement. -/
theorem assemble_splices {attr : Attribute}
    (concerns : query.Concerns compiler.schema attr) {special : SpecialField}
    (isSpecial : attr.special = some special) :
    Text.StandsIn (Location.serverColumn special.column).toList
      statement.sql.toList := by
  obtain ⟨candidates, body, declared, -, restricted, rfl⟩ :=
    assemble_eq_some assembled
  have vetted : (compiler.context candidates hostnames).IsVetted .plain :=
    isVetted_of_accepted accepted configured declared fun _ => trivial
  have splices : body.Splices compiler.settings.options.dialect
      (Location.serverColumn special.column).toList :=
    restrict_splices vetted isSpecial (.inr concerns) restricted
  have stands := splices.sql (isText_order vetted) 0
  rwa [Sql.Writer.text_placeholders] at stands

/-- A statement is safe exactly when the columns of the special attributes that
its filters are about are. -/
theorem assemble_isSafe_iff :
    Text.IsSafe statement.sql.toList ↔
      ∀ attr special, query.Concerns compiler.schema attr →
        attr.special = some special →
        Text.IsSafe special.column.toList := by
  constructor
  · intro safe attr special concerns isSpecial
    have stands :=
      assemble_splices accepted configured assembled concerns isSpecial
    rw [Location.serverColumn, String.toList_append] at stands
    exact safe.of_standsIn stands
  · intro special
    obtain ⟨candidates, body, declared, -, restricted, rfl⟩ :=
      assemble_eq_some assembled
    have vetted : (compiler.context candidates hostnames).IsVetted .safe :=
      isVetted_of_accepted accepted configured declared fun _ => trivial
    have passes : body.Passes .safe := restrict_passes vetted
      (fun attr concerns column isSpecial =>
        Location.isText_serverColumn_safe
          (special attr column concerns isSpecial))
      (selection_passes vetted) restricted
    exact (Condition.Passes.isText_renderPieces
      (passes.sql (isText_order vetted)) (Dialect.isText_placeholder _) 0).1

end Accepted

/-- A pattern for the hostnames of virtual machines, in a column with a plain
name. -/
theorem assemble_isSafe_iff_hostname :
    let compiler : Compiler :=
      { schema :=
        ⟨["vm"], [⟨"hostname", .scalar .string, some ⟨"_hostname"⟩, false⟩], []⟩
        settings := ({} : SettingsLayer).resolve }
    let query : Query :=
      [("hostname", .leaf (.containment .contains (.string "--; \"web\"")))]
    ∃ statement, compiler.assemble ["vm"] query {} = .ok (some statement) ∧
      Text.IsSafe statement.sql.toList := by
  intro compiler query
  have accepted : compiler.schema.IsAccepted := by
    have built : Schema.build [.servertype "vm",
        .attr ⟨"hostname", .scalar .string, some ⟨"_hostname"⟩, false⟩] =
      .ok compiler.schema := by
      cbv
    exact .declared built
  have configured : Settings.ofToml "" = .ok compiler.settings := rfl
  have assembled : ∃ statement,
      compiler.assemble ["vm"] query {} = .ok (some statement) :=
    ⟨_, rfl⟩
  obtain ⟨statement, assembled⟩ := assembled
  refine ⟨statement, assembled,
    (assemble_isSafe_iff accepted configured assembled).mpr ?_⟩
  rintro attr special ⟨entry, member, -, found⟩ isSpecial
  obtain rfl : attr =
      ⟨"hostname", .scalar .string, some ⟨"_hostname"⟩, false⟩ := by
    simpa [compiler] using Schema.mem_of_findAttribute? found
  obtain rfl : ⟨"_hostname"⟩ = special := Option.some.inj isSpecial
  exact Text.isSafe_of_isHarmless (by decide)

/-- The column of a special attribute is not checked, and ends the statement
here. -/
theorem assemble_unsafe_hostname :
    let compiler : Compiler :=
      { schema := ⟨["vm"], [⟨"hostname", .scalar .string,
          some ⟨"hostname = ''; DROP TABLE server --"⟩, false⟩], []⟩
        settings := ({} : SettingsLayer).resolve }
    let query : Query := [("hostname", .equals (.string "web"))]
    compiler.schema.IsAccepted ∧ Settings.ofToml "" = .ok compiler.settings ∧
      ∃ statement, compiler.assemble ["vm"] query {} = .ok (some statement) ∧
        ';' ∈ statement.sql.toList := by
  intro compiler query
  have built : Schema.build
      [.servertype "vm", .attr ⟨"hostname", .scalar .string,
        some ⟨"hostname = ''; DROP TABLE server --"⟩, false⟩] =
      .ok compiler.schema := by
    cbv
  have configured : Settings.ofToml "" = .ok compiler.settings := rfl
  have assembled : ∃ statement,
      compiler.assemble ["vm"] query {} = .ok (some statement) :=
    ⟨_, rfl⟩
  obtain ⟨statement, assembled⟩ := assembled
  have concerns : query.Concerns compiler.schema ⟨"hostname", .scalar .string,
      some ⟨"hostname = ''; DROP TABLE server --"⟩, false⟩ :=
    ⟨_, List.mem_singleton_self _, by simp [Filter.equals, Filter.leaves], rfl⟩
  obtain ⟨before, after, same, -⟩ :=
    assemble_splices (.declared built) configured assembled concerns rfl
  have ended : ';' ∈ statement.sql.toList := by
    rw [same]
    exact List.mem_append_left _ (List.mem_append_right _ (by decide))
  exact ⟨.declared built, configured, statement, assembled, ended⟩

end Compiler

end AttributeQuery
