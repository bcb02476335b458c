import AttributeQuery.Proofs.Query.Layout
import AttributeQuery.Proofs.Query.Leaves
import AttributeQuery.Proofs.Sql.Scoping

/-!
# What predicates state

The template of a leaf is read, once a column is filled in, as a comparison of
that column with the bound operand. The template of a list of values is read as
the list. Only the template of a boolean of a side table has nothing to read.
What is read refers to the column, and to a row of its own where there is one.
-/

namespace AttributeQuery

open Sql

/-- The type that a parameter is converted to. -/
def Dialect.castType : Dialect → ValueDomain → Option String
  | .postgres, .inet => some "inet"
  | .postgres, .macaddr => some "macaddr"
  | .postgres, .date => some "date"
  | .postgres, .datetime => some "timestamptz"
  | .postgres, .number => some "numeric"
  | .postgres, .boolean => none
  | .postgres, .string => none
  | .sqlite, _ => none

theorem Dialect.isCast_cast (dialect : Dialect) (domain : ValueDomain) :
    IsCast (dialect.cast domain) (dialect.castType domain) := by
  have typed {text type : String} (isType : type ≠ "AND" ∧ type ≠ "OR")
      (apart : startsApart text.toList = true)
      (scanned : Scan.run .between text.toList =
        ([.operator "::"], .word type.toList)) :
      IsCast (some text) (some type) :=
    .type isType apart
      (by simpa [Scan.finish] using Spells.of_run_settled scanned rfl)
  cases dialect with
  | sqlite => exact .none
  | postgres =>
      cases domain with
      | boolean | string => exact .none
      | number | inet | macaddr | date | datetime =>
          exact typed (by decide) rfl (by decide)

/-! ## Templates -/

namespace Template

/-- What a template states about the column that is filled in. -/
def States (template : Template) (parts : Operand → List Expression) : Prop :=
  ∀ column qualifier name, IsColumn column qualifier name →
    (template.apply column).States (parts (.column qualifier name))

/-- A template is readable when it has pieces and states something about its
column. -/
def IsReadable (template : Template) : Prop :=
  template.isEmpty = false ∧ ∃ parts, template.States parts

/-- A readable template that states something in scope about every column in
scope. -/
structure IsScoped (IsScope : List String → Prop) (names : List String)
    (template : Template) : Prop where
  nonempty : template.isEmpty = false
  inScope : ∃ parts, template.States parts ∧
    ∀ column : Operand, column.ReadsFrom names → ∀ part ∈ parts column,
      part.IsScoped IsScope names

namespace IsScoped

variable {IsScope : List String → Prop} {names : List String}
  {template : Template}

theorem single {part : Operand → Expression}
    (nonempty : template.isEmpty = false)
    (states : template.States fun column => [part column])
    (inScope : ∀ column : Operand, column.ReadsFrom names →
      (part column).IsScoped IsScope names) : template.IsScoped IsScope names :=
  ⟨nonempty, _, states,
    fun column reads => List.forall_mem_singleton.mpr (inScope column reads)⟩

theorem isReadable (inScope : template.IsScoped IsScope names) :
    template.IsReadable := by
  obtain ⟨nonempty, parts, states, -⟩ := inScope
  exact ⟨nonempty, parts, states⟩

theorem apply (inScope : template.IsScoped IsScope names)
    {column qualifier name : String} (isColumn : IsColumn column qualifier name)
    (isName : qualifier ∈ names) :
    (template.apply column).IsScoped IsScope names := by
  obtain ⟨-, parts, states, each⟩ := inScope
  exact ⟨_, states column qualifier name isColumn, each _ (.column name isName)⟩

end IsScoped

theorem foldl_castPieces (columnName : String) (castText : Option String)
    (applied : Condition) :
    (castPieces castText).foldl (applyPiece columnName) applied =
      applied.cast castText := by
  cases castText <;> rfl

/-- Pieces after a column that fills in a template. -/
theorem apply_column (pieces : List TemplatePiece) (columnName : String) :
    Template.apply ⟨.column :: pieces⟩ columnName =
      pieces.foldl (applyPiece columnName) (Condition.empty.sql columnName) :=
  rfl

end Template

namespace Predicate

variable {castText type : Option String}

/-- The items of a column compared with a value are one condition. -/
theorem comparison_conjoins (isCast : IsCast castText type)
    (qualifier name symbol : String) (value : SqlValue) :
    Conjoins
      (.column qualifier name :: .operator symbol :: .bound value ::
        castItems type)
      [.compare symbol (.column qualifier name) (.boundAs type value)] := by
  refine .single (fun item member => ?_)
    (negation?_compare qualifier name symbol type value)
  rcases List.mem_cons.mp member with rfl | member
  · exact ⟨rfl, rfl⟩
  rcases List.mem_cons.mp member with rfl | member
  · exact ⟨rfl, rfl⟩
  rcases List.mem_cons.mp member with rfl | member
  · exact ⟨rfl, rfl⟩
  · exact isWord_castItems isCast item member

/-- A column is compared with a value. -/
theorem comparedBy_states (symbol : String)
    (spelled : Sql.Spells (" " ++ symbol ++ " ").toList
      [.operator symbol] .free)
    (apart : startsApart (" " ++ symbol ++ " ").toList = true)
    (isCast : IsCast castText type) (value : SqlValue) :
    (comparedBy symbol value castText).template.States
      fun column => [.compare symbol column (.boundAs type value)] := by
  intro column qualifier name isColumn
  refine ⟨.column qualifier name :: .operator symbol :: .bound value ::
    castItems type,
    fun outer before => ?_,
    comparison_conjoins isCast qualifier name symbol value⟩
  have filled := (Condition.Reads.empty ⟨outer, before, none⟩).column isColumn
  have bound :=
    ((filled.sql (.inr apart) spelled rfl rfl).param value).cast isCast
  simpa [comparedBy, Template.apply_column, Template.applyPiece,
    Template.foldl_castPieces] using bound

/-- A column is one of some values. -/
theorem membership_states (isCast : IsCast castText type) (first : SqlValue)
    (rest : List SqlValue) :
    (Template.mk ([TemplatePiece.column, TemplatePiece.sql " IN ("] ++
        Template.conditionPieces
          (Condition.paramList castText (first :: rest)) ++
        [TemplatePiece.sql ")"])).States
      fun column => [.inList column ((first :: rest).map (.boundAs type))] := by
  intro column qualifier name isColumn
  obtain ⟨items, reads, read⟩ := Condition.paramList_isRead isCast first rest
  have opening : Sql.Spells " IN (".toList [.word "IN", .opening] .free :=
    .of_run (by decide)
  refine ⟨[.column qualifier name, .word "IN", .group (.of items)],
    fun outer before => ?_,
    .single (by simp [Item.isWord]) (negation?_inList read qualifier name)⟩
  have filled := (Condition.Reads.empty ⟨outer, before, none⟩).column isColumn
  have opened : ((Condition.empty.sql column).sql " IN (").Reads
      ⟨outer, before, none⟩
      ⟨(.word "IN" :: .column qualifier name :: before) :: outer, [], none⟩
      .free :=
    filled.sql (.inr rfl) opening rfl rfl
  have listed := opened.foldl_applyPiece (reads _ _) column
  have closed := (Condition.Reads.close (by simpa using listed)).settle
  simpa [Template.apply_column, Template.applyPiece] using closed

/-- A column is true. -/
theorem column_states :
    (Template.mk [.column]).States fun column => [.isTrue column] := by
  intro column qualifier name isColumn
  refine ⟨[.column qualifier name], fun outer before => ?_,
    .single (by simp [Item.isWord]) rfl⟩
  exact (Condition.Reads.empty ⟨outer, before, none⟩).column isColumn

/-- A column has a value. -/
theorem present_states :
    (Template.mk [.column, .sql " IS NOT NULL"]).States fun column =>
      [.isPresent column] := by
  intro column qualifier name isColumn
  have scanned : Scan.run .between " IS NOT NULL".toList =
      ([.word "IS", .word "NOT"], .word "NULL".toList) := by decide
  have isPresent : Sql.Spells " IS NOT NULL".toList
      ([Token.word "IS", Token.word "NOT"] ++ [Token.word "NULL"]) .settled :=
    Spells.of_run_settled scanned rfl
  refine ⟨[.column qualifier name, .word "IS", .word "NOT", .word "NULL"],
    fun outer before => ?_, .single (by simp [Item.isWord]) rfl⟩
  have filled := (Condition.Reads.empty ⟨outer, before, none⟩).column isColumn
  exact filled.sql (.inr rfl) isPresent rfl rfl

/-- A column matches a pattern. -/
theorem like_states (pattern : String) :
    (Dialect.like pattern).States
      fun column => [.like column (.bound (.text pattern)) "\\"] := by
  intro column qualifier name isColumn
  have like : Sql.Spells " LIKE ".toList [.word "LIKE"] .free :=
    .of_run (by decide)
  have scanned : Scan.run .between " ESCAPE '\\'".toList =
      ([.word "ESCAPE"], .quotedOnce ['\\']) := by decide
  have escape : Sql.Spells " ESCAPE '\\'".toList ([Token.word "ESCAPE"] ++
      [Token.quoted "\\"])
      .settled := Spells.of_run_settled scanned rfl
  refine ⟨[.column qualifier name, .word "LIKE", .bound (.text pattern),
    .word "ESCAPE",
    .quoted "\\"], fun outer before => ?_, .single (by simp [Item.isWord]) rfl⟩
  have filled := (Condition.Reads.empty ⟨outer, before, none⟩).column isColumn
  exact ((filled.sql (.inr rfl) like rfl rfl).param _).sql
    (.inr rfl) escape rfl rfl

/-- The position of a column in a text is positive. -/
theorem foundIn_states {function : String}
    (isFunction : function = "strpos" ∨ function = "instr") (text : String) :
    (Template.mk [.sql (function ++ "("), .param (.text text), .sql ", ",
        .column, .sql ") > 0"]).States
      fun column =>
        [.compare ">" (.call function [.bound (.text text), column])
            (.number 0)] := by
  intro column qualifier name isColumn
  have isWord : IsWord function := by
    rcases isFunction with rfl | rfl <;> exact .of_isIdentifier (by decide)
  have opening : Sql.Spells "(".toList [.opening] .free := .of_run (by decide)
  have comma : Sql.Spells ", ".toList [.comma] .free := .of_run (by decide)
  have scanned : Scan.run .between ") > 0".toList =
      ([.closing, .operator ">"], .number false 0) := by decide
  have isFound : Sql.Spells ") > 0".toList
      ([Token.closing, Token.operator ">"] ++ [Token.number 0])
      .settled := Spells.of_run_settled scanned rfl
  have called := (Spells.word isWord).followedBy (.inr rfl) opening
  refine ⟨[.word function,
    .group (.of [.bound (.text text), .comma, .column qualifier name]),
    .operator ">", .number 0], fun outer before => ?_, ?_⟩
  · have filled :=
      (((Condition.Reads.empty ⟨outer, before, none⟩).sql (.inl rfl) called rfl
        rfl).param (.text text)).sql (.inr rfl) comma rfl rfl
    exact (filled.column isColumn).sql (.inr rfl) isFound rfl rfl
  · rcases isFunction with rfl | rfl <;> exact .single
      (by simp [Item.isWord]) rfl

/-- The position of a text in a column is positive. -/
theorem contains_sqlite_states (needle : String) :
    (Dialect.sqlite.contains needle).States
      fun column =>
        [.compare ">" (.call "instr" [column, .bound (.text needle)])
            (.number 0)] := by
  intro column qualifier name isColumn
  have opening : Sql.Spells "instr(".toList [.word "instr", .opening] .free :=
    .of_run (by decide)
  have comma : Sql.Spells ", ".toList [.comma] .free := .of_run (by decide)
  have scanned : Scan.run .between ") > 0".toList =
      ([.closing, .operator ">"], .number false 0) := by decide
  have isFound : Sql.Spells ") > 0".toList
      ([Token.closing, Token.operator ">"] ++ [Token.number 0])
      .settled := Spells.of_run_settled scanned rfl
  refine ⟨[.word "instr",
    .group (.of [.column qualifier name, .comma, .bound (.text needle)]),
    .operator ">", .number 0], fun outer before => ?_,
    .single (by simp [Item.isWord]) rfl⟩
  have filled :=
    ((Condition.Reads.empty ⟨outer, before, none⟩).sql (.inl rfl) opening rfl
      rfl).column isColumn
  exact ((filled.sql (.inr rfl) comma rfl rfl).param _).sql
    (.inr rfl) isFound rfl rfl

/-- The first characters of a column, as many as a text has, are that text. -/
theorem startsWith_sqlite_states (start : String) :
    (Dialect.sqlite.startsWith start).States
      fun column => [.compare "="
        (.call "substr"
          [column, .number 1, .call "length" [.bound (.text start)]])
        (.bound (.text start))] := by
  intro column qualifier name isColumn
  have opening : Sql.Spells "substr(".toList [.word "substr", .opening] .free :=
    .of_run (by decide)
  have length : Sql.Spells ", 1, length(".toList
      [.comma, .number 1, .comma, .word "length", .opening] .free :=
    .of_run (by decide)
  have equals : Sql.Spells ")) = ".toList
      [.closing, .closing, .operator "="] .free :=
    .of_run (by decide)
  refine ⟨[.word "substr",
    .group (.of [.column qualifier name, .comma, .number 1, .comma,
      .word "length", .group (.of [.bound (.text start)])]), .operator "=",
    .bound (.text start)], fun outer before => ?_,
    .single (by simp [Item.isWord]) rfl⟩
  have filled :=
    ((Condition.Reads.empty ⟨outer, before, none⟩).sql (.inl rfl) opening rfl
      rfl).column isColumn
  exact (((filled.sql (.inr rfl) length rfl rfl).param _).sql
    (.inr rfl) equals rfl rfl).param _

/-- A column with its cast to text matches a regular expression. -/
theorem textPattern_states (pattern : String) :
    (Template.mk [.column, .sql "::text ~ ", .param (.text pattern)]).States
      fun column =>
        [.compare "~" (.cast column "text") (.bound (.text pattern))] := by
  intro column qualifier name isColumn
  have isMatch : Sql.Spells "::text ~ ".toList
    [.operator "::", .word "text", .operator "~"] .free := .of_run (by decide)
  refine ⟨[.column qualifier name, .operator "::", .word "text", .operator "~",
    .bound (.text pattern)], fun outer before => ?_,
    .single (by simp [Item.isWord]) rfl⟩
  have filled := (Condition.Reads.empty ⟨outer, before, none⟩).column isColumn
  exact (filled.sql (.inr rfl) isMatch rfl rfl).param _

/-- A column is the id of a server whose hostname matches a regular
expression. -/
theorem hostnamePattern_states {serverId table hostname : String}
    (isId : IsWord serverId) (isTable : IsWord table)
    (isHostname : IsWord hostname) (pattern : String) :
    (Template.mk
      [.column,
        .sql (" IN (SELECT " ++ serverId ++ " FROM " ++ table ++ " WHERE " ++
          hostname ++ " " ++ "~" ++ " "), .param (.text pattern),
          .sql ")"]).States fun column =>
    [.inRows column
        { column := serverId, table, tested := hostname, symbol := "~",
          operand := .bound (.text pattern) }] := by
  intro column qualifier name isColumn
  have opening : Sql.Spells " IN (SELECT ".toList
      [.word "IN", .opening, .word "SELECT"] .free :=
    .of_run (by decide)
  have source : Sql.Spells " FROM ".toList [.word "FROM"] .free :=
    .of_run (by decide)
  have condition : Sql.Spells " WHERE ".toList [.word "WHERE"] .free :=
    .of_run (by decide)
  have isMatch : Sql.Spells " ~ ".toList [.operator "~"] .free :=
    .of_run (by decide)
  have text : " IN (SELECT " ++ serverId ++ " FROM " ++ table ++ " WHERE " ++
      hostname ++ " " ++ "~" ++ " " = " IN (SELECT " ++ serverId ++ " FROM " ++
        table ++ " WHERE " ++ hostname ++ " ~ " := by
    rw [String.append_assoc, String.append_assoc]
    rfl
  have selects :=
    (((((opening.followedBy (.inl rfl) (.word isId)).followedBy
      (.inr rfl) source).followedBy (.inl rfl) (.word isTable)).followedBy
      (.inr rfl) condition).followedBy (.inl rfl) (.word isHostname)).followedBy
    (.inr rfl) isMatch
  rw [← text] at selects
  have apart : startsApart
      (" IN (SELECT " ++ serverId ++ " FROM " ++ table ++ " WHERE " ++
        hostname ++ " " ++ "~" ++ " ").toList = true := by
    simp only [String.append_assoc]
    exact startsApart_append rfl _
  have closing : Sql.Spells ")".toList [.closing] .free := .of_run (by decide)
  refine ⟨[.column qualifier name, .word "IN",
    .group (.of [.word "SELECT", .word serverId,
      .word "FROM", .word table, .word "WHERE", .word hostname, .operator "~",
      .bound (.text pattern)])], fun outer before => ?_,
    .single (by simp [Item.isWord]) ?_⟩
  · have filled := (Condition.Reads.empty ⟨outer, before, none⟩).column isColumn
    exact (((filled.sql (.inr apart) selects rfl rfl).param _).sql
      (.inr rfl) closing rfl rfl).settle
  · rfl

/-! ## Networks -/

/-- The pieces of a network with its cast. -/
def networkPieces (network : SqlValue) (castText : Option String) :
    List TemplatePiece :=
  .param network :: Template.castPieces castText

section Networks

variable {start : Assembly} {outer : List (List Item)} {items : List Item}

/-- A network with its cast, after a condition that ends between two tokens. -/
theorem reads_networkPieces (isCast : IsCast castText type)
    {condition : Condition}
    (reads : condition.Reads start ⟨outer, items, none⟩ .free)
    (network : SqlValue) (column : String) :
    ((networkPieces network castText).foldl (Template.applyPiece column)
      condition).Reads start
    ⟨outer, (.bound network :: castItems type).reverse ++ items, none⟩
      .settled := by
  rw [networkPieces, List.foldl_cons, Template.foldl_castPieces]
  simpa [Template.applyPiece] using (reads.param network).cast isCast

/-- A network contains another one with the same address. -/
theorem network_startsWith_states (isCast : IsCast castText type)
    (network : SqlValue) :
    (Template.mk ([TemplatePiece.column, TemplatePiece.sql " >>= "]
        ++ networkPieces network castText
        ++ [TemplatePiece.sql " AND host(", TemplatePiece.column,
          TemplatePiece.sql ") = host("] ++ networkPieces network castText ++
          [TemplatePiece.sql ")"])).States
      fun column => [.compare ">>=" column (.boundAs type network),
        .compare "=" (.call "host" [column])
          (.call "host" [.boundAs type network])] := by
  intro column qualifier name isColumn
  have contains : Sql.Spells " >>= ".toList [.operator ">>="] .free :=
    .of_run (by decide)
  have host : Sql.Spells " AND host(".toList
      [.word "AND", .word "host", .opening] .free :=
    .of_run (by decide)
  have equals : Sql.Spells ") = host(".toList
      [.closing, .operator "=", .word "host", .opening] .free :=
    .of_run (by decide)
  have called : negation? [.word "host", .group (.of [.column qualifier name]),
      .operator "=",
      .word "host", .group (.of (.bound network :: castItems type))] =
      some (.compare "=" (.call "host" [.column qualifier name])
        (.call "host" [.boundAs type network])) := by
    cases type <;> rfl
  refine ⟨(Item.column qualifier name :: Item.operator ">>=" ::
      Item.bound network :: castItems type) ++
    Item.word "AND" :: [.word "host", .group (.of [.column qualifier name]),
      .operator "=",
      .word "host", .group (.of (.bound network :: castItems type))],
    fun outer before => ?_,
    (comparison_conjoins isCast qualifier name ">>=" network).append
      (.single (by simp [Item.isWord]) called)⟩
  have filled := (Condition.Reads.empty ⟨outer, before, none⟩).column isColumn
  have contained :=
    reads_networkPieces isCast (filled.sql (.inr rfl) contains rfl rfl)
      network column
  have hosted := (contained.sql (.inr rfl) host rfl rfl).column isColumn
  have compared :=
    reads_networkPieces isCast (hosted.sql (.inr rfl) equals rfl rfl)
      network column
  rw [List.append_nil] at compared
  simpa [Template.apply, Template.applyPiece, List.foldl_append] using
    compared.close.settle

/-- The items of the condition that the network of a server lies between a
column and another network. -/
def betweenItems (qualifier name networkColumn : String) (network : SqlValue)
    (type : Option String) : List Item :=
  [Item.column qualifier name, Item.operator "<<",
    Item.column "supernet" networkColumn] ++
    Item.word "AND" :: Item.column "supernet" networkColumn ::
      Item.operator "<<" :: Item.bound network :: castItems type

/-- A network is contained in another one, with no network of a server between
them. -/
theorem network_containedOnlyBy_states (isCast : IsCast castText type)
    (network : SqlValue) {table networkColumn : String} (isTable : IsWord table)
    (isNetwork : IsWord networkColumn) :
    (Template.mk ([TemplatePiece.column, TemplatePiece.sql " << "]
        ++ networkPieces network castText
        ++ [TemplatePiece.sql (" AND NOT EXISTS (SELECT 1 FROM " ++ table ++
              " AS supernet WHERE "),
            TemplatePiece.column,
            TemplatePiece.sql
              (" << supernet." ++ networkColumn ++ " AND supernet." ++
                networkColumn ++ " << ")]
        ++ networkPieces network castText ++ [TemplatePiece.sql ")"])).States
      fun column => [.compare "<<" column (.boundAs type network),
        .not (.hasRow table "supernet" (.allOf [
          .compare "<<" column (.column "supernet" networkColumn),
          .compare "<<" (.column "supernet" networkColumn)
            (.boundAs type network)]))] := by
  intro column qualifier name isColumn
  have contained : Sql.Spells " << ".toList [.operator "<<"] .free :=
    .of_run (by decide)
  have opening : Sql.Spells " AND NOT EXISTS (SELECT 1 FROM ".toList
      [.word "AND",
        .word "NOT", .word "EXISTS", .opening, .word "SELECT", .number 1,
        .word "FROM"] .free :=
    .of_run (by decide)
  have named : Sql.Spells " AS supernet WHERE ".toList
      [.word "AS", .word "supernet", .word "WHERE"] .free := .of_run (by decide)
  have below : Sql.Spells " << supernet.".toList
    [.operator "<<", .word "supernet", .dot] .free := .of_run (by decide)
  have above : Sql.Spells " AND supernet.".toList
    [.word "AND", .word "supernet", .dot] .free := .of_run (by decide)
  have opened :=
    (opening.followedBy (.inl rfl) (.word isTable)).followedBy (.inr rfl) named
  have between :=
    (((below.followedBy (.inl rfl) (.word isNetwork)).followedBy
      (.inr rfl) above).followedBy (.inl rfl) (.word isNetwork)).followedBy
    (.inr rfl) contained
  have queryApart : startsApart (" AND NOT EXISTS (SELECT 1 FROM " ++ table
      ++ " AS supernet WHERE ").toList = true := by
    rw [String.append_assoc]
    exact startsApart_append rfl _
  have betweenApart : startsApart
      (" << supernet." ++ networkColumn ++ " AND supernet." ++ networkColumn ++
        " << ").toList = true := by
    simp only [String.append_assoc]
    exact startsApart_append rfl _
  have inside : Conjoins
        (betweenItems qualifier name networkColumn network type)
        [.compare "<<" (.column qualifier name)
          (.column "supernet" networkColumn),
          .compare "<<" (.column "supernet" networkColumn)
            (.boundAs type network)] :=
    .append (.single (by simp [Item.isWord]) rfl)
      (comparison_conjoins isCast _ _ _ network)
  let query :=
    queryItems table "supernet"
      (betweenItems qualifier name networkColumn network type)
  have absent : Conjoins [.word "NOT", .word "EXISTS", .group (.of query)]
      [.not (.hasRow table "supernet" (.allOf [
        .compare "<<" (.column qualifier name)
          (.column "supernet" networkColumn),
        .compare "<<" (.column "supernet" networkColumn)
          (.boundAs type network)]))] :=
    .negated (by simp [Item.isWord]) (inside.query? table "supernet")
  refine ⟨_, fun outer before => ?_,
    (comparison_conjoins isCast qualifier name "<<" network).append absent⟩
  have filled := (Condition.Reads.empty ⟨outer, before, none⟩).column isColumn
  have isWithin :=
    reads_networkPieces isCast (filled.sql (.inr rfl) contained rfl rfl)
      network column
  have queried :=
    (isWithin.sql (.inr queryApart) opened rfl rfl).column isColumn
  have complete := reads_networkPieces isCast
    (queried.sql (.inr betweenApart) between rfl rfl) network column
  have inOrder : (Item.bound network :: castItems type).reverse ++
      [Item.operator "<<", Item.column "supernet" networkColumn,
        Item.word "AND", Item.column "supernet" networkColumn,
        Item.operator "<<", Item.column qualifier name, Item.word "WHERE",
        Item.word "supernet", Item.word "AS", Item.word table, Item.word "FROM",
        Item.number 1, Item.word "SELECT"] = query.reverse := by
    simp [query, queryItems, betweenItems]
  rw [inOrder] at complete
  simpa [Template.apply, Template.applyPiece, List.foldl_append] using
    complete.close.settle

end Networks

/-! ## Leaves -/

variable {context : Context} {attr : Attribute}

/-- The type that the operands of an attribute are converted to. -/
def operandType (context : Context) (attr : Attribute) : Option String :=
  match attr.type with
  | .scalar domain => context.dialect.castType domain
  | _ => none

theorem isCast_operandCast (context : Context) (attr : Attribute) :
    IsCast (operandCast context attr) (operandType context attr) := by
  cases type : attr.type with
  | scalar domain => simpa [operandCast, operandType, type] using
      Dialect.isCast_cast _ domain
  | hostname | reverseHostname | supernet =>
      simpa [operandCast, operandType, type] using .none

theorem comparison_states (relation : Comparison)
    (isCast : IsCast castText type) (value : SqlValue) :
    (comparedBy relation.symbol value castText).template.States
      fun column =>
        [.compare relation.symbol column (.boundAs type value)] := by
  refine comparedBy_states _ ?_ ?_ isCast value
  · cases relation <;> exact .of_run (by decide)
  · cases relation <;> rfl

theorem equality_states (isCast : IsCast castText type) (value : SqlValue) :
    (comparedBy "=" value castText).template.States
      fun column => [.compare "=" column (.boundAs type value)] :=
  comparedBy_states "=" (.of_run (by decide)) rfl isCast value

/-! ## Names in scope -/

variable {IsScope : List String → Prop} {names : List String}

theorem comparedBy_isScoped (symbol : String) {value : SqlValue}
    (states : (comparedBy symbol value castText).template.States
      fun column => [.compare symbol column (.boundAs type value)]) :
    (comparedBy symbol value castText).template.IsScoped IsScope names :=
  .single rfl states fun _ reads => .compare symbol reads (.boundAs type value)

theorem IsPattern.isScoped (valid : context.layout.check = .ok ())
    {text : String} {predicate : Predicate}
    (isPattern : IsPattern context attr text predicate) :
    predicate.template.IsScoped IsScope names := by
  cases isPattern with
  | hostname =>
      exact .single rfl (hostnamePattern_states (Layout.isWord_name valid _)
        (Layout.isWord_name valid _) (Layout.isWord_name valid _) text)
        fun _ reads => .inRows reads (.bound _)
  | value =>
      exact .single rfl (textPattern_states text)
        fun _ reads => .compare _ (.cast _ reads) (.bound _)

/-- A network between two others has a row with a name of its own. -/
theorem networkTemplate_isScoped (valid : context.layout.check = .ok ())
    (isScope : IsScope ("supernet" :: names)) {relation : Containment}
    {literal : Literal} {template : Template}
    (built : networkTemplate context attr relation literal = .ok template) :
    template.IsScoped IsScope names := by
  obtain ⟨_, -, encoded⟩ := bind_eq_ok.mp built
  obtain ⟨network, -, chosen⟩ := bind_eq_ok.mp encoded
  have isCast := Dialect.isCast_cast context.dialect .inet
  cases relation with
  | startsWith =>
      rw [← pure_eq_ok.mp chosen]
      refine ⟨rfl, _, network_startsWith_states isCast network,
        fun column reads => ?_⟩
      have host {argument : Operand}
          (readsArgument : argument.ReadsFrom names) :
          (Operand.call "host" [argument]).ReadsFrom names :=
        .call "host" (List.forall_mem_singleton.mpr readsArgument)
      simp only [List.forall_mem_cons]
      exact ⟨.compare _ reads (.boundAs _ network),
        .compare _ (host reads) (host (.boundAs _ network)), nofun⟩
  | contains =>
      rw [← pure_eq_ok.mp chosen]
      exact comparedBy_isScoped ">>="
        (comparedBy_states ">>=" (.of_run (by decide)) rfl isCast network)
  | containedBy =>
      rw [← pure_eq_ok.mp chosen]
      exact comparedBy_isScoped "<<="
        (comparedBy_states "<<=" (.of_run (by decide)) rfl isCast network)
  | containedOnlyBy =>
      rw [← pure_eq_ok.mp chosen]
      refine ⟨rfl, _,
        network_containedOnlyBy_states isCast network
          (Layout.isWord_name valid _) (Layout.isWord_name valid _),
          fun column reads => ?_⟩
      have readsInside := reads.mono (List.subset_cons_self "supernet" names)
      have readsRow := Operand.ReadsFrom.column (context.named .networkColumn)
        (List.mem_cons_self : "supernet" ∈ "supernet" :: names)
      simp only [List.forall_mem_cons]
      refine ⟨.compare _ reads (.boundAs _ network),
        .not (.hasRow _ isScope (.allOf ?_)), nofun⟩
      simp only [List.forall_mem_cons]
      exact ⟨.compare _ readsInside readsRow,
        .compare _ readsRow (.boundAs _ network), nofun⟩
  | overlaps =>
      rw [← pure_eq_ok.mp chosen]
      exact comparedBy_isScoped "&&"
        (comparedBy_states "&&" (.of_run (by decide)) rfl isCast network)

theorem textTemplate_isScoped {dialect : Dialect} {relation : Containment}
    {text : String} {template : Template}
    (found : textTemplate? dialect relation text = some template) :
    template.IsScoped IsScope names := by
  have like (pattern : String) : (Dialect.like pattern).IsScoped
      IsScope names :=
    .single rfl (like_states pattern) fun _ reads => .like _ reads (.bound _)
  have call {function : String} {arguments : List Operand}
      (each : ∀ argument ∈ arguments, argument.ReadsFrom names) :
      (Operand.call function arguments).ReadsFrom names := .call function each
  cases relation with
  | startsWith =>
      obtain rfl := Option.some.inj found
      cases dialect with
      | postgres => exact like _
      | sqlite =>
          refine .single rfl (startsWith_sqlite_states text) fun _ reads =>
            .compare _ (call ?_) (.bound _)
          simp only [List.forall_mem_cons]
          exact ⟨reads, .number 1,
            call (List.forall_mem_singleton.mpr (.bound _)), nofun⟩
  | contains =>
      obtain rfl := Option.some.inj found
      cases dialect with
      | postgres => exact like _
      | sqlite =>
          refine .single rfl (contains_sqlite_states text) fun _ reads =>
            .compare _ (call ?_) (.number 0)
          simp only [List.forall_mem_cons]
          exact ⟨reads, .bound _, nofun⟩
  | containedBy =>
      obtain rfl := Option.some.inj found
      have isFound (function : String)
          (isFunction : function = "strpos" ∨ function = "instr") : (Template.mk
            [.sql (function ++ "("), .param (.text text), .sql ", ", .column,
              .sql ") > 0"]).IsScoped IsScope names := by
        refine .single rfl (foundIn_states isFunction text) fun _ reads =>
          .compare _ (call ?_) (.number 0)
        simp only [List.forall_mem_cons]
        exact ⟨.bound _, reads, nofun⟩
      cases dialect with
      | postgres => exact isFound "strpos" (.inl rfl)
      | sqlite => exact isFound "instr" (.inr rfl)
  | containedOnlyBy | overlaps => simp [textTemplate?] at found

theorem IsContainment.isScoped (valid : context.layout.check = .ok ())
    (isScope : IsScope ("supernet" :: names)) {relation : Containment}
    {literal : Literal} {predicate : Predicate}
    (isContainment : IsContainment context attr relation literal predicate) :
    predicate.template.IsScoped IsScope names := by
  cases isContainment with
  | network _ found | supernet _ found =>
      exact networkTemplate_isScoped valid isScope found
  | text _ _ _ found => exact textTemplate_isScoped found

/-- What a leaf says of a column in scope is in scope, or it is about a boolean
of a side table and there are no pieces. -/
theorem ofLeaf_isScoped (valid : context.layout.check = .ok ())
    (isScope : IsScope ("supernet" :: names)) {leaf : Leaf}
    {predicate : Predicate} (built : ofLeaf context attr leaf = .ok predicate) :
    predicate.template.IsScoped IsScope names ∨
      predicate.template.isEmpty = true ∧ attr.isSpecial = false := by
  have isCast := isCast_operandCast context attr
  cases ofLeaf_eq_ok.mp built with
  | boolean =>
      cases isSpecial : attr.isSpecial with
      | true =>
          exact .inl (.single rfl column_states fun _ reads => .isTrue reads)
      | false => exact .inr ⟨rfl, rfl⟩
  | equality => exact .inl (comparedBy_isScoped _ (equality_states isCast _))
  | comparison =>
      exact .inl (comparedBy_isScoped _ (comparison_states _ isCast _))
  | pattern _ isPattern => exact .inl (isPattern.isScoped valid)
  | presence =>
      exact .inl (.single rfl present_states fun _ reads => .isPresent reads)
  | containment _ isContainment =>
      exact .inl (isContainment.isScoped valid isScope)

/-- The template of a leaf is readable, or it is that of a boolean of a side
table and has no pieces. -/
theorem ofLeaf_isReadable (valid : context.layout.check = .ok ()) {leaf : Leaf}
    {predicate : Predicate} (built : ofLeaf context attr leaf = .ok predicate) :
    predicate.template.IsReadable ∨
      predicate.template.isEmpty = true ∧ attr.isSpecial = false := by
  have inScope : predicate.template.IsScoped (fun _ => True) [] ∨
      predicate.template.isEmpty = true ∧ attr.isSpecial = false :=
    ofLeaf_isScoped valid trivial built
  exact inScope.imp_left Template.IsScoped.isReadable

theorem ofMembership_isScoped {first : Literal} {rest : List Literal}
    {predicate : Predicate}
    (built : ofMembership context attr (first :: rest) = .ok predicate) :
    predicate.template.IsScoped IsScope names := by
  obtain ⟨value, others, -, -, -, template⟩ := ofMembership_eq_ok built
  rw [template]
  refine .single rfl
    (membership_states (isCast_operandCast context attr) value others)
    fun _ reads => .inList reads fun member isMember => ?_
  obtain ⟨_, -, rfl⟩ := List.mem_map.mp isMember
  exact .boundAs _ _

end Predicate

end AttributeQuery
