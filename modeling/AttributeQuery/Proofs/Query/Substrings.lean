import AttributeQuery.Proofs.Query.Predicate
import AttributeQuery.Proofs.Text.LikePattern

/-!
# Texts in columns

The dialects look for a text in a column in different ways: one matches a
pattern, the other computes positions and compares. In a database whose
operators and functions on texts do what is documented for the dialect, all of
them find the same: the texts that contain a text, that start with it, or that
it contains.
-/

namespace AttributeQuery

open Sql
open Text.LikePattern (elements? accepts)

/-! ## Positions -/

/-- The position of the first occurrence of some characters in others, the first
one having number one, or zero if there is none. -/
def Text.position (haystack needle : List Char) : Nat :=
  match haystack.tails.findIdx? needle.isPrefixOf with
  | some before => before + 1
  | none => 0

/-- Some characters have a position in those that contain them. -/
theorem Text.position_pos {haystack needle : List Char} :
    0 < Text.position haystack needle ↔ needle <:+: haystack := by
  have occurs :
      (∃ remaining ∈ haystack.tails, needle.isPrefixOf remaining = true) ↔
      needle <:+: haystack := by
    simp [List.infix_iff_prefix_suffix, and_comm]
  rw [← occurs, Text.position]
  cases found : haystack.tails.findIdx? needle.isPrefixOf with
  | none =>
      have absent := List.findIdx?_eq_none_iff.mp found
      refine iff_of_false (Nat.lt_irrefl 0) ?_
      rintro ⟨remaining, isTail, isPrefix⟩
      rw [absent remaining isTail] at isPrefix
      cases isPrefix
  | some before =>
      obtain ⟨inBounds, isPrefix, -⟩ :=
        List.findIdx?_eq_some_iff_getElem.mp found
      exact iff_of_true before.succ_pos ⟨_, List.getElem_mem inBounds, isPrefix⟩

/-! ## Databases of texts -/

namespace Sql.Database

variable {Value : Type}

/-- What PostgreSQL computes from texts: the truth of LIKE with backslash as
escape character, and the position of a text in another. -/
structure HasPostgresTexts (database : Database Value) : Prop where
  greater : ∀ first second : Int,
    database.compare ">" (database.number first) (database.number second) =
      .ofBool (second < first)
  like : ∀ text pattern elements, elements? pattern.toList = some elements →
    database.like "\\" (database.text text) (database.text pattern) =
      .ofBool (accepts elements text.toList)
  strpos : ∀ haystack needle,
    database.call "strpos"
      [some (database.text haystack), some (database.text needle)] =
      some (database.number (Text.position haystack.toList needle.toList))

/-- What SQLite computes from texts: their positions in others, their lengths,
and as many characters of them as wanted from a position on. The texts it stores
and is given are taken to be without U+0000, at the first of which `length`
stops. -/
structure HasSqliteTexts (database : Database Value) : Prop where
  greater : ∀ first second : Int,
    database.compare ">" (database.number first) (database.number second) =
      .ofBool (second < first)
  equals : ∀ first second,
    database.compare "=" (database.text first) (database.text second) =
      .ofBool (first = second)
  instr : ∀ haystack needle,
    database.call "instr"
      [some (database.text haystack), some (database.text needle)] =
      some (database.number (Text.position haystack.toList needle.toList))
  length : ∀ text, database.call "length" [some (database.text text)] =
    some (database.number text.toList.length)
  substr : ∀ text (before count : Nat),
    database.call "substr"
        [some (database.text text), some (database.number (before + 1)),
          some (database.number count)] =
      some (database.text
        (String.ofList ((text.toList.drop before).take count)))

/-- What a database of a dialect computes from texts. -/
def HasTextsOf (database : Database Value) : Dialect → Prop
  | .postgres => database.HasPostgresTexts
  | .sqlite => database.HasSqliteTexts

/-- A database of texts and numbers with the functions on texts of both
dialects. -/
def ofTexts (rows : String → List (Row PlainValue)) : Database PlainValue where
  rows := rows
  text := .text
  number := .number
  cast _ value := value
  call function arguments :=
    match function, arguments with
    | "strpos", [some (.text haystack), some (.text needle)]
    | "instr", [some (.text haystack), some (.text needle)] =>
        some (.number (Text.position haystack.toList needle.toList))
    | "length", [some (.text text)] => some (.number text.toList.length)
    | "substr",
          [some (.text text), some (.number start), some (.number count)] =>
        some (.text (String.ofList
          ((text.toList.drop (start - 1).toNat).take count.toNat)))
    | _, _ => none
  compare symbol left right :=
    match symbol, left, right with
    | "=", left, right => .ofBool (left = right)
    | ">", .number left, .number right => .ofBool (right < left)
    | _, _, _ => .unknown
  like escape subject pattern :=
    match escape, subject, pattern with
    | "\\", .text text, .text pattern =>
        match elements? pattern.toList with
        | some elements => .ofBool (accepts elements text.toList)
        | none => .unknown
    | _, _, _ => .unknown
  isTrue value := .ofBool (value = .number 1)

theorem ofTexts_hasTextsOf (rows : String → List (Row PlainValue))
    (dialect : Dialect) :
    (ofTexts rows).HasTextsOf dialect := by
  cases dialect with
  | postgres =>
      refine ⟨fun _ _ => rfl, fun text pattern elements read => ?_,
        fun _ _ => rfl⟩
      simp only [ofTexts, read]
  | sqlite =>
      refine ⟨fun _ _ => rfl, fun first second => ?_,
        fun _ _ => rfl, fun _ => rfl, fun text before count => ?_⟩
      · simp [ofTexts]
      · simp [ofTexts]

end Sql.Database

/-! ## Conditions on texts -/

section Truth

variable {Value : Type} {database : Database Value} {scopes : Scopes Value}
variable {column qualifier name : String}

/-- The truth of a template that states one part, with a column filled in. -/
theorem Template.States.truth? {template : Template}
    {part : Operand → Expression}
    (states : template.States fun column => [part column])
    (isColumn : IsColumn column qualifier name) (dialect : Dialect) :
    (template.apply column).truth? dialect database scopes =
      some ((part (.column qualifier name)).truth database scopes) := by
  rw [(states column qualifier name isColumn).truth? dialect database scopes]
  simp

/-- A position that a function computes from two texts is positive when the one
occurs in the other. -/
theorem Sql.Expression.truth_position
    (greater : ∀ first second : Int,
      database.compare ">" (database.number first) (database.number second) =
        .ofBool (second < first))
    {function : String} (computes : ∀ haystack needle,
      database.call function
        [some (database.text haystack), some (database.text needle)] =
        some (database.number (Text.position haystack.toList needle.toList)))
    {first second : Operand} {haystack needle : String}
    (isFirst : first.value database scopes = some (database.text haystack))
    (isSecond : second.value database scopes = some (database.text needle)) :
    (Expression.compare ">" (.call function [first, second]) (.number 0)).truth
      database scopes = .ofBool (needle.toList <:+: haystack.toList) := by
  have position : (Operand.call function [first, second]).value database
      scopes =
      some (database.number (Text.position haystack.toList needle.toList)) := by
    simp only [Operand.value, Operand.values, isFirst, isSecond, computes]
  rw [truth, Operand.compared, position, Operand.value,
    Database.strictly, greater]
  congr 1
  rw [decide_eq_decide, ← Text.position_pos]
  exact Int.natCast_pos

namespace Dialect

variable (isColumn : IsColumn column qualifier name) {stored : String}
  (isStored : (Operand.column qualifier name).value database scopes =
    some (database.text stored))

include isColumn isStored

/-- A column matches a pattern when the elements of the pattern accept its
text. -/
theorem like_accepts (computes : database.HasPostgresTexts) {pattern : String}
    {elements : List Text.LikePattern.Element}
    (read : elements? pattern.toList = some elements) :
    ((like pattern).apply column).truth? .postgres database scopes =
      some (.ofBool (accepts elements stored.toList)) := by
  rw [Template.States.truth? (Predicate.like_states pattern) isColumn,
    Expression.truth, isStored, Operand.value, Database.bound,
    Database.strictly, computes.like _ _ _ read]

theorem contains_finds {dialect : Dialect}
    (computes : database.HasTextsOf dialect) (text : String) :
    ((dialect.contains text).apply column).truth? dialect database scopes =
      some (.ofBool (text.toList <:+: stored.toList)) := by
  cases dialect with
  | postgres =>
      have matched := like_accepts isColumn isStored computes
        (Text.LikePattern.elements?_wildcard_escape_wildcard text)
      rw [contains, matched]
      congr 2
      rw [Bool.eq_iff_iff, Text.LikePattern.accepts_run_chars_run,
        decide_eq_true_eq]
  | sqlite =>
      rw [Template.States.truth? (Predicate.contains_sqlite_states text)
        isColumn,
        Expression.truth_position computes.greater computes.instr isStored rfl]

theorem startsWith_finds {dialect : Dialect}
    (computes : database.HasTextsOf dialect) (text : String) :
    ((dialect.startsWith text).apply column).truth? dialect database scopes =
      some (.ofBool (text.toList <+: stored.toList)) := by
  cases dialect with
  | postgres =>
      have matched := like_accepts isColumn isStored computes
        (Text.LikePattern.elements?_escape_wildcard text)
      rw [startsWith, matched]
      congr 2
      rw [Bool.eq_iff_iff, Text.LikePattern.accepts_chars_run,
        decide_eq_true_eq]
  | sqlite =>
      have beginning :
          (Operand.call "substr" [.column qualifier name, .number 1,
            .call "length" [.bound (.text text)]]).value database scopes =
            some (database.text
              (String.ofList (stored.toList.take text.toList.length))) := by
        have read : scopes.read qualifier name = some (database.text stored) :=
          isStored
        have computed := computes.substr stored 0 text.toList.length
        simpa [Operand.value, Operand.values, read, Database.bound,
          computes.length] using computed
      rw [Template.States.truth? (Predicate.startsWith_sqlite_states text)
        isColumn,
        Expression.truth, Operand.compared, beginning, Operand.value,
        Database.bound, Database.strictly, computes.equals]
      congr 2
      rw [decide_eq_decide, List.prefix_iff_eq_take, ← String.toList_inj,
        String.toList_ofList, eq_comm]

theorem containedBy_finds {dialect : Dialect}
    (computes : database.HasTextsOf dialect) (text : String) :
    ((dialect.containedBy text).apply column).truth? dialect database scopes =
      some (.ofBool (stored.toList <:+: text.toList)) := by
  cases dialect with
  | postgres =>
      have states : (postgres.containedBy text).States _ :=
        Predicate.foundIn_states (.inl rfl) text
      rw [states.truth? isColumn,
        Expression.truth_position computes.greater computes.strpos rfl isStored]
  | sqlite =>
      have states : (sqlite.containedBy text).States _ :=
        Predicate.foundIn_states (.inr rfl) text
      rw [states.truth? isColumn,
        Expression.truth_position computes.greater computes.instr rfl isStored]

/-- Both dialects find texts exactly: those that contain a text, that start with
it, and that it contains, whatever characters there are in them. The patterns
that PostgreSQL is given can be read to their ends. -/
theorem conditions_find_texts {dialect : Dialect}
    (computes : database.HasTextsOf dialect) (text : String) :
    ((dialect.contains text).apply column).truth? dialect database scopes =
      some (.ofBool (text.toList <:+: stored.toList)) ∧
    ((dialect.startsWith text).apply column).truth? dialect database scopes =
      some (.ofBool (text.toList <+: stored.toList)) ∧
    ((dialect.containedBy text).apply column).truth? dialect database scopes =
      some (.ofBool (stored.toList <:+: text.toList)) ∧
    ∀ template ∈ [postgres.contains text, postgres.startsWith text],
      ∃ pattern, template = like pattern ∧
        (elements? pattern.toList).isSome = true := by
  refine ⟨contains_finds isColumn isStored computes text,
    startsWith_finds isColumn isStored computes text,
    containedBy_finds isColumn isStored computes text,
    fun template member => ?_⟩
  rcases List.mem_pair.mp member with rfl | rfl
  · refine ⟨_, rfl, ?_⟩
    rw [Text.LikePattern.elements?_wildcard_escape_wildcard]
    rfl
  · refine ⟨_, rfl, ?_⟩
    rw [Text.LikePattern.elements?_escape_wildcard]
    rfl

end Dialect

/-- Wildcards, backslashes and quotes are found as they are. -/
theorem Dialect.conditions_find_texts_wildcards :
    let database := Database.ofTexts fun _ => []
    let scopes : Scopes PlainValue := [("sub", fun _ => some (.text "a%_\\'"))]
    ((postgres.contains "%_\\'").apply "sub.value").truth? .postgres database
      scopes = some .yes ∧
    ((postgres.contains "__").apply "sub.value").truth? .postgres database
      scopes = some .no ∧
    ((sqlite.startsWith "a%").apply "sub.value").truth? .sqlite database
      scopes = some .yes ∧
    ((sqlite.containedBy "a%_\\").apply "sub.value").truth? .sqlite database
      scopes = some .no := by
  intro database scopes
  have isColumn : IsColumn "sub.value" "sub" "value" :=
    ⟨.of_isIdentifier (by decide), .of_isIdentifier (by decide), rfl⟩
  have isStored : (Operand.column "sub" "value").value database scopes =
      some (database.text "a%_\\'") := rfl
  have finds (dialect : Dialect) (text : String) :=
    conditions_find_texts isColumn isStored
      (Database.ofTexts_hasTextsOf _ dialect) text
  refine ⟨?_, ?_, ?_, ?_⟩
  · rw [(finds .postgres _).1]
    decide
  · rw [(finds .postgres _).1]
    decide
  · rw [(finds .sqlite _).2.1]
    decide
  · rw [(finds .sqlite _).2.2.1]
    decide

end Truth

end AttributeQuery
