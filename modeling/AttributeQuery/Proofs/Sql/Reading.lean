import AttributeQuery.Proofs.Sql.Expression
import AttributeQuery.Proofs.Sql.Lexeme

/-!
# Reading conditions

The condition that a text states. Placeholders stand for the bound values;
parentheses group; NOT binds tighter than AND, and AND tighter than OR.

A text is read from left to right. What stands between two parentheses is read
once the second one is reached, for all that it may be: a condition, the query
of EXISTS, the query of IN, or a list of operands. Which of these it is depends
on what stands before it.
-/

namespace AttributeQuery.Sql

/-- What may stand between parentheses, as far as it can be read as that. -/
structure Group where
  condition : Option Expression
  query : Option Expression
  selection : Option Selection
  operands : Option (List Operand)

/-- A part of a text: a token other than a parenthesis, a qualified column, or
what stands between parentheses. -/
inductive Item where
  | column (qualifier name : String)
  | word (name : String)
  | number (value : Int)
  | quoted (text : String)
  | bound (value : SqlValue)
  | operator (symbol : String)
  | comma
  | group (group : Group)

namespace Item

/-- Whether an item is a given word. -/
def isWord (name : String) : Item → Bool
  | .word other => other = name
  | _ => false

/-- Whether an item is a comma. -/
def isComma : Item → Bool
  | .comma => true
  | _ => false

end Item

/-- What the parts of items with separators between them are read as. -/
def separated? {α : Type} (isSeparator : Item → Bool)
    (readPart : List Item → Option α) (items : List Item) : Option (List α) :=
  (items.splitOnP isSeparator).mapM readPart

/-! ## Operands -/

/-- The operand that items start with, casts left aside, and the items after
it. -/
def primary? : List Item → Option (Operand × List Item)
  | .column qualifier name :: rest => some (.column qualifier name, rest)
  | .bound value :: rest => some (.bound value, rest)
  | .number value :: rest => some (.number value, rest)
  | .quoted text :: rest => some (.quoted text, rest)
  | .word function :: .group group :: rest =>
      group.operands.map fun arguments => (.call function arguments, rest)
  | _ => none

/-- An operand with the casts that items start with, and the items after
them. -/
def casts : Operand → List Item → Operand × List Item
  | operand, .operator "::" :: .word type :: rest =>
      casts (.cast operand type) rest
  | operand, rest => (operand, rest)

/-- The operand that items start with, and the items after it. -/
def operand? (items : List Item) : Option (Operand × List Item) :=
  (primary? items).map fun (operand, rest) => casts operand rest

/-- The operand that items are. -/
def wholeOperand? (items : List Item) : Option Operand :=
  match operand? items with
  | some (operand, []) => some operand
  | _ => none

/-- The operands of items with commas between them. -/
def operands? (items : List Item) : Option (List Operand) :=
  separated? Item.isComma wholeOperand? items

/-! ## Conditions -/

/-- What is said about an operand by the items after it. -/
def relation? (subject : Operand) : List Item → Option Expression
  | [] => some (.isTrue subject)
  | [.word "IS", .word "NOT", .word "NULL"] => some (.isPresent subject)
  | [.word "IN", .group group] =>
      match group.operands, group.selection with
      | some members, _ => some (.inList subject members)
      | none, some selection => some (.inRows subject selection)
      | none, none => none
  | .word "LIKE" :: rest =>
      match operand? rest with
      | some (pattern, [.word "ESCAPE", .quoted escape]) =>
          some (.like subject pattern escape)
      | _ => none
  | .operator symbol :: rest =>
      (wholeOperand? rest).map (.compare symbol subject)
  | _ => none

/-- The condition of items without NOT, AND and OR between them. -/
def predicate? : List Item → Option Expression
  | [.word "true"] => some (.constant true)
  | [.word "false"] => some (.constant false)
  | [.group group] => group.condition
  | [.word "EXISTS", .group group] => group.query
  | items =>
      match operand? items with
      | some (subject, rest) => relation? subject rest
      | none => none

/-- The condition of items without AND and OR between them. -/
def negation? : List Item → Option Expression
  | .word "NOT" :: rest => (negation? rest).map .not
  | items => predicate? items

/-- The conditions of items with AND between them. -/
def conjuncts? (items : List Item) : Option (List Expression) :=
  separated? (Item.isWord "AND") negation? items

/-- The condition of items. -/
def condition? (items : List Item) : Option Expression :=
  (separated? (Item.isWord "OR") conjuncts? items).map fun alternatives =>
    .anyOf (alternatives.map .allOf)

/-- The query of EXISTS: whether a table has a row that meets a condition. -/
def query? : List Item → Option Expression
  | .word "SELECT" :: .number 1 :: .word "FROM" :: .word table :: .word "AS" ::
      .word rowName :: .word "WHERE" :: rest =>
        (condition? rest).map (.hasRow table rowName)
  | _ => none

/-- The query of IN: the values of a column in some rows of a table. -/
def selection? : List Item → Option Selection
  | .word "SELECT" :: .word column :: .word "FROM" :: .word table ::
      .word "WHERE" :: .word tested :: .operator symbol :: rest =>
      (wholeOperand? rest).map fun operand =>
        { column, table, tested, symbol, operand }
  | _ => none

/-- What items between parentheses are read as. -/
def Group.of (items : List Item) : Group where
  condition := condition? items
  query := query? items
  selection := selection? items
  operands := operands? items

/-! ## Parentheses and columns -/

/-- The items read so far, last first: those before each parenthesis that is
open, and those after it. A qualifier is kept until the column it stands
before. -/
structure Assembly where
  outer : List (List Item)
  items : List Item
  qualifier : Option String

namespace Assembly

/-- The items read so far with one more. -/
def push (assembly : Assembly) (item : Item) : Option Assembly :=
  match assembly with
  | ⟨outer, items, none⟩ => some ⟨outer, item :: items, none⟩
  | ⟨_, _, some _⟩ => none

/-- The items read so far with a token. -/
def readToken (assembly : Assembly) : Token → Option Assembly
  | .word name =>
      match assembly with
      | ⟨outer, items, some qualifier⟩ =>
          some ⟨outer, .column qualifier name :: items, none⟩
      | ⟨outer, items, none⟩ => some ⟨outer, .word name :: items, none⟩
  | .dot =>
      match assembly with
      | ⟨outer, .word qualifier :: items, none⟩ =>
          some ⟨outer, items, some qualifier⟩
      | _ => none
  | .opening =>
      match assembly with
      | ⟨outer, items, none⟩ => some ⟨items :: outer, [], none⟩
      | _ => none
  | .closing =>
      match assembly with
      | ⟨before :: outer, items, none⟩ =>
          some ⟨outer, .group (.of items.reverse) :: before, none⟩
      | _ => none
  | .number value => assembly.push (.number value)
  | .quoted text => assembly.push (.quoted text)
  | .operator symbol => assembly.push (.operator symbol)
  | .comma => assembly.push .comma
  | .placeholder _ => none
  | .stray _ => none

/-- The items read so far with a lexeme. -/
def read (assembly : Assembly) : Lexeme → Option Assembly
  | .token token => assembly.readToken token
  | .value value => assembly.push (.bound value)

/-- The items read so far with some lexemes. -/
def readAll (assembly : Assembly) : List Lexeme → Option Assembly
  | [] => some assembly
  | lexeme :: rest => (assembly.read lexeme).bind fun next => next.readAll rest

/-- The items of a text that is read to its end. -/
def complete? : Assembly → Option (List Item)
  | ⟨[], items, none⟩ => some items.reverse
  | _ => none

theorem readAll_append (assembly : Assembly) (first second : List Lexeme) :
    assembly.readAll (first ++ second) =
      (assembly.readAll first).bind fun next => next.readAll second := by
  induction first generalizing assembly with
  | nil => rfl
  | cons lexeme rest ih =>
      cases stepped : assembly.read lexeme with
      | none => simp [readAll, stepped]
      | some next => simp [readAll, stepped, ih]

end Assembly

/-- The lexemes of tokens, with bound values in the places of placeholders.
Placeholders without an index are counted, `count` of them standing before. -/
def bindTokens (values : List SqlValue) :
    Nat → List Token → Option (List Lexeme)
  | _, [] => some []
  | count, .placeholder index :: rest =>
      match index.getD (count + 1) with
      | 0 => none
      | position + 1 => do
          let value ← values[position]?
          let lexemes ← bindTokens values (count + 1) rest
          return .value value :: lexemes
  | count, token :: rest => do
      let lexemes ← bindTokens values count rest
      return .token token :: lexemes

theorem bindTokens_plain {token : Token} (plain : token.isPlaceholder = false)
    (values : List SqlValue) (count : Nat) (rest : List Token) :
    bindTokens values count (token :: rest) =
      (bindTokens values count rest).map (.token token :: ·) := by
  cases token with
  | placeholder index => simp [Token.isPlaceholder] at plain
  | word | number | quoted | operator | opening | closing | comma | dot
  | stray =>
      simp only [bindTokens]
      cases bindTokens values count rest <;> rfl

theorem bindTokens_ofParameter {values : List SqlValue} {count : Nat}
    {value : SqlValue} (found : values[count]? = some value) (dialect : Dialect)
    (rest : List Token) :
    bindTokens values count (Token.ofParameter dialect (count + 1) :: rest) =
      (bindTokens values (count + 1) rest).map (.value value :: ·) := by
  cases dialect <;>
    · simp only [Token.ofParameter, bindTokens, Option.getD_some,
        Option.getD_none, found]
      cases bindTokens values (count + 1) rest <;> rfl

/-- Binding the placeholders of a dialect gives back the lexemes they were
written for. -/
theorem bindTokens_fill (dialect : Dialect) {lexemes : List Lexeme}
    (plain : ∀ token, .token token ∈ lexemes → token.isPlaceholder = false)
    {values : List SqlValue} {count : Nat}
    (remaining : values.drop count = lexemes.filterMap Lexeme.value?) :
    bindTokens values count ((Writer.placeholders dialect).fill count lexemes) =
      some lexemes := by
  induction lexemes generalizing count with
  | nil => rfl
  | cons lexeme rest ih =>
      have plainRest : ∀ token, .token token ∈ rest →
          token.isPlaceholder = false :=
        fun token member => plain token (List.mem_cons_of_mem _ member)
      cases lexeme with
      | token token =>
          rw [Writer.fill, bindTokens_plain (plain token List.mem_cons_self),
            ih plainRest (by simpa [List.filterMap_cons] using remaining)]
          rfl
      | value value =>
          have dropped : values.drop count =
              value :: rest.filterMap Lexeme.value? := by
            simpa using remaining
          have found : values[count]? = some value := by
            rw [← List.head?_drop, dropped, List.head?_cons]
          have later : values.drop (count + 1) =
              rest.filterMap Lexeme.value? := by
            rw [← List.tail_drop, dropped, List.tail_cons]
          rw [Writer.fill,
            show (Writer.placeholders dialect).token (count + 1) value =
            Token.ofParameter dialect (count + 1) from rfl,
              bindTokens_ofParameter found,
            ih plainRest later]
          rfl

end AttributeQuery.Sql

namespace AttributeQuery.Condition

open Sql

/-- What a condition states, read from its text in a dialect and its bound
values. -/
def expression? (condition : Condition) (dialect : Dialect) :
    Option Expression := do
  let lexemes ← bindTokens condition.params 0
    (tokens (condition.render dialect))
  let assembly ← Assembly.readAll ⟨[], [], none⟩ lexemes
  condition? (← assembly.complete?)

/-- The truth of a condition in a dialect, on the rows it can name. -/
def truth? {Value : Type} (condition : Condition) (dialect : Dialect)
    (database : Database Value) (scopes : Scopes Value) : Option Truth :=
  (condition.expression? dialect).map fun stated => stated.truth database scopes

/-- The lexemes of a condition are found in its text. -/
theorem Spells.bound {condition : Condition} {lexemes : List Lexeme}
    {ending : Ending} (spells : condition.Spells lexemes ending)
    (dialect : Dialect) :
    bindTokens condition.params 0 (tokens (condition.render dialect)) =
      some lexemes := by
  rw [spells.tokens_render]
  exact bindTokens_fill dialect spells.plain (by simp [spells.values])

end AttributeQuery.Condition
