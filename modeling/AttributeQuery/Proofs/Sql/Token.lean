import Mathlib
import AttributeQuery.Sql.Condition
import AttributeQuery.Text.Identifier

/-!
# Tokens of SQL text

The tokens of a text: words, whole numbers with an optional sign, quoted texts
in which a doubled quote stands for one quote and backslash is an ordinary
character, placeholders, operators and punctuation. Literals carry the value
they denote.

The tokens are found by a scanner that reads one character after the other. It
keeps the token it is in the middle of, so reading a text in two parts is the
same as reading it at once.
-/

namespace AttributeQuery.Sql

/-- A token of SQL text. -/
inductive Token where
  /-- A keyword or an identifier. -/
  | word (name : String)
  | number (value : Int)
  | quoted (text : String)
  /-- A placeholder, with its index where it has one. -/
  | placeholder (index : Option Nat)
  | operator (symbol : String)
  | opening
  | closing
  | comma
  | dot
  /-- A character that is no token and begins none, or an unfinished token. -/
  | stray (char : Char)
  deriving DecidableEq, Repr

namespace Token

/-- Whether a token stands for a bound value. -/
def isPlaceholder : Token → Bool
  | .placeholder _ => true
  | _ => false

/-- The literal that denotes a value. -/
def ofValue : SqlValue → Token
  | .text value => .quoted value
  | .integer value => .number value.toInt

end Token

/-- What a scanner has read of a token that may go on. -/
inductive Scan where
  | between
  | word (chars : List Char)
  | sign (char : Char)
  | number (negative : Bool) (value : Nat)
  | dollar (index : Option Nat)
  | operator (chars : List Char)
  | quoted (chars : List Char)
  /-- A quoted text with a quote that ends it, unless another one follows. -/
  | quotedOnce (chars : List Char)
  deriving DecidableEq, Repr

namespace Scan

/-- A character a word may continue with. -/
def isWordChar (char : Char) : Bool :=
  Text.Identifier.isContinuation char || char = '$'

/-- A character of operators. -/
def isOperatorChar (char : Char) : Bool :=
  ['<', '>', '=', '~', '!', '@', '#', '%', '^', '&', '|', '*', '/',
    ':'].contains char

/-- The value of a run of digits with one more digit. -/
def withDigit (value : Nat) (char : Char) : Nat :=
  10 * value + (char.toNat - '0'.toNat)

/-- The token so far with one more character, if the character belongs to it. -/
def extend? (scan : Scan) (char : Char) : Option Scan :=
  match scan with
  | .between => none
  | .word chars =>
      if isWordChar char then some (.word (chars ++ [char])) else none
  | .sign first =>
      if Text.Ascii.isDigit char then some
        (.number (first = '-') (withDigit 0 char)) else none
  | .number negative value =>
      if Text.Ascii.isDigit char then some
        (.number negative (withDigit value char)) else none
  | .dollar index =>
      if Text.Ascii.isDigit char then some
        (.dollar (some (withDigit (index.getD 0) char)))
      else none
  | .operator chars =>
      if isOperatorChar char then some (.operator (chars ++ [char])) else none
  | .quoted chars =>
      some (if char = '\'' then .quotedOnce chars else .quoted
        (chars ++ [char]))
  | .quotedOnce chars =>
      if char = '\'' then some (.quoted (chars ++ [char])) else none

/-- The token read so far, as it is when it does not go on. -/
def finish : Scan → List Token
  | .between => []
  | .word chars => [.word (String.ofList chars)]
  | .sign char => [.operator (String.ofList [char])]
  | .number negative value =>
      [.number (if negative then -(value : Int) else value)]
  | .dollar none => [.stray '$']
  | .dollar (some index) => [.placeholder (some index)]
  | .operator chars => [.operator (String.ofList chars)]
  | .quoted _ => [.stray '\'']
  | .quotedOnce chars => [.quoted (String.ofList chars)]

/-- The tokens that a character completes when no token is unfinished before it,
and the one it begins. -/
def start (char : Char) : List Token × Scan :=
  if char = ' ' then ([], .between)
  else if Text.Identifier.isStart char then ([], .word [char])
  else if Text.Ascii.isDigit char then ([], .number false (withDigit 0 char))
  else if char = '\'' then ([], .quoted [])
  else if char = '$' then ([], .dollar none)
  else if char = '?' then ([.placeholder none], .between)
  else if char = '(' then ([.opening], .between)
  else if char = ')' then ([.closing], .between)
  else if char = ',' then ([.comma], .between)
  else if char = '.' then ([.dot], .between)
  else if char = '-' || char = '+' then ([], .sign char)
  else if isOperatorChar char then ([], .operator [char])
  else ([.stray char], .between)

/-- The tokens that a character completes, and the one it leaves unfinished. -/
def step (scan : Scan) (char : Char) : List Token × Scan :=
  match scan.extend? char with
  | some next => ([], next)
  | none => (scan.finish ++ (start char).1, (start char).2)

/-- The tokens that some characters complete, and the one they leave
unfinished. -/
def run (scan : Scan) : List Char → List Token × Scan
  | [] => ([], scan)
  | char :: rest =>
      let (first, next) := scan.step char
      let (later, last) := run next rest
      (first ++ later, last)

end Scan

/-- The tokens of a text. -/
def tokens (text : String) : List Token :=
  let (complete, last) := Scan.run .between text.toList
  complete ++ last.finish

end AttributeQuery.Sql
