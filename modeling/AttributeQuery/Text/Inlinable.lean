import AttributeQuery.Text.Displayed

/-!
# Inlinable text

A text is inlinable when it can stand between single quotes under both quoting
conventions in use: the plain one, where the first quote closes the literal,
and the backslash one, where a backslash takes the next character with it. Such
a text holds no single quote and does not end in the middle of an escape.
-/

namespace AttributeQuery.Text.Inlinable

inductive Fault where
  | containsQuote
  | unescapedBackslash
  deriving BEq, DecidableEq, Repr

/-- The number of backslashes at the end. -/
def trailingBackslashes (chars : List Char) : Nat :=
  (chars.reverse.takeWhile (· = '\\')).length

/-- The first reason why the characters are not inlinable. A quote is reported
before an unescaped backslash. -/
def fault? (chars : List Char) : Option Fault :=
  if chars.contains '\'' then some .containsQuote
  else if trailingBackslashes chars % 2 = 1 then some .unescapedBackslash
  else none

/-- Why a text was refused, naming the text. -/
def Fault.describe (text : String) : Fault → String
  | .containsQuote => Displayed.display text ++ " contains a single quote"
  | .unescapedBackslash =>
      Displayed.display text ++ " ends with an unescaped backslash"

end AttributeQuery.Text.Inlinable
