import AttributeQuery.Text.Ascii

/-!
# Plain identifiers

Names that stand in a statement without quoting: one ASCII letter or
underscore, then at most 62 ASCII letters, digits or underscores.
-/

namespace AttributeQuery.Text.Identifier

def isStart (char : Char) : Bool :=
  Ascii.isLetter char || char = '_'

def isContinuation (char : Char) : Bool :=
  Ascii.isLetter char || Ascii.isDigit char || char = '_'

/-- The number of characters an identifier may have. -/
def maximalLength : Nat := 63

def isIdentifierChars : List Char → Bool
  | [] => false
  | first :: rest =>
      isStart first && rest.all isContinuation && rest.length < maximalLength

/-- Whether a name is a plain identifier. -/
def isIdentifier (name : String) : Bool :=
  isIdentifierChars name.toList

end AttributeQuery.Text.Identifier
