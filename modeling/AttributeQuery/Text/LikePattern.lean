/-!
# LIKE patterns

A pattern in which backslash takes away the special meaning of the next
character. `escape` writes a text as a pattern that matches the text alone;
`unescape` reads a pattern back.
-/

namespace AttributeQuery.Text.LikePattern

def isSpecial (char : Char) : Bool :=
  char = '\\' || char = '%' || char = '_'

/-- Put a backslash before every special character. -/
def escapeChars : List Char → List Char
  | [] => []
  | char :: rest =>
      if isSpecial char then '\\' :: char :: escapeChars rest
      else char :: escapeChars rest

/-- Drop the backslash of every escape. A backslash at the very end escapes
nothing and is kept. -/
def unescapeChars : List Char → List Char
  | '\\' :: char :: rest => char :: unescapeChars rest
  | char :: rest => char :: unescapeChars rest
  | [] => []

/-- The pattern that matches exactly the given text. -/
def escape (text : String) : String :=
  String.ofList (escapeChars text.toList)

/-- The text a pattern stands for when none of its characters is a wildcard. -/
def unescape (pattern : String) : String :=
  String.ofList (unescapeChars pattern.toList)

end AttributeQuery.Text.LikePattern
