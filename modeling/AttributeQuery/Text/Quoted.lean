/-!
# Quoted text

A quoted text stands between two single quotes, and every single quote inside
is written twice. Backslash is an ordinary character. `decode` reads exactly
the texts that `encode` writes: a quote that stands alone, a missing outer
quote and text after the closing quote are all refused.
-/

namespace AttributeQuery.Text.Quoted

/-- The characters with every single quote written twice. -/
def double : List Char → List Char
  | [] => []
  | '\'' :: rest => '\'' :: '\'' :: double rest
  | char :: rest => char :: double rest

/-- Read up to the closing quote, which has to be the last character. -/
def undouble : List Char → Option (List Char)
  | [] => none
  | ['\''] => some []
  | '\'' :: '\'' :: rest => (undouble rest).map ('\'' :: ·)
  | '\'' :: _ => none
  | char :: rest => (undouble rest).map (char :: ·)

def encode (text : String) : String :=
  String.ofList ('\'' :: (double text.toList ++ ['\'']))

/-- The text whose quoted form is given, if there is one. -/
def decode (quoted : String) : Option String :=
  match quoted.toList with
  | '\'' :: rest => (undouble rest).map String.ofList
  | _ => none

end AttributeQuery.Text.Quoted
