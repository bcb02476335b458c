import AttributeQuery.Text.Invisible

/-!
# Text displayed in messages

A text put between double quotes so that a reader sees where it starts, where
it ends and what it holds. Backslash, double quote and the common control
characters have short escapes; every other character without a glyph is given
by its code point in lower-case hexadecimal digits.
-/

namespace AttributeQuery.Text.Displayed

def codePoint (char : Char) : List Char :=
  ['\\', 'u', '\x7b'] ++ Nat.toDigits 16 char.toNat ++ ['\x7d']

def displayChar : Char → List Char
  | '"' => ['\\', '"']
  | '\\' => ['\\', '\\']
  | '\n' => ['\\', 'n']
  | '\r' => ['\\', 'r']
  | '\t' => ['\\', 't']
  | '\x00' => ['\\', '0']
  | char => if Invisible.isInvisible char then codePoint char else [char]

/-- A text between double quotes with its characters displayed. -/
def display (text : String) : String :=
  String.ofList ('"' :: (text.toList.flatMap displayChar ++ ['"']))

end AttributeQuery.Text.Displayed
