import AttributeQuery.Text.Numeral

/-!
# TOML text

What separates the parts of a TOML document, and the four kinds of strings.
Readers take the characters that follow and return what they read together with
the characters after it.
-/

namespace AttributeQuery.Toml

abbrev Reader (α : Type) := List Char → Option (α × List Char)

def isBlank (char : Char) : Bool :=
  char = ' ' || char = '\t'

/-- Whether a character is a control character other than the tab. -/
def isForbidden (char : Char) : Bool :=
  (char < ' ' && char ≠ '\t') || char = '\x7f'

def skipBlanks (chars : List Char) : List Char :=
  chars.dropWhile isBlank

def lineBreak? : List Char → Option (List Char)
  | '\n' :: rest => some rest
  | '\r' :: '\n' :: rest => some rest
  | _ => none

/-- The characters after a line break, or nothing at the end of the text. -/
def lineEnd? : List Char → Option (List Char)
  | [] => some []
  | chars => lineBreak? chars

/-- The characters after a comment, which ends before the line does. -/
def skipComment : List Char → List Char
  | '#' :: rest => rest.dropWhile (!isForbidden ·)
  | chars => chars

/-- The next line, when the rest of this one is empty but for a comment. -/
def nextLine? (chars : List Char) : Option (List Char) :=
  lineEnd? (skipComment (skipBlanks chars))

/-- The characters after blanks, line breaks and comments. Every comment has to
be followed by a line break. -/
def skipGap? (inComment : Bool) : List Char → Option (List Char)
  | [] => if inComment then none else some []
  | '\n' :: rest => skipGap? false rest
  | '\r' :: '\n' :: rest => skipGap? false rest
  | char :: rest =>
      if inComment then
        if isForbidden char then none else skipGap? true rest
      else if isBlank char then skipGap? false rest
      else if char = '#' then skipGap? true rest
      else some (char :: rest)

def shortEscape? : Char → Option Char
  | 'b' => some '\x08'
  | 't' => some '\t'
  | 'n' => some '\n'
  | 'f' => some '\x0c'
  | 'r' => some '\r'
  | '"' => some '"'
  | '\\' => some '\\'
  | _ => none

/-- The character with the code point given in hexadecimal digits. Surrogates
and numbers past the last code point are no characters. -/
def codePoint? (digits : List Char) : Option Char := do
  let value ← Text.Numeral.hexValue? digits
  if value.isValidChar then some (Char.ofNat value) else none

def putInFront (char : Char) (read : Option (List Char × List Char)) :
    Option (List Char × List Char) :=
  read.map fun (chars, rest) => (char :: chars, rest)

def basicString? : Reader (List Char)
  | [] => none
  | '"' :: rest => some ([], rest)
  | '\\' :: 'u' :: a :: b :: c :: d :: rest => do
      putInFront (← codePoint? [a, b, c, d]) (basicString? rest)
  | '\\' :: 'U' :: a :: b :: c :: d :: e :: f :: g :: h :: rest => do
      putInFront (← codePoint? [a, b, c, d, e, f, g, h]) (basicString? rest)
  | '\\' :: letter :: rest => do
      putInFront (← shortEscape? letter) (basicString? rest)
  | char :: rest =>
      if isForbidden char || char = '\\' then none
      else putInFront char (basicString? rest)

def literalString? : Reader (List Char)
  | [] => none
  | '\'' :: rest => some ([], rest)
  | char :: rest =>
      if isForbidden char then none else putInFront char (literalString? rest)

/-- Whether a backslash is followed by nothing but blanks on its line. -/
def continuesLine (chars : List Char) : Bool :=
  (lineBreak? (skipBlanks chars)).isSome

/-- Read a string in three double quotes up to its closing quotes. Up to two
quotes may stand directly before these. While `trimming`, blanks and line
breaks are left out, as they are after a backslash at the end of a line. -/
def multilineBasicString? (trimming : Bool) : Reader (List Char)
  | [] => none
  | '"' :: '"' :: '"' :: '"' :: '"' :: rest => some (['"', '"'], rest)
  | '"' :: '"' :: '"' :: '"' :: rest => some (['"'], rest)
  | '"' :: '"' :: '"' :: rest => some ([], rest)
  | '\n' :: rest =>
      if trimming then multilineBasicString? true rest
      else putInFront '\n' (multilineBasicString? false rest)
  | '\r' :: '\n' :: rest =>
      if trimming then multilineBasicString? true rest
      else putInFront '\n' (multilineBasicString? false rest)
  | '\\' :: 'u' :: a :: b :: c :: d :: rest => do
      putInFront (← codePoint? [a, b, c, d]) (multilineBasicString? false rest)
  | '\\' :: 'U' :: a :: b :: c :: d :: e :: f :: g :: h :: rest => do
      putInFront (← codePoint? [a, b, c, d, e, f, g, h])
        (multilineBasicString? false rest)
  | '\\' :: letter :: rest =>
      if continuesLine (letter :: rest) then
        multilineBasicString? true (letter :: rest)
      else do
        putInFront (← shortEscape? letter) (multilineBasicString? false rest)
  | char :: rest =>
      if trimming && isBlank char then multilineBasicString? true rest
      else if isForbidden char || char = '\\' then none
      else putInFront char (multilineBasicString? false rest)

/-- Read a string in three single quotes up to its closing quotes. Up to two
quotes may stand directly before these. -/
def multilineLiteralString? : Reader (List Char)
  | [] => none
  | '\'' :: '\'' :: '\'' :: '\'' :: '\'' :: rest => some (['\'', '\''], rest)
  | '\'' :: '\'' :: '\'' :: '\'' :: rest => some (['\''], rest)
  | '\'' :: '\'' :: '\'' :: rest => some ([], rest)
  | '\n' :: rest => putInFront '\n' (multilineLiteralString? rest)
  | '\r' :: '\n' :: rest => putInFront '\n' (multilineLiteralString? rest)
  | char :: rest =>
      if isForbidden char then none
      else putInFront char (multilineLiteralString? rest)

/-- The characters after a line break that directly follows opening quotes. -/
def skipLineBreak (chars : List Char) : List Char :=
  (lineBreak? chars).getD chars

def lineString? : Reader (List Char)
  | '"' :: rest => basicString? rest
  | '\'' :: rest => literalString? rest
  | _ => none

def string? : Reader (List Char)
  | '"' :: '"' :: '"' :: rest =>
      multilineBasicString? false (skipLineBreak rest)
  | '\'' :: '\'' :: '\'' :: rest => multilineLiteralString? (skipLineBreak rest)
  | chars => lineString? chars

end AttributeQuery.Toml
