import AttributeQuery.Decimal.Reading

/-!
# JSON tokens

The lexical level of JSON. A string token keeps its `\u` escapes as 16-bit
units, because whether they form characters is asked only of strings that are
used. A number token keeps its digits for the same reason.
-/

namespace AttributeQuery.Json

/-- One item of a string: a character, or a 16-bit unit given by an escape. -/
inductive StringItem where
  | char (char : Char)
  | unit (value : Nat)
  deriving BEq, DecidableEq, Repr

/-- A number as written: the digits before and after the point, and the
exponent. It is whole when it has neither point nor exponent. -/
structure Numeral where
  negative : Bool
  whole : List Char
  fraction : List Char := []
  exponent : Int := 0
  isWhole : Bool := false
  deriving BEq, DecidableEq, Repr

inductive Token where
  | openArray
  | closeArray
  | openObject
  | closeObject
  | comma
  | colon
  | null
  | boolean (value : Bool)
  | number (numeral : Numeral)
  | string (items : List StringItem)
  deriving BEq, DecidableEq, Repr

namespace Token

def isBlank (char : Char) : Bool :=
  char = ' ' || char = '\t' || char = '\n' || char = '\r'

def shortEscape? : Char → Option Char
  | '"' => some '"'
  | '\\' => some '\\'
  | '/' => some '/'
  | 'b' => some '\x08'
  | 'f' => some '\x0c'
  | 'n' => some '\n'
  | 'r' => some '\r'
  | 't' => some '\t'
  | _ => none

/-- Read the items of a string up to its closing quote. Control characters
have to be escaped. -/
def stringItems? : List Char → Option (List StringItem × List Char)
  | '"' :: rest => some ([], rest)
  | '\\' :: 'u' :: first :: second :: third :: fourth :: rest => do
      let value ← Text.Numeral.hexValue? [first, second, third, fourth]
      let (items, rest) ← stringItems? rest
      return (.unit value :: items, rest)
  | '\\' :: letter :: rest => do
      let char ← shortEscape? letter
      let (items, rest) ← stringItems? rest
      return (.char char :: items, rest)
  | char :: rest =>
      if char < ' ' || char = '\\' then none
      else do
        let (items, rest) ← stringItems? rest
        return (.char char :: items, rest)
  | [] => none

def isNumberChar (char : Char) : Bool :=
  Text.Ascii.isDigit char || char = '-' || char = '+' || char = '.' ||
    char = 'e' || char = 'E'

/-- Whether digits can stand before the point: at least one, and no zero in
front of others. -/
def isWholePart : List Char → Bool
  | [] => false
  | ['0'] => true
  | '0' :: _ => false
  | _ => true

def unsignedNumeral? (negative : Bool) (chars : List Char) :
    Option Numeral := do
  let whole := chars.takeWhile Text.Ascii.isDigit
  guard (isWholePart whole)
  match chars.dropWhile Text.Ascii.isDigit with
  | [] =>
      return { negative, whole, isWhole := true }
  | '.' :: rest =>
      let fraction := rest.takeWhile Text.Ascii.isDigit
      guard (!fraction.isEmpty)
      let exponent ← Decimal.exponent? (rest.dropWhile Text.Ascii.isDigit)
      return { negative, whole, fraction, exponent }
  | rest =>
      let exponent ← Decimal.exponent? rest
      return { negative, whole, exponent }

/-- Read a number. Only a minus sign may stand in front of it. -/
def numeral? : List Char → Option Numeral
  | '-' :: rest => unsignedNumeral? true rest
  | chars => unsignedNumeral? false chars

/-- Read one token that does not start with a blank. -/
def next? : List Char → Option (Token × List Char)
  | '[' :: rest => some (.openArray, rest)
  | ']' :: rest => some (.closeArray, rest)
  | '\x7b' :: rest => some (.openObject, rest)
  | '\x7d' :: rest => some (.closeObject, rest)
  | ',' :: rest => some (.comma, rest)
  | ':' :: rest => some (.colon, rest)
  | 'n' :: 'u' :: 'l' :: 'l' :: rest => some (.null, rest)
  | 't' :: 'r' :: 'u' :: 'e' :: rest => some (.boolean true, rest)
  | 'f' :: 'a' :: 'l' :: 's' :: 'e' :: rest => some (.boolean false, rest)
  | '"' :: rest =>
      (stringItems? rest).map fun (items, rest) => (.string items, rest)
  | chars => do
      let numeral ← numeral? (chars.takeWhile isNumberChar)
      return (.number numeral, chars.dropWhile isNumberChar)

def scanWithin : Nat → List Char → Option (List Token)
  | _, [] => some []
  | 0, _ :: _ => none
  | fuel + 1, char :: rest =>
      if isBlank char then scanWithin fuel rest
      else do
        let (token, rest) ← next? (char :: rest)
        let tokens ← scanWithin fuel rest
        return token :: tokens

/-- The tokens of a text. Every token takes at least one character, so the
number of characters is fuel enough. -/
def scan? (text : String) : Option (List Token) :=
  scanWithin text.length text.toList

end Token

end AttributeQuery.Json
