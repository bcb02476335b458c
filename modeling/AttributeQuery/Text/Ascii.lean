/-!
# ASCII characters

Character classes and case folding restricted to ASCII. Every other character
belongs to no class and is its own lower case.
-/

namespace AttributeQuery.Text.Ascii

def isLetter (char : Char) : Bool :=
  ('a' ≤ char && char ≤ 'z') || ('A' ≤ char && char ≤ 'Z')

def isDigit (char : Char) : Bool :=
  '0' ≤ char && char ≤ '9'

def digitValue? (char : Char) : Option Nat :=
  if isDigit char then some (char.toNat - '0'.toNat) else none

/-- The value of a hexadecimal digit, in either case. -/
def hexDigitValue? (char : Char) : Option Nat :=
  if isDigit char then some (char.toNat - '0'.toNat)
  else if 'a' ≤ char && char ≤ 'f' then some (char.toNat - 'a'.toNat + 10)
  else if 'A' ≤ char && char ≤ 'F' then some (char.toNat - 'A'.toNat + 10)
  else none

/-- Lower case of an ASCII letter, any other character unchanged. -/
def lowerChar (char : Char) : Char :=
  if 'A' ≤ char && char ≤ 'Z' then Char.ofNat (char.toNat + 32) else char

def lower (text : String) : String :=
  String.ofList (text.toList.map lowerChar)

end AttributeQuery.Text.Ascii
