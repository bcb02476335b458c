import AttributeQuery.Decimal.Style
import AttributeQuery.Json.Value
import AttributeQuery.Text.Numeral

/-!
# Writing JSON values

The compact text of a value: no blanks, members in the order of the value,
characters outside ASCII as they are.
-/

namespace AttributeQuery.Json

def writeChar : Char → List Char
  | '"' => ['\\', '"']
  | '\\' => ['\\', '\\']
  | '\x08' => ['\\', 'b']
  | '\x0c' => ['\\', 'f']
  | '\n' => ['\\', 'n']
  | '\r' => ['\\', 'r']
  | '\t' => ['\\', 't']
  | char =>
      if char < ' ' then
        '\\' :: 'u' :: '0' :: '0' :: Nat.digitChar (char.toNat / 16)
          :: [Nat.digitChar (char.toNat % 16)]
      else [char]

def writeString (text : String) : String :=
  String.ofList ('"' :: (text.toList.flatMap writeChar ++ ['"']))

/-- A number: an integer by its digits, a double by its shortest decimal. -/
def Number.write : Number → String
  | .whole value => Text.Numeral.ofInt value.val
  | .double negative magnitude =>
      Decimal.Style.exchange.write negative magnitude

mutual

/-- The compact text of a value. -/
def Value.write : Value → String
  | .null => "null"
  | .boolean true => "true"
  | .boolean false => "false"
  | .number value => value.write
  | .string text => writeString text
  | .array items => "[" ++ Value.writeItems items ++ "]"
  | .object members => "\x7b" ++ Value.writeMembers members ++ "\x7d"

def Value.writeItems : List Value → String
  | [] => ""
  | [item] => item.write
  | item :: rest => item.write ++ "," ++ Value.writeItems rest

def Value.writeMembers : List (String × Value) → String
  | [] => ""
  | [(key, value)] => writeString key ++ ":" ++ value.write
  | (key, value) :: rest =>
      writeString key ++ ":" ++ value.write ++ "," ++ Value.writeMembers rest

end

end AttributeQuery.Json
