import AttributeQuery.Decimal.Stepwise
import AttributeQuery.Json.Outline
import AttributeQuery.Json.Value
import AttributeQuery.Sorted

/-!
# Reading JSON values

From the outline of a text to the value it denotes: escapes have to form
characters, numbers have to fit a finite double, and containers may be nested
127 deep. A repeated key keeps its last value. An object that starts with the
embedding key stands for the value of a text it holds.
-/

namespace AttributeQuery.Json

/-- The greatest number of containers inside each other. -/
def maximalDepth : Nat := 127

/-- Whether a 16-bit unit is the first half of a surrogate pair. -/
def isLeadingUnit (unit : Nat) : Bool :=
  0xd800 ≤ unit && unit < 0xdc00

/-- Whether a 16-bit unit is the second half of a surrogate pair. -/
def isTrailingUnit (unit : Nat) : Bool :=
  0xdc00 ≤ unit && unit < 0xe000

/-- The characters of a string. A surrogate has to be half of a pair. -/
def decodeItems? : List StringItem → Option (List Char)
  | [] => some []
  | .char char :: rest => (decodeItems? rest).map (char :: ·)
  | .unit leading :: .unit trailing :: rest =>
      if isLeadingUnit leading then
        if isTrailingUnit trailing then
          (decodeItems? rest).map
            (Char.ofNat
              (0x10000 + (leading - 0xd800) * 0x400 + (trailing - 0xdc00)) :: ·)
        else none
      else if isTrailingUnit leading then none
      else (decodeItems? (.unit trailing :: rest)).map (Char.ofNat leading :: ·)
  | .unit unit :: rest =>
      if isLeadingUnit unit || isTrailingUnit unit then none
      else (decodeItems? rest).map (Char.ofNat unit :: ·)

def decodeString? (items : List StringItem) : Option String :=
  (decodeItems? items).map String.ofList

/-- The integer a whole number denotes. Minus zero is none of the integers. -/
def Numeral.integer? (numeral : Numeral) : Option Int :=
  if !numeral.isWhole then none
  else match Text.Numeral.decimalValue? numeral.whole with
    | none => none
    | some value =>
        if !numeral.negative then some value
        else if value = 0 then none
        else some (-(value : Int))

/-- The double a numeral is computed to, stepwise from its leading digits. -/
def Numeral.double (numeral : Numeral) : Decimal.Double :=
  (Decimal.Scaled.ofLeadingDigits numeral.negative numeral.whole
    numeral.fraction numeral.exponent).stepwiseDouble

def Number.ofDouble? : Decimal.Double → Option Number
  | .finite negative magnitude => some (.double negative magnitude)
  | _ => none

/-- The number a numeral denotes: an integer where the numeral is one that
fits, otherwise a double, which has to be finite. -/
def Numeral.number? (numeral : Numeral) : Option Number :=
  match numeral.integer? with
  | some value =>
      if fits : -0x8000000000000000 ≤ value ∧ value < 0x10000000000000000 then
        some (.whole ⟨value, fits⟩)
      else Number.ofDouble? numeral.double
  | none => Number.ofDouble? numeral.double

def embeddingKey : String := "$serde_json::private::RawValue"

/-- Whether the members of an object, as written, start with the embedding
key. -/
def embeds : List (List StringItem × Outline) → Bool
  | (key, _) :: _ => decodeString? key = some embeddingKey
  | [] => false

/-- The text that an object embeds, which has to be the string of its only
member. -/
def embeddedText? : List (List StringItem × Outline) → Option String
  | [(_, .string items)] => decodeString? items
  | _ => none

mutual

/-- The value an outline denotes, with `depth` more containers allowed. The
value of an embedded text is given by `embedded?`. -/
def Value.ofOutline? (embedded? : String → Option Value) (depth : Nat) :
    Outline → Option Value
  | .null => some .null
  | .boolean value => some (.boolean value)
  | .number numeral => numeral.number?.map .number
  | .string items => (decodeString? items).map .string
  | .array items =>
      match depth with
      | 0 => none
      | depth + 1 => (itemsOfOutline? embedded? depth items).map .array
  | .object members =>
      match depth with
      | 0 => none
      | depth + 1 =>
          if embeds members then (embeddedText? members).bind embedded?
          else
            (membersOfOutline? embedded? depth members).map fun members =>
              .object (Sorted.ofEntries members)

def Value.itemsOfOutline? (embedded? : String → Option Value) (depth : Nat) :
    List Outline → Option (List Value)
  | [] => some []
  | item :: rest => do
      let value ← Value.ofOutline? embedded? depth item
      let values ← Value.itemsOfOutline? embedded? depth rest
      return value :: values

def Value.membersOfOutline? (embedded? : String → Option Value) (depth : Nat) :
    List (List StringItem × Outline) → Option (List (String × Value))
  | [] => some []
  | (key, member) :: rest => do
      let key ← decodeString? key
      let value ← Value.ofOutline? embedded? depth member
      let members ← Value.membersOfOutline? embedded? depth rest
      return (key, value) :: members

end

/-- Read the value of a text, with at most `fuel` texts inside each other. Each
embedded text may again use the full depth of containers. -/
def Value.ofTextWithin : Nat → String → Option Value
  | 0, _ => none
  | fuel + 1, text => do
      Value.ofOutline? (Value.ofTextWithin fuel) maximalDepth
        (← Outline.ofText? text)

/-- Read the value of a text. An embedded text is shorter than the text it is
in, so the number of characters is fuel enough. -/
def Value.ofText? (text : String) : Option Value :=
  Value.ofTextWithin (text.length + 1) text

end AttributeQuery.Json
