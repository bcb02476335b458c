import AttributeQuery.Network.Address
import AttributeQuery.Text.Numeral

/-!
# Reading addresses and networks

Networks and bare addresses are written in slightly different notations. In a
network, octets may have leading zeros and the gap of a shortened address may
stand for no group at all; in a bare address neither is allowed.
-/

namespace AttributeQuery

/-- What a notation of addresses allows. -/
structure AddressRules where
  allowsLeadingZeros : Bool
  allowsEmptyGap : Bool
  deriving BEq, DecidableEq, Repr

def AddressRules.network : AddressRules := ⟨true, true⟩

def AddressRules.bare : AddressRules := ⟨false, false⟩

namespace Address

/-- The pieces of a text between separators. -/
def pieces (separator : Char) : List Char → List (List Char)
  | [] => [[]]
  | char :: rest =>
      if char = separator then [] :: pieces separator rest
      else match pieces separator rest with
        | first :: others => (char :: first) :: others
        | [] => [[char]]

/-- An octet in one to three decimal digits. -/
def octet? (rules : AddressRules) (digits : List Char) : Option UInt8 := do
  let value ← Text.Numeral.decimalValue? digits
  if digits.length ≤ 3 ∧ value < 256
      ∧ (rules.allowsLeadingZeros ∨ digits.length = 1
        ∨ digits.head? ≠ some '0') then
    return UInt8.ofNat value
  else none

def octets? (rules : AddressRules) (chars : List Char) :
    Option { octets : List UInt8 // octets.length = 4 } := do
  let octets ← (pieces '.' chars).mapM (octet? rules)
  if isComplete : octets.length = 4 then return ⟨octets, isComplete⟩ else none

/-- A group in one to four hexadecimal digits. -/
def group? (digits : List Char) : Option UInt16 := do
  let value ← Text.Numeral.hexValue? digits
  if digits.length ≤ 4 then return UInt16.ofNat value else none

def groupOfOctets (high low : UInt8) : UInt16 :=
  UInt16.ofNat (high.toNat * 256 + low.toNat)

def groupsOfOctets : List UInt8 → List UInt16
  | [first, second, third, fourth] =>
      [groupOfOctets first second, groupOfOctets third fourth]
  | _ => []

/-- Groups with colons between them; none at all in an empty text. -/
def groups? (chars : List Char) : Option (List UInt16) :=
  if chars.isEmpty then some [] else (pieces ':' chars).mapM group?

/-- Groups of which the last two may be in dotted notation. -/
def groupsAtEnd? (rules : AddressRules) (chars : List Char) :
    Option (List UInt16) := do
  if chars.isEmpty then return []
  let parts := pieces ':' chars
  let last ← parts.getLast?
  if last.contains '.' then
    let leading ← parts.dropLast.mapM group?
    let octets ← octets? rules last
    return leading ++ groupsOfOctets octets.val
  else parts.mapM group?

def splitGap? : List Char → Option (List Char × List Char)
  | [] => none
  | ':' :: ':' :: rest => some ([], rest)
  | char :: rest =>
      (splitGap? rest).map fun (before, after) => (char :: before, after)

/-- All groups of a shortened address: zeros fill the gap. -/
def fillGap? (rules : AddressRules) (before after : List UInt16) :
    Option (List UInt16) :=
  let given := before.length + after.length
  let mostGiven := if rules.allowsEmptyGap then 8 else 7
  if before.length < 8 ∧ given ≤ mostGiven then
    some (before ++ List.replicate (8 - given) 0 ++ after)
  else none

def allGroups? (rules : AddressRules) (chars : List Char) :
    Option { groups : List UInt16 // groups.length = 8 } := do
  let groups ← match splitGap? chars with
    | none => groupsAtEnd? rules chars
    | some (before, after) => do
        fillGap? rules (← groups? before) (← groupsAtEnd? rules after)
  if isComplete : groups.length = 8 then return ⟨groups, isComplete⟩ else none

def read? (rules : AddressRules) (chars : List Char) : Option Address :=
  ((octets? rules chars).map v4).or ((allGroups? rules chars).map v6)

def prefixDigits : Address → Nat
  | .v4 _ => 2
  | .v6 _ => 3

end Address

namespace Network

def withPrefix? (address : Address) (digits : List Char) : Option Network := do
  let length ← Text.Numeral.decimalValue? digits
  if digits.length ≤ address.prefixDigits then
    if fits : length ≤ address.width then return ⟨address, length, fits⟩
    else none
  else none

def splitSlash? : List Char → Option (List Char × List Char)
  | [] => none
  | '/' :: rest => some ([], rest)
  | char :: rest =>
      (splitSlash? rest).map fun (before, after) => (char :: before, after)

/-- Read a network written as an address, a slash and a prefix length. -/
def ofText? (text : String) : Option Network := do
  let (address, digits) ← splitSlash? text.toList
  withPrefix? (← Address.read? .network address) digits

/-- Read a network, or a bare address as the network of that address alone. -/
def read? (text : String) : Option Network :=
  (ofText? text).or ((Address.read? .bare text.toList).map ofAddress)

end Network

end AttributeQuery
