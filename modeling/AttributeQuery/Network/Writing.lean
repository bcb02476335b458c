import AttributeQuery.Network.Address
import AttributeQuery.Text.Numeral

/-!
# Writing addresses and networks

Octets are decimal numbers with dots between them. Groups are lower-case
hexadecimal numbers with colons between them; the longest run of at least two
zero groups, the first one if several are equally long, is left out as a gap.
Addresses that embed four octets behind a group of ones keep these dotted.
-/

namespace AttributeQuery.Address

def joinChars (separator : List Char) : List (List Char) → List Char
  | [] => []
  | [text] => text
  | text :: rest => text ++ separator ++ joinChars separator rest

def writeOctets (octets : List UInt8) : List Char :=
  joinChars ['.'] (octets.map fun octet => Nat.toDigits 10 octet.toNat)

def writeGroups (groups : List UInt16) : List Char :=
  joinChars [':'] (groups.map fun group => Nat.toDigits 16 group.toNat)

def zeroRunAt (groups : List UInt16) (start : Nat) : Nat :=
  ((groups.drop start).takeWhile (· = 0)).length

/-- The position and length of the first longest run of zero groups. -/
def longestZeroRun (groups : List UInt16) : Nat × Nat :=
  (List.range groups.length).foldl
    (fun longest start =>
      let length := zeroRunAt groups start
      if longest.2 < length then (start, length) else longest)
    (0, 0)

/-- Groups with the longest run of zero groups left out. -/
def writeShortened (groups : List UInt16) : List Char :=
  let (start, length) := longestZeroRun groups
  if 2 ≤ length then
    writeGroups (groups.take start)
      ++ ':' :: ':' :: writeGroups (groups.drop (start + length))
  else writeGroups groups

def octetsOfGroup (group : UInt16) : List UInt8 :=
  [UInt8.ofNat (group.toNat / 256), UInt8.ofNat (group.toNat % 256)]

/-- The octets that an address embeds behind a group of ones. -/
def embeddedOctets? : List UInt16 → Option (List UInt8)
  | [0, 0, 0, 0, 0, 0xffff, high, low] =>
      some (octetsOfGroup high ++ octetsOfGroup low)
  | _ => none

def writeChars : Address → List Char
  | .v4 octets => writeOctets octets.val
  | .v6 groups =>
      match embeddedOctets? groups.val with
      | some octets => [':', ':', 'f', 'f', 'f', 'f', ':'] ++ writeOctets octets
      | none => writeShortened groups.val

def toText (address : Address) : String :=
  String.ofList address.writeChars

end AttributeQuery.Address

namespace AttributeQuery.Network

/-- The text of a network: address, slash and prefix length. -/
def toText (network : Network) : String :=
  network.address.toText ++ "/" ++ Text.Numeral.ofNat network.prefixLength

/-- The shortest text of a network: that of the bare address for a single
address. -/
def canonicalText (network : Network) : String :=
  if network.isSingle then network.address.toText else network.toText

end AttributeQuery.Network
