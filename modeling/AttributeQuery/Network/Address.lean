/-!
# Addresses and networks

An address is four octets or eight groups of 16 bits. A network is an address
with the length of its leading part, which names a range of addresses; the bits
of the address outside that part are kept.
-/

namespace AttributeQuery

inductive Address where
  | v4 (octets : { octets : List UInt8 // octets.length = 4 })
  | v6 (groups : { groups : List UInt16 // groups.length = 8 })
  deriving DecidableEq, Repr

def Address.width : Address → Nat
  | .v4 _ => 32
  | .v6 _ => 128

/-- An address and how many of its leading bits name the network. -/
structure Network where
  address : Address
  prefixLength : Nat
  prefixLength_le_width : prefixLength ≤ address.width
  deriving DecidableEq, Repr

namespace Network

def ofAddress (address : Address) : Network :=
  ⟨address, address.width, Nat.le_refl _⟩

def isSingle (network : Network) : Bool :=
  network.prefixLength = network.address.width

end Network

end AttributeQuery
