/-
  Internet addresses.

  * `V4`: four bytes.
  * `V6`: eight groups of sixteen bits.
  * `Address`: an address of either family.
-/
namespace NearestHost

/-- An address of four bytes. -/
structure V4 where
  a : UInt8
  b : UInt8
  c : UInt8
  d : UInt8
  deriving Repr, DecidableEq

/-- An address of eight groups of sixteen bits. -/
structure V6 where
  groups : List UInt16
  length_eq : groups.length = 8
  deriving Repr, DecidableEq

/-- An address of one of the two families. -/
inductive Address
  | v4 (a : V4)
  | v6 (a : V6)
  deriving Repr, DecidableEq

namespace V6

/-- The address of eight groups. -/
def ofGroups? (gs : List UInt16) : Option V6 :=
  if h : gs.length = 8 then some ⟨gs, h⟩ else none

end V6

namespace V4

/-- The two groups that hold the four bytes. -/
def groups (a : V4) : List UInt16 :=
  [a.a.toUInt16 * 256 + a.b.toUInt16, a.c.toUInt16 * 256 + a.d.toUInt16]

/-- The four bytes of two groups. -/
def ofGroups (g h : UInt16) : V4 :=
  ⟨(g / 256).toUInt8, g.toUInt8, (h / 256).toUInt8, h.toUInt8⟩

end V4

/-- Whether an address is of the longer family. -/
def Address.isV6 : Address → Bool
  | .v4 _ => false
  | .v6 _ => true

end NearestHost
