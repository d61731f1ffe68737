/-
  The text of an address.

  * `V4.text`: four decimal numbers, divided by points.
  * `V6.text`: groups in hexadecimal digits, divided by colons.  The first of
    the longest runs of at least two zero groups is left out.  An address that
    embeds a shorter one after `::ffff:` ends in the text of that one.
-/
import NearestHost.Address.Basic

namespace NearestHost

/-- The bytes in decimal digits, divided by points. -/
def V4.text (a : V4) : List Char :=
  let number (b : UInt8) := Nat.toDigits 10 b.toNat
  number a.a ++ '.' :: number a.b ++ '.' :: number a.c ++ '.' :: number a.d

namespace V6

/-- How many zero groups stand in front. -/
def leadingZeros (gs : List UInt16) : Nat := (gs.takeWhile (· == 0)).length

/-- Where the first of the longest runs of zero groups starts, and its length. -/
def longestZeroRun : List UInt16 → Nat × Nat
  | [] => (0, 0)
  | g :: r =>
    let here := leadingZeros (g :: r)
    let later := longestZeroRun r
    if later.2 ≤ here then (0, here) else (later.1 + 1, later.2)

/-- Groups in hexadecimal digits, divided by colons. -/
def groupsText : List UInt16 → List Char
  | [] => []
  | [g] => Nat.toDigits 16 g.toNat
  | g :: r => Nat.toDigits 16 g.toNat ++ ':' :: groupsText r

/-- Groups with the first of the longest runs of at least two zeros left out. -/
def compressedText (gs : List UInt16) : List Char :=
  let (start, length) := longestZeroRun gs
  if 2 ≤ length then
    groupsText (gs.take start) ++ ':' :: ':' :: groupsText (gs.drop (start + length))
  else
    groupsText gs

/-- The text of an address of eight groups. -/
def text (a : V6) : List Char :=
  match a.groups with
  | [0, 0, 0, 0, 0, 0xffff, g, h] =>
    [':', ':', 'f', 'f', 'f', 'f', ':'] ++ (V4.ofGroups g h).text
  | gs => compressedText gs

end V6

/-- The characters of an address. -/
def Address.chars : Address → List Char
  | .v4 a => a.text
  | .v6 a => a.text

/-- The text of an address. -/
def Address.toString (a : Address) : String := String.ofList a.chars

end NearestHost
