/-
  The bytes of a quoted text, one at a time.

  * `Escape.step?`: what a byte brings: a byte of the text, a code unit of four
    hexadecimal digits, the closing quote, or nothing yet.
  * `Gathered`: the bytes of a text, gathered from such pieces.  A code unit
    that is the first half of a pair waits for the second one.
  * `Gathered.text?`: the text, provided that it is UTF-8.
-/
namespace NearestHost.Json

/-- The byte of an ASCII character. -/
def byteOf (c : Char) : UInt8 := c.val.toUInt8

/-- What has been read of an escape. -/
inductive Escape
  | none
  | /-- the backslash -/ mark
  | /-- some of the four digits of a code unit, and their value if they are digits -/
    digits (left : Nat) (value : Option Nat)
  deriving Repr, DecidableEq

/-- What a byte between quotes brings. -/
inductive Piece
  | nothing
  | byte (b : UInt8)
  | unit (u : Nat)
  | close
  deriving Repr, DecidableEq

/-- The byte that a letter after a backslash stands for. -/
def simpleEscape? (b : UInt8) : Option UInt8 :=
  if b = byteOf '"' ∨ b = byteOf '\\' ∨ b = byteOf '/' then some b
  else if b = byteOf 'b' then some 0x08
  else if b = byteOf 'f' then some 0x0C
  else if b = byteOf 'n' then some 0x0A
  else if b = byteOf 'r' then some 0x0D
  else if b = byteOf 't' then some 0x09
  else none

/-- The value of a hexadecimal digit, in both letter cases. -/
def hexDigit? (b : UInt8) : Option Nat :=
  if byteOf '0' ≤ b ∧ b ≤ byteOf '9' then some (b - byteOf '0').toNat
  else if byteOf 'a' ≤ b ∧ b ≤ byteOf 'f' then some ((b - byteOf 'a').toNat + 10)
  else if byteOf 'A' ≤ b ∧ b ≤ byteOf 'F' then some ((b - byteOf 'A').toNat + 10)
  else none

/-- Takes one byte; control characters and unknown escapes are refused.  All four bytes of a code
    unit are taken before any of them is refused. -/
def Escape.step? (e : Escape) (b : UInt8) : Option (Escape × Piece) :=
  match e with
  | .none =>
    if b = byteOf '"' then some (.none, .close)
    else if b = byteOf '\\' then some (.mark, .nothing)
    else if b < 0x20 then Option.none
    else some (.none, .byte b)
  | .mark =>
    if b = byteOf 'u' then some (.digits 4 (some 0), .nothing)
    else (simpleEscape? b).map fun c => (.none, .byte c)
  | .digits left value =>
    let value := value.bind fun v => (hexDigit? b).map fun d => v * 16 + d
    if left ≤ 1 then value.map fun v => (.none, .unit v)
    else some (.digits (left - 1) value, .nothing)

/-! ## Gathering -/

/-- The bytes of a text so far, the last one first, and a first half of a pair of code units. -/
structure Gathered where
  bytes : List UInt8
  half : Option Nat
  deriving Repr, DecidableEq

namespace Gathered

/-- Nothing yet. -/
def empty : Gathered := ⟨[], none⟩

/-- Whether a code unit is the first half of a pair. -/
def isFirstHalf (u : Nat) : Bool := 0xD800 ≤ u && u < 0xDC00

/-- Whether a code unit is the second half of a pair. -/
def isSecondHalf (u : Nat) : Bool := 0xDC00 ≤ u && u < 0xE000

/-- The text with one more character. -/
def push (g : Gathered) (n : Nat) : Gathered :=
  ⟨(String.utf8EncodeChar (Char.ofNat n)).reverse ++ g.bytes, none⟩

/-- The text with one more code unit; a second half only stands after a first one. -/
def unit? (g : Gathered) (u : Nat) : Option Gathered :=
  match g.half with
  | some h =>
    if isSecondHalf u then some (g.push (0x10000 + (h - 0xD800) * 0x400 + (u - 0xDC00))) else none
  | none =>
    if isSecondHalf u then none
    else if isFirstHalf u then some { g with half := some u }
    else some (g.push u)

/-- The text with one more piece; after a first half only a second one may follow. -/
def add? (g : Gathered) : Piece → Option Gathered
  | .nothing | .close => some g
  | .byte b => if g.half.isSome then none else some { g with bytes := b :: g.bytes }
  | .unit u => g.unit? u

/-- The whole text, if its bytes are UTF-8 and no half of a pair is left alone. -/
def text? (g : Gathered) : Option String :=
  if g.half.isSome then none else String.fromUTF8? ⟨g.bytes.reverse.toArray⟩

end Gathered

end NearestHost.Json
