/-
  Addresses read from texts.

  The readers take the longest number that stands in front and return the rest
  of the text.

  * `V4.read?`: four decimal numbers up to 255 without leading zeros.
  * `V6.read?`: up to eight groups of one to four hexadecimal digits.  `::`
    stands for the missing groups, and the last two groups may be given as an
    address of four bytes.
  * `Address.ofString?`: the address that a whole text denotes.
-/
import NearestHost.Address.Text

namespace NearestHost

/-- The digit characters up to base sixteen, in both letter cases, and their values. -/
def hexValue? (c : Char) : Option Nat :=
  if '0' ≤ c ∧ c ≤ '9' then some (c.toNat - '0'.toNat)
  else if 'a' ≤ c ∧ c ≤ 'f' then some (c.toNat - 'a'.toNat + 10)
  else if 'A' ≤ c ∧ c ≤ 'F' then some (c.toNat - 'A'.toNat + 10)
  else none

namespace V4

/-- A byte in one to three decimal digits without a leading zero. -/
def readByte? (cs : List Char) : Option (UInt8 × List Char) :=
  let ds := cs.takeWhile Char.isDigit
  let n := Nat.ofDigitChars 10 ds 0
  if ds = [] ∨ 3 < ds.length ∨ (ds.head? = some '0' ∧ ds ≠ ['0']) ∨ 255 < n then none
  else some (UInt8.ofNat n, cs.dropWhile Char.isDigit)

/-- A point and a byte. -/
def readNext? : List Char → Option (UInt8 × List Char)
  | '.' :: r => readByte? r
  | _ => none

/-- Four bytes, divided by points. -/
def read? (cs : List Char) : Option (V4 × List Char) := do
  let (a, r) ← readByte? cs
  let (b, r) ← readNext? r
  let (c, r) ← readNext? r
  let (d, r) ← readNext? r
  return (⟨a, b, c, d⟩, r)

end V4

namespace V6

/-- A group of one to four hexadecimal digits. -/
def readGroup? (cs : List Char) : Option (UInt16 × List Char) :=
  let ds := (cs.takeWhile fun c => (hexValue? c).isSome).filterMap hexValue?
  if ds = [] ∨ 4 < ds.length then none
  else
    some (UInt16.ofNat (ds.foldl (16 * · + ·) 0), cs.dropWhile fun c => (hexValue? c).isSome)

/-- What stands after the colon that divides a group from the one before it. -/
def afterColon? (first : Bool) (cs : List Char) : Option (List Char) :=
  if first then some cs
  else match cs with
    | ':' :: r => some r
    | _ => none

/-- The groups in front of a text, at most as many as there are places left, whether they end in
    an address of four bytes, and the rest of the text. -/
def readGroups : (places : Nat) → (first : Bool) → List Char → List UInt16 × Bool × List Char
  | 0, _, cs => ([], false, cs)
  | n + 1, first, cs =>
    match afterColon? first cs with
    | none => ([], false, cs)
    | some r =>
      match if 0 < n then V4.read? r else none with
      | some (a, r) => (a.groups, true, r)
      | none =>
        match readGroup? r with
        | none => ([], false, cs)
        | some (g, r) =>
          let (gs, embedded, r) := readGroups n false r
          (g :: gs, embedded, r)

/-- Eight groups, or fewer around `::`.  An address of four bytes only stands at the end. -/
def read? (cs : List Char) : Option (V6 × List Char) :=
  let (front, embedded, r) := readGroups 8 true cs
  match ofGroups? front with
  | some a => some (a, r)
  | none =>
    match embedded, r with
    | false, ':' :: ':' :: r =>
      let (back, _, r) := readGroups (7 - front.length) true r
      let gap := List.replicate (8 - (front.length + back.length)) 0
      (ofGroups? (front ++ gap ++ back)).map (·, r)
    | _, _ => none

end V6

namespace Address

/-- The address that a whole text denotes. -/
def ofChars? (cs : List Char) : Option Address :=
  match V4.read? cs with
  | some (a, r) => if r = [] then some (.v4 a) else none
  | none =>
    match V6.read? cs with
    | some (a, r) => if r = [] then some (.v6 a) else none
    | none => none

/-- The address that a whole text denotes. -/
def ofString? (s : String) : Option Address := ofChars? s.toList

end Address

end NearestHost
