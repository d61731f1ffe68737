/-
  DNS names.

  * `Name`: labels, and whether the name is qualified up to the root.
  * `Name.ofString?`: the name of a text, in lower case.  A backslash takes the
    next character as it is, or three octal digits as the character of that
    number.  If a text has no name by the rules for names of hosts, it may yet
    have one by the plain rules.
  * `Name.toString`: the text of a name.
-/
import NearestHost.Dns.Label
import NearestHost.Text.Numeric

namespace NearestHost.Dns

/-- Labels from the left, and whether the root follows them. -/
structure Name where
  labels : List Label
  qualified : Bool
  deriving Repr, DecidableEq

namespace Name

-- Sums start from core's own zero.
attribute [local instance (high)] Zero.ofOfNat0

/-- The greatest size of a name. -/
def maxSize : Nat := 255

/-- The characters of labels, and one more for each label. -/
def size (ls : List Label) : Nat := (ls.map List.length).sum + ls.length

/-! ## Reading -/

/-- What has been read of an escape. -/
inductive Escape
  | none
  | mark
  | one (i : Nat)
  | two (i j : Nat)
  deriving Repr, DecidableEq

/-- What has been read of a name. -/
structure Draft where
  labels : List Label
  current : List Char
  escape : Escape

/-- A way to make labels of texts. -/
abbrev Labelling := List Char → Option Label

/-- The draft with its current label ended. -/
def Draft.endLabel? (label : Labelling) (d : Draft) : Option Draft := do
  let l ← label d.current
  let labels := d.labels ++ [l]
  if size labels ≤ maxSize then some ⟨labels, [], .none⟩ else none

/-- The draft with one more character in its current label. -/
def Draft.push (d : Draft) (c : Char) : Draft := ⟨d.labels, d.current ++ [c], .none⟩

/-- The value of an octal digit. -/
def octalValue? (c : Char) : Option Nat :=
  if '0' ≤ c ∧ c ≤ '7' then some (c.toNat - '0'.toNat) else none

/-- Takes one character of a text. -/
def Draft.step? (label : Labelling) (d : Draft) (c : Char) : Option Draft :=
  match d.escape with
  | .none =>
    if c = '.' then d.endLabel? label
    else if c = '\\' then some { d with escape := .mark }
    else if Text.isControl c || Text.isBlank c then none
    else some (d.push c)
  | .mark =>
    if Text.isNumeric c then (octalValue? c).map fun i => { d with escape := .one i }
    else some (d.push c)
  | .one i => (octalValue? c).map fun j => { d with escape := .two i j }
  | .two i j => (octalValue? c).map fun k => d.push (Char.ofNat (i * 64 + j * 8 + k))

/-- The draft of the name of a text without its end. -/
def draft? (label : Labelling) (cs : List Char) : Option Draft :=
  cs.foldlM (Draft.step? label) ⟨[], [], .none⟩

/-- The name of a text by one way to make labels.  An escape without an end is dropped.  The name is
    qualified if its text ends with a point, even if that one was escaped. -/
def read? (label : Labelling) (cs : List Char) : Option Name := do
  let d ← draft? label cs
  let d ← if d.current = [] then some d else d.endLabel? label
  some ⟨d.labels, cs.getLast? = some '.'⟩

/-- The name in lower case. -/
def lower (n : Name) : Name := { n with labels := n.labels.map (·.map Char.toLower) }

/-- The root. -/
def root : Name := ⟨[], true⟩

/-- The name of a text, in lower case. -/
def ofChars? (cs : List Char) : Option Name :=
  if cs = ['.'] then some root
  else ((read? unicodeLabel? cs).or (read? asciiLabel? cs)).map lower

/-- The name of a text, in lower case. -/
def ofString? (s : String) : Option Name := ofChars? s.toList

/-! ## Showing -/

/-- The characters of the text of a name: its labels divided by points, and a last point if it is
    qualified. -/
def chars (n : Name) : List Char :=
  joinPoints (n.labels.map labelText) ++ if n.qualified then ['.'] else []

/-- The text of a name. -/
def toString (n : Name) : String := String.ofList n.chars

end Name

end NearestHost.Dns
