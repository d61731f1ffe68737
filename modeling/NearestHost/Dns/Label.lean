/-
  Labels of DNS names.

  A label is kept as ASCII characters.  One with other letters is folded and
  composed, and kept as `xn--` and its written form in ASCII.

  * `asciiLabel?`: the plain rules: letters, digits and underscores, hyphens
    but not in front, an asterisk only there, points that were escaped, and at
    most 63 characters.
  * `foldedParts?`: the parts of a text between its points, folded and composed,
    if they may stand in one name.
  * `unicodeLabel?`: the plain rules after folding and writing in ASCII.
  * `labelText`: how a label is shown.
-/
import NearestHost.Dns.Punycode
import NearestHost.Text.Composed
import NearestHost.Text.Direction
import NearestHost.Text.Fold

namespace NearestHost.Dns

/-- A label in ASCII. -/
abbrev Label := List Char

/-- The greatest length of a label. -/
def maxLabelLength : Nat := 63

/-- Characters that may stand in a label, and in front of one. -/
def isLabelChar (first : Bool) (c : Char) : Bool :=
  c.isAlphanum || c == '_' || c == '.' || (c == '-' && !first) || (c == '*' && first)

/-- Whether the characters of a label are all in their places. -/
def hasLabelChars : List Char → Bool
  | [] => false
  | c :: r => isLabelChar true c && r.all (isLabelChar false)

/-- A label by the plain rules. -/
def asciiLabel? (cs : List Char) : Option Label :=
  if hasLabelChars cs ∧ cs.length ≤ maxLabelLength then some cs else none

/-! ## Letters beyond ASCII -/

/-- What a label in its written form starts with. -/
def acePrefix : List Char := ['x', 'n', '-', '-']

/-- The text divided at its points. -/
def splitPoints (cs : List Char) : List (List Char) := Text.splitWhere (· == '.') cs

/-- Parts joined by points. -/
def joinPoints (ps : List (List Char)) : List Char := ['.'].intercalate ps

/-- Signs that are a sign of ASCII with a stroke through it. -/
def isStruck (c : Char) : Bool := c.toNat == 0x2260 || c.toNat == 0x226E || c.toNat == 0x226F

/-- Lower case letters, digits, hyphens and points, of the characters in ASCII; no sign that is made
    of another one in ASCII. -/
def isHostChar (c : Char) : Bool :=
  (128 ≤ c.toNat && !isStruck c) || c.isLower || c.isDigit || c == '-' || c == '.'

/-- Letters that are folded away in a text and may yet stand in a written form. -/
def isDeviation (c : Char) : Bool :=
  c.toNat == 0xDF || c.toNat == 0x3C2 || c.toNat == 0x200C || c.toNat == 0x200D

/-- Whether a character may stand in the text of a written form. -/
def isSettled (c : Char) : Bool := isDeviation c || Text.fold? c == some [c]

/-- Whether a part may stand in a name: all its characters are settled, and the first one is no
    mark. -/
def isFit (part : List Char) : Bool := part.all isSettled && !part.head?.any Text.isMark

/-- A part of a label with its written form, if it is one, read back.  The text of a written form is
    composed. -/
def decodePart? (part : List Char) : Option (List Char) :=
  if acePrefix.isPrefixOf part then
    (Punycode.decode? (part.drop 4)).filter fun text => Text.composed text == text
  else
    some part

/-- The parts of a text that is folded and composed, with written forms read back, if they are fit
    to stand in one name. -/
def foldedParts? (cs : List Char) : Option (List (List Char)) := do
  let folded ← cs.mapM Text.fold?
  let parts ← (splitPoints (Text.composed folded.flatten)).mapM decodePart?
  if parts.all isFit && Text.goTogether parts then some parts else none

/-- A part in ASCII. -/
def encodePart (part : List Char) : List Char :=
  if part.all (·.toNat < 128) then part else acePrefix ++ Punycode.encode part

/-- Whether parts have lengths that a name may have; a last empty part stands for the root. -/
def hasNameLengths (ps : List (List Char)) : Bool :=
  let ps := if 1 < ps.length && ps.getLast? == some [] then ps.dropLast else ps
  ps.all (fun p => !p.isEmpty && p.length ≤ maxLabelLength) && (joinPoints ps).length ≤ 253

/-- A text folded and in ASCII, if all its characters may stand in a name of a host. -/
def hostLabel? (cs : List Char) : Option (List Char) := do
  let parts ← foldedParts? cs
  let encoded := parts.map encodePart
  if parts.all (·.all isHostChar) && hasNameLengths encoded then some (joinPoints encoded)
  else none

/-- A label by the rules for names of hosts, except where it is an asterisk or starts with an
    underscore. -/
def unicodeLabel? (cs : List Char) : Option Label :=
  if cs.head? = some '_' ∨ cs = ['*'] then asciiLabel? cs
  else (hostLabel? cs).bind asciiLabel?

/-! ## Showing a label -/

/-- A label as it is read: a point that is no divider is escaped. -/
def escapedLabel (l : Label) : List Char := l.flatMap fun c => if c = '.' then ['\\', '.'] else [c]

/-- The text of a label: its letters beyond ASCII, if it is a written form of them. -/
def labelText (l : Label) : List Char :=
  if acePrefix.isPrefixOf l then
    match foldedParts? l with
    | some parts => joinPoints parts
    | none => escapedLabel l
  else
    escapedLabel l

end NearestHost.Dns
