/-
  Tables of characters.

  A table is written as a text of rows.  Blanks and line ends divide the rows; a
  row is a few hexadecimal numbers with other signs between them.  The tables of this
  library hold the characters of version 13 of Unicode.  A range may run over
  numbers that have no character.

  * `rows`: the numbers in the rows of a table.
  * `ranges`: the ranges of a table whose rows have one number or two.
  * `inRanges`: whether a number lies in one of the ranges.
-/
namespace NearestHost.Text

/-- The text divided at the characters of a kind. -/
def splitWhere (p : Char → Bool) (cs : List Char) : List (List Char) :=
  cs.foldr (fun c ws =>
    match ws with
    | [] => [[c]]
    | w :: ws => if p c then [] :: w :: ws else (c :: w) :: ws) [[]]

/-- Whether a character is a hexadecimal digit, of those in upper case. -/
def isHexDigit (c : Char) : Bool := c.isDigit || ('A' ≤ c && c ≤ 'F')

/-- The value of a hexadecimal digit. -/
def hexValue (c : Char) : Nat := if c.isDigit then c.toNat - '0'.toNat else c.toNat - 'A'.toNat + 10

/-- The value of hexadecimal digits. -/
def hexNumber (cs : List Char) : Nat := cs.foldl (fun n c => 16 * n + hexValue c) 0

/-- The numbers in the rows of a table. -/
def rows (table : String) : List (List Nat) :=
  ((splitWhere Char.isWhitespace table.toList).filter (· ≠ [])).map fun row =>
    (splitWhere (fun c => !isHexDigit c) row).map hexNumber

/-- The ranges of a table, ends included.  A row with one number is a range of one. -/
def ranges (table : String) : List (Nat × Nat) :=
  (rows table).filterMap fun
    | [n] => some (n, n)
    | [first, last] => some (first, last)
    | _ => none

/-- Whether a number lies in one of the ranges, ends included. -/
def inRanges (rs : List (Nat × Nat)) (n : Nat) : Bool := rs.any fun r => r.1 ≤ n && n ≤ r.2

end NearestHost.Text
