/-
  JSON values and their two layouts.

  * `Value`: a JSON value.  A number is any double; one that is not finite has
    no JSON number and is written as `null`.
  * `Value.compact`: the text without white space.
  * `Value.pretty`: one element or member a line, indented by two blanks a
    level.
-/
import NearestHost.Decimal.Written

namespace NearestHost.Json

/-- A JSON value. -/
inductive Value
  | null
  | number (x : Float)
  | text (s : String)
  | array (elements : List Value)
  | object (members : List (String × Value))

/-! ## Scalars -/

/-- Shortest decimals, a tie going to the even digit; a point at its place for the exponents from
    -5 to 15, and always one decimal place. -/
def numberStyle : Decimal.Style := ⟨.even, fun e => -5 ≤ e && e ≤ 15, ['.', '0']⟩

/-- The text of a number. -/
def numberText (x : Float) : List Char :=
  if Double.isFinite x then numberStyle.write x else ['n', 'u', 'l', 'l']

/-- The two hexadecimal digits of a control character. -/
def hexPair (n : Nat) : List Char := [Nat.digitChar (n / 16), Nat.digitChar (n % 16)]

/-- How a character is written between quotes. -/
def escaped (c : Char) : List Char :=
  if c = '"' then ['\\', '"']
  else if c = '\\' then ['\\', '\\']
  else if c = '\x08' then ['\\', 'b']
  else if c = '\x0c' then ['\\', 'f']
  else if c = '\n' then ['\\', 'n']
  else if c = '\r' then ['\\', 'r']
  else if c = '\t' then ['\\', 't']
  else if c.toNat < 0x20 then ['\\', 'u', '0', '0'] ++ hexPair c.toNat
  else [c]

/-- A text between quotes. -/
def quoted (s : String) : List Char := '"' :: s.toList.flatMap escaped ++ ['"']

/-! ## Layouts -/

/-- What a layout puts around and between the parts of an array or object, `depth` levels deep. -/
structure Layout where
  /-- Before each part. -/
  lead : Nat → List Char
  /-- Before the closing bracket. -/
  close : Nat → List Char
  /-- After the colon of a member. -/
  colon : List Char

/-- No white space. -/
def Layout.compact : Layout := ⟨fun _ => [], fun _ => [], []⟩

/-- A line break and two blanks a level. -/
def Layout.lineBreak (depth : Nat) : List Char := '\n' :: List.replicate (2 * depth) ' '

/-- A line for each part and for the closing bracket. -/
def Layout.pretty : Layout := ⟨fun d => Layout.lineBreak (d + 1), Layout.lineBreak, [' ']⟩

/-- The parts of an array or object between its brackets; an empty one has nothing between them. -/
def Layout.bracketed (l : Layout) (depth : Nat) (left right : Char) : List (List Char) → List Char
  | [] => [left, right]
  | parts =>
    left :: ((parts.map (l.lead depth ++ ·)).intersperse [',']).flatten ++ l.close depth ++ [right]

mutual

/-- The text of a value that stands `depth` levels deep. -/
def Value.render (l : Layout) (depth : Nat) : Value → List Char
  | .null => ['n', 'u', 'l', 'l']
  | .number x => numberText x
  | .text s => quoted s
  | .array vs => l.bracketed depth '[' ']' (renderElements l (depth + 1) vs)
  | .object ms => l.bracketed depth '\x7b' '\x7d' (renderMembers l (depth + 1) ms)

/-- The texts of the elements of an array. -/
def renderElements (l : Layout) (depth : Nat) : List Value → List (List Char)
  | [] => []
  | v :: r => v.render l depth :: renderElements l depth r

/-- The texts of the members of an object. -/
def renderMembers (l : Layout) (depth : Nat) : List (String × Value) → List (List Char)
  | [] => []
  | (k, v) :: r =>
    (quoted k ++ ':' :: l.colon ++ v.render l depth) :: renderMembers l depth r

end

/-- The text without white space. -/
def Value.compact (v : Value) : String := String.ofList (v.render .compact 0)

/-- The text with a line for each part. -/
def Value.pretty (v : Value) : String := String.ofList (v.render .pretty 0)

end NearestHost.Json
