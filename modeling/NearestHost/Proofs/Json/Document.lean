/-
  The grammar of JSON documents (RFC 8259), in two levels.

  * `Numeral`, `Quoted`: how numbers and texts are spelled.
  * `Lexeme`: a structural sign or a scalar.  `Written` says which bytes are
    lexemes in their order, with white space around them.
  * `Tree`: a value with the spelling of its scalars, and its lexemes.
  * `Tree.height`, `Tree.readable`: how deep its brackets go, and whether all of
    its scalars have a value.
-/
import NearestHost.Json.Reader

namespace NearestHost.Json

/-! ## Numbers -/

/-- The exponent of a number: its letter, an optional sign and at least one digit. -/
structure Exponent where
  mark : UInt8
  sign : Option UInt8
  digits : List UInt8
  mark_ok : isMark mark = true
  sign_ok : ∀ c ∈ sign, c = byteOf '+' ∨ c = byteOf '-'
  digits_ne : digits ≠ []
  digits_ok : ∀ d ∈ digits, isDigitByte d = true

/-- A number as it is spelled.  A number without digits after the point has no point. -/
structure Numeral where
  negative : Bool
  whole : List UInt8
  fraction : List UInt8
  exponent : Option Exponent
  whole_ok : whole = [byteOf '0'] ∨
    ∃ d ds, whole = d :: ds ∧ d ≠ byteOf '0' ∧ ∀ c ∈ d :: ds, isDigitByte c = true
  fraction_ok : ∀ d ∈ fraction, isDigitByte d = true

def Exponent.bytes (e : Exponent) : List UInt8 := e.mark :: e.sign.toList ++ e.digits

/-- The point and the digits after it. -/
def pointed : List UInt8 → List UInt8
  | [] => []
  | d :: ds => byteOf '.' :: d :: ds

def exponentBytes : Option Exponent → List UInt8
  | none => []
  | some e => e.bytes

namespace Numeral

/-- The bytes without the sign. -/
def unsigned (n : Numeral) : List UInt8 := n.whole ++ (pointed n.fraction ++ exponentBytes n.exponent)

def bytes (n : Numeral) : List UInt8 := (if n.negative then [byteOf '-'] else []) ++ n.unsigned

end Numeral

/-- The part of a number that bytes end, after a part. -/
def Part.through (p : Part) : List UInt8 → Option Part
  | [] => some p
  | c :: cs =>
    match p.next c with
    | .part q => q.through cs
    | _ => none

/-- What is gathered of a number from bytes, after a part. -/
def Tally.through (t : Tally) (p : Part) : List UInt8 → Option Tally
  | [] => some t
  | c :: cs =>
    match p.next c with
    | .part q => (t.add? q c).bind fun t => t.through q cs
    | _ => none

/-- The number of a numeral, unless it is read as one beyond the doubles. -/
def Numeral.number? (n : Numeral) : Option Number :=
  match n.bytes with
  | [] => none
  | c :: cs => do
    let p ← Part.start? c
    let t ← (Tally.first p c).through p cs
    t.number?

/-! ## Texts -/

/-- The code unit of four hexadecimal digits. -/
def codeUnit? (a b c d : UInt8) : Option Nat := do
  let a ← hexDigit? a
  let b ← hexDigit? b
  let c ← hexDigit? c
  let d ← hexDigit? d
  return ((a * 16 + b) * 16 + c) * 16 + d

/-- A part of a quoted text: a byte that stands for itself, or an escape. -/
inductive Fragment
  | byte (c : UInt8) (plain : c ≠ byteOf '"' ∧ c ≠ byteOf '\\' ∧ ¬ c < 0x20)
  | escape (letter c : UInt8) (ok : simpleEscape? letter = some c)
  | unit (a b c d : UInt8) (u : Nat) (ok : codeUnit? a b c d = some u)

def Fragment.bytes : Fragment → List UInt8
  | .byte c _ => [c]
  | .escape letter _ _ => [byteOf '\\', letter]
  | .unit a b c d _ _ => [byteOf '\\', byteOf 'u', a, b, c, d]

def Fragment.piece : Fragment → Piece
  | .byte c _ => .byte c
  | .escape _ c _ => .byte c
  | .unit _ _ _ _ u _ => .unit u

/-- A quoted text. -/
abbrev Quoted := List Fragment

/-- What is gathered of fragments. -/
def Gathered.through (g : Gathered) : Quoted → Option Gathered
  | [] => some g
  | f :: q => (g.add? f.piece).bind (·.through q)

namespace Quoted

/-- The bytes between the quotes. -/
def inner (q : Quoted) : List UInt8 := q.flatMap Fragment.bytes

def bytes (q : Quoted) : List UInt8 := byteOf '"' :: (q.inner ++ [byteOf '"'])

/-- The text, if it is UTF-8 and no half of a pair of code units is left alone. -/
def text? (q : Quoted) : Option String := (Gathered.empty.through q).bind Gathered.text?

end Quoted

/-! ## Lexemes -/

/-- A value without brackets. -/
inductive Scalar
  | word (w : Word)
  | number (n : Numeral)
  | text (q : Quoted)

def Word.head : Word → UInt8
  | .null => byteOf 'n'
  | .true => byteOf 't'
  | .false => byteOf 'f'

def Scalar.bytes : Scalar → List UInt8
  | .word w => w.head :: w.tail
  | .number n => n.bytes
  | .text q => q.bytes

/-- What a scalar says, unless it has no value. -/
def Scalar.event? : Scalar → Option Event
  | .word w => some (.word w)
  | .number n => n.number?.map .number
  | .text q => q.text?.map .text

/-- A structural sign. -/
inductive Sign
  | openArray
  | closeArray
  | openObject
  | closeObject
  | comma
  | colon
  deriving DecidableEq

def Sign.byte : Sign → UInt8
  | .openArray => byteOf '['
  | .closeArray => byteOf ']'
  | .openObject => byteOf '\x7b'
  | .closeObject => byteOf '\x7d'
  | .comma => byteOf ','
  | .colon => byteOf ':'

inductive Lexeme
  | sign (s : Sign)
  | scalar (c : Scalar)

def Lexeme.bytes : Lexeme → List UInt8
  | .sign s => [s.byte]
  | .scalar c => c.bytes

/-- White space of any length. -/
def Blank (bs : List UInt8) : Prop := ∀ c ∈ bs, isSpace c = true

/-- Bytes are lexemes in their order, with white space around them. -/
inductive Written : List Lexeme → List UInt8 → Prop
  | nil {ws : List UInt8} (blank : Blank ws) : Written [] ws
  | cons {l : Lexeme} {ls : List Lexeme} {ws bs : List UInt8} (blank : Blank ws)
      (rest : Written ls bs) : Written (l :: ls) (ws ++ (l.bytes ++ bs))

/-! ## Trees -/

/-- A value with the spelling of its scalars. -/
inductive Tree
  | scalar (c : Scalar)
  | array (elements : List Tree)
  | object (members : List (Quoted × Tree))

/-- A comma, but not in front of the first part. -/
def separator (first : Bool) : List Lexeme := if first then [] else [.sign .comma]

mutual

def Tree.lexemes : Tree → List Lexeme
  | .scalar c => [.scalar c]
  | .array ts => .sign .openArray :: (elementLexemes true ts ++ [.sign .closeArray])
  | .object ms => .sign .openObject :: (memberLexemes true ms ++ [.sign .closeObject])

def elementLexemes (first : Bool) : List Tree → List Lexeme
  | [] => []
  | t :: ts => separator first ++ (t.lexemes ++ elementLexemes false ts)

def memberLexemes (first : Bool) : List (Quoted × Tree) → List Lexeme
  | [] => []
  | (k, v) :: ms =>
    separator first ++
      (.scalar (.text k) :: .sign .colon :: (v.lexemes ++ memberLexemes false ms))

end

mutual

/-- How many brackets are open at most. -/
def Tree.height : Tree → Nat
  | .scalar _ => 0
  | .array ts => elementHeight ts + 1
  | .object ms => memberHeight ms + 1

def elementHeight : List Tree → Nat
  | [] => 0
  | t :: ts => max t.height (elementHeight ts)

def memberHeight : List (Quoted × Tree) → Nat
  | [] => 0
  | (_, v) :: ms => max v.height (memberHeight ms)

end

/-- Whether a scalar has a value, where `ok` says so of numbers. -/
def Scalar.readable (ok : Numeral → Bool) : Scalar → Bool
  | .word _ => true
  | .number n => ok n
  | .text q => q.text?.isSome

mutual

/-- Whether all the scalars of a value have one, the names of members among them. -/
def Tree.readable (ok : Numeral → Bool) : Tree → Bool
  | .scalar c => c.readable ok
  | .array ts => elementsReadable ok ts
  | .object ms => membersReadable ok ms

def elementsReadable (ok : Numeral → Bool) : List Tree → Bool
  | [] => true
  | t :: ts => t.readable ok && elementsReadable ok ts

def membersReadable (ok : Numeral → Bool) : List (Quoted × Tree) → Bool
  | [] => true
  | (k, v) :: ms => k.text?.isSome && v.readable ok && membersReadable ok ms

end

/-- Whether a number is read as a double. -/
def Numeral.reads (n : Numeral) : Bool := n.number?.isSome

end NearestHost.Json
