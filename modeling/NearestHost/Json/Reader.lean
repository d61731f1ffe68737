/-
  JSON texts read byte by byte.

  The reader takes one byte at a time, hands events to a builder, and stops at
  the first fault: a byte that the grammar does not admit, or an event that the
  builder refuses.  A value that the builder passes over may hold any bytes
  above the control characters in its texts, numbers of any size, and brackets
  of any depth.

  * `Reader.step`: the reader after one more byte.
  * `Reader.finish`: the state of the builder once the text has ended.
  * `read`: a whole source, which ends or breaks off.
-/
import NearestHost.Json.Event

namespace NearestHost.Json

/-- Why reading stops at a byte. -/
inductive Fault
  | /-- the text is not JSON, or holds a number beyond the doubles -/ grammar
  | /-- the text is JSON so far, but says something that does not fit -/ data
  deriving Repr, DecidableEq

/-- Why a source has no value. -/
inductive Category
  | grammar
  | data
  | /-- the text ended too early -/ unfinished
  | /-- the source broke off -/ broken
  deriving Repr, DecidableEq

/-- The category of a fault. -/
def Fault.category : Fault → Category
  | .grammar => .grammar
  | .data => .data

/-- The two kinds of brackets. -/
inductive Bracket
  | array
  | object
  deriving Repr, DecidableEq

/-- An open bracket. -/
structure Level where
  bracket : Bracket
  /-- Whether what it holds is passed over. -/
  passed : Bool
  deriving Repr, DecidableEq

/-- What the grammar admits between two tokens. -/
inductive Expecting
  | value
  | /-- the first element of an array, or its end -/ firstElement
  | /-- a comma, or the end of the array or object -/ separator
  | /-- the first member of an object, or its end -/ firstKey
  | key
  | colon
  | /-- only white space -/ nothing
  deriving Repr, DecidableEq

/-- The token that is being read.  What is passed over is not gathered. -/
inductive Token
  | between (e : Expecting)
  | quoted (isKey : Bool) (escape : Escape) (gathered : Option Gathered)
  | number (part : Part) (tally : Option Tally)
  | word (rest : List UInt8) (w : Word) (kept : Bool)

/-- Where a reader stands: its open brackets, innermost first, its token and its builder's state. -/
structure Reader (σ : Type) where
  levels : List Level
  token : Token
  state : σ

/-- As many brackets may be open at once, not counting those that are passed over. -/
def maxDepth : Nat := 127

/-- The bytes of white space. -/
def isSpace (c : UInt8) : Bool :=
  c == byteOf ' ' || c == byteOf '\t' || c == byteOf '\n' || c == byteOf '\r'

/-- The closing byte of a bracket. -/
def Bracket.closing : Bracket → UInt8
  | .array => byteOf ']'
  | .object => byteOf '\x7d'

/-- The bytes of a word after its first one. -/
def Word.tail : Word → List UInt8
  | .null => ['u', 'l', 'l'].map byteOf
  | .true => ['r', 'u', 'e'].map byteOf
  | .false => ['a', 'l', 's', 'e'].map byteOf

/-- The word that starts with a byte. -/
def Word.start? (c : UInt8) : Option Word :=
  if c = byteOf 'n' then some .null
  else if c = byteOf 't' then some .true
  else if c = byteOf 'f' then some .false
  else none

namespace Reader

variable {σ : Type}

/-- The reader of a whole text. -/
def start (s : σ) : Reader σ := ⟨[], .between .value, s⟩

/-- The reader between two tokens. -/
def expect (r : Reader σ) (e : Expecting) : Reader σ := { r with token := .between e }

/-- Whether the innermost bracket is passed over. -/
def inPassed (r : Reader σ) : Bool := r.levels.head?.any Level.passed

/-- Whether the next value is passed over. -/
def passesNext (b : Builder σ) (r : Reader σ) : Bool := r.inPassed || b.passes r.state

/-- An optional gathering that starts only where a value is kept. -/
def keeping {α : Type} (passed : Bool) (a : α) : Option α := if passed then none else some a

/-- Something, or a fault of the grammar. -/
def orGrammar {α : Type} : Option α → Except Fault α
  | some a => .ok a
  | none => .error .grammar

/-- Hands an event to the builder. -/
def emit (b : Builder σ) (r : Reader σ) (e : Event) : Except Fault (Reader σ) :=
  match b.accept? r.state e with
  | some s => .ok { r with state := s }
  | none => .error .data

/-- The reader after a value: the text has to end, or the array or object goes on. -/
def afterValue (r : Reader σ) : Reader σ :=
  r.expect (if r.levels.isEmpty then .nothing else .separator)

/-- Ends a value that was kept, with its last event. -/
def endKept (b : Builder σ) (r : Reader σ) (e : Event) : Except Fault (Reader σ) :=
  (r.emit b e).map afterValue

/-- Ends a value that was passed over.  Only the outermost such value is an event. -/
def endPassed (b : Builder σ) (r : Reader σ) : Except Fault (Reader σ) :=
  if r.inPassed then .ok r.afterValue else r.endKept b .passed

/-- Opens a bracket. -/
def enter (b : Builder σ) (r : Reader σ) (k : Bracket) : Except Fault (Reader σ) :=
  let inside : Token := .between (match k with
    | .array => .firstElement
    | .object => .firstKey)
  if r.passesNext b then
    .ok { r with levels := ⟨k, true⟩ :: r.levels, token := inside }
  else
    match r.emit b (match k with
      | .array => .openArray
      | .object => .openObject) with
    | .error f => .error f
    | .ok r =>
      if r.levels.length < maxDepth then
        .ok { r with levels := ⟨k, false⟩ :: r.levels, token := inside }
      else
        .error .grammar

/-- Closes the innermost bracket. -/
def leave (b : Builder σ) (r : Reader σ) : Except Fault (Reader σ) :=
  match r.levels with
  | [] => .error .grammar
  | l :: ls =>
    let outer := { r with levels := ls }
    if l.passed then outer.endPassed b
    else outer.endKept b (match l.bracket with
      | .array => .closeArray
      | .object => .closeObject)

/-- Starts a value. -/
def startValue (b : Builder σ) (r : Reader σ) (c : UInt8) : Except Fault (Reader σ) :=
  let passed := r.passesNext b
  if c = byteOf '"' then
    .ok { r with token := .quoted false .none (keeping passed .empty) }
  else if c = byteOf '[' then r.enter b .array
  else if c = byteOf '\x7b' then r.enter b .object
  else match Word.start? c, Part.start? c with
    | some w, _ => .ok { r with token := .word w.tail w (!passed) }
    | none, some p =>
      .ok { r with token := .number p (keeping passed (Tally.first p c)) }
    | none, none => .error .grammar

/-- Starts the name of a member. -/
def startKey (r : Reader σ) (c : UInt8) : Except Fault (Reader σ) :=
  if c = byteOf '"' then
    .ok { r with token := .quoted true .none (keeping r.inPassed .empty) }
  else
    .error .grammar

/-- Goes on after a comma: in a kept array only if the builder takes a further element. -/
def next (b : Builder σ) (r : Reader σ) (l : Level) : Except Fault (Reader σ) :=
  match l.bracket with
  | .object => .ok (r.expect .key)
  | .array => if !l.passed && b.full r.state then .error .grammar else .ok (r.expect .value)

/-- Goes on inside a bracket, at a comma or at its end. -/
def separate (b : Builder σ) (r : Reader σ) (c : UInt8) : Except Fault (Reader σ) :=
  match r.levels with
  | [] => .error .grammar
  | l :: _ =>
    if c = byteOf ',' then r.next b l
    else if c = l.bracket.closing then r.leave b
    else .error .grammar

/-- Takes a byte between two tokens. -/
def stepBetween (b : Builder σ) (r : Reader σ) (e : Expecting) (c : UInt8) :
    Except Fault (Reader σ) :=
  if isSpace c then .ok (r.expect e)
  else match e with
    | .value => r.startValue b c
    | .firstElement => if c = byteOf ']' then r.leave b else r.startValue b c
    | .separator => r.separate b c
    | .firstKey => if c = byteOf '\x7d' then r.leave b else r.startKey c
    | .key => r.startKey c
    | .colon => if c = byteOf ':' then .ok (r.expect .value) else .error .grammar
    | .nothing => .error .grammar

/-- Ends a quoted text. -/
def endQuoted (b : Builder σ) (r : Reader σ) (isKey : Bool) (gathered : Option Gathered) :
    Except Fault (Reader σ) :=
  match gathered with
  | none => if isKey then .ok (r.expect .colon) else r.endPassed b
  | some g =>
    match g.text? with
    | none => .error .grammar
    | some s => if isKey then (r.emit b (.key s)).map (·.expect .colon) else r.endKept b (.text s)

/-- Ends a number. -/
def endNumber (b : Builder σ) (r : Reader σ) (tally : Option Tally) : Except Fault (Reader σ) :=
  match tally with
  | none => r.endPassed b
  | some t =>
    match t.number? with
    | none => .error .grammar
    | some n => r.endKept b (.number n)

/-- Takes a byte of a quoted text. -/
def stepQuoted (b : Builder σ) (r : Reader σ) (isKey : Bool) (escape : Escape)
    (gathered : Option Gathered) (c : UInt8) : Except Fault (Reader σ) :=
  match escape.step? c with
  | none => .error .grammar
  | some (_, .close) => r.endQuoted b isKey gathered
  | some (escape, piece) =>
    match gathered with
    | none => .ok { r with token := .quoted isKey escape none }
    | some g =>
      match g.add? piece with
      | none => .error .grammar
      | some g => .ok { r with token := .quoted isKey escape (some g) }

/-- Takes a byte of a number, or one after it. -/
def stepNumber (b : Builder σ) (r : Reader σ) (part : Part) (tally : Option Tally) (c : UInt8) :
    Except Fault (Reader σ) :=
  match part.next c with
  | .refused => .error .grammar
  | .ended =>
    match r.endNumber b tally with
    | .error f => .error f
    | .ok r => r.stepBetween b (if r.levels.isEmpty then .nothing else .separator) c
  | .part p =>
    match tally with
    | none => .ok { r with token := .number p none }
    | some t =>
      match t.add? p c with
      | none => .error .grammar
      | some t => .ok { r with token := .number p (some t) }

/-- Takes a byte of a word. -/
def stepWord (b : Builder σ) (r : Reader σ) (rest : List UInt8) (w : Word) (kept : Bool)
    (c : UInt8) : Except Fault (Reader σ) :=
  match rest with
  | [] => .error .grammar
  | d :: rest =>
    if c ≠ d then .error .grammar
    else if rest ≠ [] then .ok { r with token := .word rest w kept }
    else if kept then r.endKept b (.word w)
    else r.endPassed b

/-- Takes one byte. -/
def step (b : Builder σ) (r : Reader σ) (c : UInt8) : Except Fault (Reader σ) :=
  match r.token with
  | .between e => r.stepBetween b e c
  | .quoted isKey escape gathered => r.stepQuoted b isKey escape gathered c
  | .number part tally => r.stepNumber b part tally c
  | .word rest w kept => r.stepWord b rest w kept c

/-- Takes bytes, up to the first fault. -/
def run (b : Builder σ) (r : Reader σ) (cs : List UInt8) : Except Fault (Reader σ) :=
  cs.foldlM (step b) r

theorem run_cons (b : Builder σ) (r : Reader σ) (c : UInt8) (cs : List UInt8) :
    r.run b (c :: cs) = (r.step b c).bind (·.run b cs) := by
  simp only [run, List.foldlM_cons]; rfl

/-- Bytes are taken in their order, and what was read does not depend on what follows. -/
theorem run_append (b : Builder σ) (r : Reader σ) (cs ds : List UInt8) :
    r.run b (cs ++ ds) = (r.run b cs).bind (·.run b ds) := by
  simp only [run, List.foldlM_append]; rfl

/-- The builder's state of a reader that has read a whole value. -/
def whole (r : Reader σ) : Except Category σ :=
  match r.token with
  | .between .nothing => .ok r.state
  | _ => .error .unfinished

/-- The builder's state at the end of the text.  A number may end here; one that is passed over is
    no number if it may not. -/
def finish (b : Builder σ) (r : Reader σ) : Except Category σ :=
  match r.token with
  | .number part tally =>
    if part.isComplete then
      match r.endNumber b tally with
      | .error f => .error f.category
      | .ok r => r.whole
    else if tally.isSome then .error .unfinished
    else .error .grammar
  | _ => r.whole

end Reader

/-! ## Sources -/

/-- How a source stops. -/
inductive Ending
  | complete
  | broken
  deriving Repr, DecidableEq

/-- The bytes that can be read, and how they stop. -/
structure Source where
  bytes : List UInt8
  ending : Ending
  deriving Repr, DecidableEq

/-- The source of a text. -/
def Source.ofString (s : String) : Source := ⟨s.toUTF8.toList, .complete⟩

/-- The builder's state after a whole source. -/
def read {σ : Type} (b : Builder σ) (s : σ) (source : Source) : Except Category σ :=
  match (Reader.start s).run b source.bytes with
  | .error f => .error f.category
  | .ok r =>
    match source.ending with
    | .complete => r.finish b
    | .broken => .error .broken

end NearestHost.Json
