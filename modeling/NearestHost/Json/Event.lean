/-
  What a JSON text says, in order, and how it is taken in.

  * `Event`: the start and end of an array or object, the name of a member, a
    scalar, or a value that was passed over.
  * `Builder`: a state that takes events in.  It says which values are passed
    over unread, and refuses an event that does not fit.
  * `Form`: an object of known fields may also be written as the array of their
    values.
-/
import NearestHost.Json.Number

namespace NearestHost.Json

/-- The values that are words. -/
inductive Word
  | null
  | true
  | false
  deriving Repr, DecidableEq

/-- An event of a JSON text. -/
inductive Event
  | text (s : String)
  | number (n : Number)
  | word (w : Word)
  | key (s : String)
  | openArray
  | closeArray
  | openObject
  | closeObject
  | /-- a value that was passed over -/ passed

/-- How events are taken in. -/
structure Builder (σ : Type) where
  /-- Whether the next value is passed over: only its grammar is checked. -/
  passes : σ → Bool
  /-- Whether the array that is being read takes no further element. -/
  full : σ → Bool
  /-- The state after an event, unless the event does not fit. -/
  accept? : σ → Event → Option σ

/-- How an object of known fields is written: by their names, or in their order. -/
inductive Form
  | members
  | elements (next : Nat)
  deriving Repr, DecidableEq

/-- The form once a field has been read. -/
def Form.advance : Form → Form
  | .members => .members
  | .elements i => .elements (i + 1)

end NearestHost.Json
