/-
  The log.

  * `Log.Event`: a message with its level and its target.
  * `Log.Event.line`: how it is written, without controls that could change a
    terminal.
  * `Log.Filter`: which events are shown: those of targets that start with a
    text, from a level on.
  * `Log.Filter.ofSetting`: the filter of a setting.  One that says nothing, or
    nothing known, shows the information and the warnings of the program.

  Of the settings only those with one directive are read: the word for a level, in
  lower case, alone or for a target.  Left out are the words `error` and `trace`,
  words in other letter case, numbers for levels, targets without a level, lists of
  directives, and conditions on spans and fields.
-/
namespace NearestHost.Log

/-- How much an event matters. -/
inductive Level
  | debug
  | info
  | warn
  deriving Repr, DecidableEq

/-- The word for a level. -/
def Level.word : Level → String
  | .debug => "DEBUG"
  | .info => "INFO"
  | .warn => "WARN"

/-- The rank of a level, from the least. -/
def Level.rank : Level → Nat
  | .debug => 0
  | .info => 1
  | .warn => 2

/-- A message in the log. -/
structure Event where
  level : Level
  target : String
  message : String
  deriving Repr, DecidableEq

/-! ## Lines -/

/-- What is written for a character of a message.  The bell, the backspace, the form feed, the
    escape, the delete and the controls beyond ASCII could change a terminal and are written with
    their number. -/
def shownChar (c : Char) : List Char :=
  let digits := [Nat.digitChar (c.toNat / 16), Nat.digitChar (c.toNat % 16)]
  if c.toNat = 0x07 ∨ c.toNat = 0x08 ∨ c.toNat = 0x0C ∨ c.toNat = 0x1B ∨ c.toNat = 0x7F then
    '\\' :: 'x' :: digits
  else if 0x80 ≤ c.toNat ∧ c.toNat < 0xA0 then
    ['\\', 'u', '\x7b'] ++ digits ++ ['\x7d']
  else
    [c]

/-- A message as it is written. -/
def shown (message : String) : String := String.ofList (message.toList.flatMap shownChar)

/-- The line of an event. -/
def Event.line (e : Event) : String :=
  e.level.word ++ " " ++ e.target ++ ": " ++ shown e.message ++ "\n"

/-- The target of the program, which starts the targets of its parts. -/
def programTarget : String := "geocrab"

/-- The target of the part that answers queries. -/
def serviceTarget : String := "geocrab::resolver"

/-- Which events are shown. -/
inductive Filter
  | nothing
  | /-- the events of targets that start with a text, from a level on -/
    ofTarget (start : List Char) (level : Level)
  deriving Repr, DecidableEq

namespace Filter

/-- Whether an event is shown. -/
def admits (f : Filter) (e : Event) : Bool :=
  match f with
  | .nothing => false
  | .ofTarget start level => start.isPrefixOf e.target.toList && level.rank ≤ e.level.rank

/-- The filter without a setting. -/
def default : Filter := .ofTarget programTarget.toList .info

/-- The filter of a level's word, for the targets with a given start. -/
def ofWord? (start word : List Char) : Option Filter :=
  if word = ['o', 'f', 'f'] then some .nothing
  else if word = ['w', 'a', 'r', 'n'] then some (.ofTarget start .warn)
  else if word = ['i', 'n', 'f', 'o'] then some (.ofTarget start .info)
  else if word = ['d', 'e', 'b', 'u', 'g'] then some (.ofTarget start .debug)
  else none

/-- The filter of a setting's characters: a word for a level, or a target, a sign of equality and
    such a word. -/
def ofChars? (cs : List Char) : Option Filter :=
  match cs.dropWhile (· ≠ '=') with
  | [] => ofWord? [] cs
  | _ :: word => ofWord? (cs.takeWhile (· ≠ '=')) word

/-- The filter of a setting.  One of the forms that are left out counts as one that says nothing
    known. -/
def ofSetting : Option String → Filter
  | none => default
  | some s => (ofChars? s.toList).getD default

/-- The lines of the events that are shown. -/
def lines (f : Filter) (es : List Event) : String :=
  String.join ((es.filter f.admits).map Event.line)

end Filter

end NearestHost.Log
