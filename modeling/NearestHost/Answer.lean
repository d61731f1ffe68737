/-
  The answer to a query.

  * `Answer.Record`: an address, a text, or the record that stands for no
    answer.
  * `Answer.build?`: the records for a query and a chosen host.  Without a
    host it fails; with one it needs a time that can be shown.
  * `Answer.toValue`: the JSON array of an answer.
-/
import NearestHost.Calendar.Instant
import NearestHost.Host.Basic

namespace NearestHost

/-- One record of an answer. -/
inductive Answer.Record
  | address (a : Address)
  | text (s : String)
  | fail
  deriving DecidableEq

/-- The records that answer a query. -/
abbrev Answer := List Answer.Record

namespace Answer

/-- The word for the kind of a record. -/
def Record.kind : Record → String
  | .address _ => "A"
  | .text _ => "TXT"
  | .fail => "fail"

/-- The JSON array of a record: its kind and what it holds. -/
def Record.toValue (r : Record) : Json.Value :=
  match r with
  | .address a => .array [.text r.kind, .text a.toString]
  | .text s => .array [.text r.kind, .text s]
  | .fail => .array [.text r.kind]

/-- The JSON array of an answer. -/
def toValue (r : Answer) : Json.Value := .array (r.map Record.toValue)

/-- A point between brackets. -/
def pointText (p : Point) : String :=
  "[" ++ Decimal.display p.latitude ++ "," ++ Decimal.display p.longitude ++ "]"

/-- The text about the age of the configuration. -/
def updatedText (time : String) : String := "GeoScaling config last auto-updated: " ++ time

/-- The text about the chosen host. -/
def chosenText (name : String) : String := "Chosen closest host is " ++ name

/-- The text about the query. -/
def requestText (query : Point) : String := "Request originated from " ++ pointText query

/-- The records for a query and a chosen host, if the time can be shown where it has to be. -/
def build? (query : Point) (selected : Option Host) (generatedAt : Instant) : Option Answer :=
  match selected with
  | none => some [.fail]
  | some h =>
    generatedAt.text?.map fun time =>
      [.address h.address, .text (updatedText time), .text (chosenText h.name),
        .text (requestText query)]

end Answer

end NearestHost
