/-
  DNS records of an answer.

  * `Data`: what a record holds, by its type.
  * `Class`: the classes of records.
  * `Record`: a name, a class, a time to live and data.
  * `records`: the records of an answer, of the class of the internet.  Addresses
    become records of the type of their family, texts are cut into
    character-strings, and a failure becomes nothing.
-/
import NearestHost.Dns.CharacterString
import NearestHost.Dns.Name
import NearestHost.Answer

namespace NearestHost.Dns

/-- What a record holds. -/
inductive Data
  | a (address : V4)
  | aaaa (address : V6)
  | txt (strings : List String)
  deriving DecidableEq

/-- The word for the class of the internet. -/
def Record.className : String := "IN"

/-- The class of a record. -/
inductive Class
  | internet
  | chaos
  | hesiod
  | none
  | any
  deriving Repr, DecidableEq

/-- The word for a class. -/
def Class.word : Class → String
  | .internet => Record.className
  | .chaos => "CH"
  | .hesiod => "HS"
  | .none => "NONE"
  | .any => "ANY"

/-- A resource record. -/
structure Record where
  name : Name
  dnsClass : Class
  /-- Seconds that the record may be kept. -/
  ttl : UInt32
  data : Data
  deriving DecidableEq

namespace Data

/-- The word for the type of a record. -/
def typeName : Data → String
  | .a _ => "A"
  | .aaaa _ => "AAAA"
  | .txt _ => "TXT"

/-- The data of a record of an answer; a failure has none. -/
def ofAnswer? : Answer.Record → Option Data
  | .address (.v4 x) => some (.a x)
  | .address (.v6 x) => some (.aaaa x)
  | .text s => some (.txt (pieces s))
  | .fail => none

end Data

/-- The seconds of a duration, as many of them as a record can say. -/
def ttlOfSeconds (seconds : Nat) : UInt32 := UInt32.ofNat (min seconds (2 ^ 32 - 1))

/-- The records of an answer for a name. -/
def records (name : Name) (seconds : Nat) (a : Answer) : List Record :=
  a.filterMap fun x => (Data.ofAnswer? x).map fun d => ⟨name, .internet, ttlOfSeconds seconds, d⟩

/-! ## The form of a record in the log -/

/-- Elements between brackets. -/
def listText (elements : List String) : String := "[" ++ ", ".intercalate elements ++ "]"

/-- The bytes of a character-string. -/
def bytesText (s : String) : String :=
  listText (s.toUTF8.toList.map fun b => toString b.toNat)

/-- The form of data in the log. -/
def Data.logText : Data → String
  | .a x => "A(" ++ String.ofList x.text ++ ")"
  | .aaaa x => "AAAA(" ++ String.ofList x.text ++ ")"
  | .txt ss => "TXT(TXT \x7b txt_data: " ++ listText (ss.map bytesText) ++ " \x7d)"

/-- The form of a record in the log. -/
def Record.logText (r : Record) : String :=
  "Record \x7b name_labels: Name(\"" ++ r.name.toString ++ "\"), rr_type: " ++ r.data.typeName ++
    ", dns_class: " ++ r.dnsClass.word ++ ", ttl: " ++ toString r.ttl.toNat ++ ", rdata: Some(" ++
    r.data.logText ++ ") \x7d"

end NearestHost.Dns
