/-
  Queries answered from a configuration.

  * `Service.select`: the host that is nearest to a query.
  * `Service.event`: what a query logs, before it is answered.
  * `Service.answer`: the event and the answer of a query.  There is no answer
    where the time of the configuration cannot be shown.
  * `Service.toDns`, `Service.answerDns`: answers as DNS records.
-/
import NearestHost.Configuration.Basic
import NearestHost.Decimal.Fixed
import NearestHost.Dns.Record
import NearestHost.Host.Nearest
import NearestHost.Log

namespace NearestHost

/-- What answers queries: a way to measure distances, and a configuration. -/
structure Service where
  metric : Metric
  configuration : Configuration

/-- What a query brings: its event in the log, and its result unless the time cannot be shown. -/
structure Resolution (α : Type) where
  event : Log.Event
  result : Option α

namespace Service

/-- The host nearest to a query, if there is one. -/
def select (s : Service) (query : Point) : Option Selection :=
  Host.select s.metric query s.configuration.hosts

/-- The message about a chosen host. -/
def chosenMessage (query : Point) (c : Selection) : String :=
  "chose \"" ++ c.host.name ++ "\" (" ++ c.host.address.toString ++ ") at " ++
    Decimal.oneDecimal c.distance ++ "km for " ++ Answer.pointText query

/-- The event of a query for which a host was chosen, or none. -/
def event (query : Point) : Option Selection → Log.Event
  | some c => ⟨.debug, Log.serviceTarget, chosenMessage query c⟩
  | none => ⟨.warn, Log.serviceTarget, "no hosts configured, failing query"⟩

/-- The answer to a query. -/
def answer (s : Service) (query : Point) : Resolution Answer :=
  let selected := s.select query
  ⟨event query selected,
    Answer.build? query (selected.map Selection.host) s.configuration.generatedAt⟩

/-- The DNS records of an answer, for the configured name. -/
def toDns (s : Service) (a : Answer) : List Dns.Record :=
  Dns.records s.configuration.name s.configuration.ttl a

/-- The DNS records that answer a query. -/
def answerDns (s : Service) (query : Point) : Resolution (List Dns.Record) :=
  let resolution := s.answer query
  ⟨resolution.event, resolution.result.map s.toDns⟩

end Service

end NearestHost
