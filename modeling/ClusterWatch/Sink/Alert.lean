import ClusterWatch.Classification.Basic
import ClusterWatch.Classification.Staleness
import ClusterWatch.Config.Basic
import ClusterWatch.Event.Wire
import ClusterWatch.Sink.Delivery
/-!
# Alerts

Native events that happened just now and concern somebody are sent to an alert server.

- `Sink.Alert`: the settings of the sink, `AlertSink` in the program.
- `Alert.prepare`: its `init`.
- `Alert.forwards`: `tier_enabled`, whether a tier is told.
- `Alert.Outcome`: what became of an event.
- `Alert.process`: sends an event on, unless it is not worth an alert. What is counted by
  `report_failure` and on the way is counted here in the effects.
-/

namespace ClusterWatch.Sink

open Http (Request)
open Json (Value)
open Time (Instant)

/-- The settings of the alert sink. -/
structure Alert where
  server : String
  clusterName : String
  toAdmin : Bool
  toAppOwner : Bool
  tables : ReasonTables

namespace Alert

/-- The sink of a configuration. -/
def ofConfig (c : Config) : Alert where
  server := c.sinks.alert.server
  clusterName := c.cluster.name
  toAdmin := c.sinks.alert.toAdmin
  toAppOwner := c.sinks.alert.toAppOwner
  tables := c.reasonTables

/-- Refuses a sink without a server. -/
def check (a : Alert) : Except Fault Unit :=
  (checkServer .alert a.server).map fun _ => ()

/-- The warning about a cluster without a name. -/
def unnamedCluster : Log.Line :=
  ⟨.warn, "k8swatch::sink::alert",
    "k8s.clusterName is empty, alert subjects will lack a cluster name"⟩

/-- Refuses a sink without a server, and warns about a cluster without a name. -/
def prepare {σ : Type} (a : Alert) (carrier : Carrier σ) (s : σ) : Except Fault Alert × σ :=
  match a.check with
  | .error e => (.error e, s)
  | .ok _ => (.ok a, if a.clusterName = "" then carrier.note unnamedCluster s else s)

/-- Whether alerts of a tier are sent. -/
def forwards (a : Alert) : Tier → Bool
  | .admin => a.toAdmin
  | .appOwner => a.toAppOwner
  | _ => false

/-- What became of an event. -/
inductive Outcome where
  /-- It is no native event. -/
  | ignored
  /-- It happened too long ago. -/
  | stale
  /-- Its tier gets no alerts. -/
  | suppressed (tier : Tier)
  | sent (tier : Tier)
  | failed (tier : Tier)
  deriving DecidableEq, Repr

/-- The line that says what an alert is about. -/
def subject (a : Alert) (e : Event) (description : String) : String :=
  a.clusterName ++ " " ++ description ++ " " ++ e.namespaceName ++ "/" ++ e.service

/-- The body of an alert: the members of the record and the subject. -/
def body (a : Alert) (e : Event) (description : String) : Value :=
  .object (Json.Field.members Event.fields e ++ [("subject", .string (a.subject e description))])

/-- The request that sends an alert. -/
def request? (a : Alert) (e : Event) (c : Classification) : Option Request :=
  (Request.to? .post a.server).map fun r =>
    (r.withQuery [("receivertype", c.tier.name)]).withJson (a.body e c.description)

/-- Sends an event on, unless it is not worth an alert at the given time. -/
def process {σ : Type} (a : Alert) (carrier : Carrier σ) (now : Instant) (e : Event)
    (f : Effects σ) : Outcome × Effects σ :=
  if !e.isNative then (.ignored, f)
  else if e.isStale now then (.stale, f.count .stale)
  else
    -- only events that are native and recent are classified
    let c := a.tables.classify e
    if !a.forwards c.tier then (.suppressed c.tier, f)
    else
      let (outcome, network) := carrier.deliverSame .alert (a.request? e c) f.network
      let f := { f with network }
      match outcome with
      | .ok _ => (.sent c.tier, f.count .alert)
      | .error _ => (.failed c.tier, f.afterDelivery outcome)

end Alert

end ClusterWatch.Sink
