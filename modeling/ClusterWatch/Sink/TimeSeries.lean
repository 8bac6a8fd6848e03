import ClusterWatch.Config.Basic
import ClusterWatch.Sink.Delivery
import ClusterWatch.Sink.LinePoint
/-!
# Time series

Native events are written as points of a time series.

- `Sink.TimeSeries`: the settings of the sink, `InfluxDbSink` in the program.
- `TimeSeries.check`: its `init`.
- `TimeSeries.write`: writes the point of an event. This is `record`.
-/

namespace ClusterWatch.Sink

open Http (Request)
open Time (Instant)

/-- The settings of the time series sink. -/
structure TimeSeries where
  server : String
  user : String
  password : String
  database : String

namespace TimeSeries

/-- The sink of a configuration. -/
def ofConfig (c : Config) : TimeSeries where
  server := withoutSlashes c.sinks.timeSeries.server
  user := c.sinks.timeSeries.user
  password := c.sinks.timeSeries.password
  database := c.sinks.timeSeries.database

/-- Refuses a sink without a server or a database. -/
def check (t : TimeSeries) : Except Fault Unit := do
  let _ ← checkServer .influxDb t.server
  if t.database = "" then .error (Kind.influxDb.fault "dbName is empty") else .ok ()

/-- The request that writes a point. A user is named only if there is one. -/
def request? (t : TimeSeries) (point : LinePoint) : Option Request :=
  (Request.to? .post (t.server ++ "/write")).map fun r =>
    let r := { r.withQuery [("db", t.database), ("precision", "s")] with body := point.text }
    if t.user = "" then r else r.withUser t.user t.password

/-- Writes the point of a native event. -/
def write {σ : Type} (t : TimeSeries) (carrier : Carrier σ) (now : Instant) (e : Event)
    (f : Effects σ) : Effects σ :=
  if !e.isNative then f
  else
    let request := t.request? (.ofEvent e now)
    let (outcome, network) := carrier.deliverSame .influxDb request f.network
    { f with network }.afterDelivery outcome

end TimeSeries

end ClusterWatch.Sink
