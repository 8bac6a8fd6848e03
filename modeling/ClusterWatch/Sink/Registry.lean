import ClusterWatch.Sink.Alert
import ClusterWatch.Sink.MessageBus
import ClusterWatch.Sink.SearchIndex
import ClusterWatch.Sink.TimeSeries
import ClusterWatch.Sink.Webhook
/-!
# Registered sinks

The sinks of a configuration, once they are ready, and the delivery of an event to all of them.

- `Sink.Adapter`: a sink of any kind, whatever is a `Sink` in the program.
- `Adapter.prepare`: gets a sink ready, by its `init`.
- `Adapter.notify`: tells a sink about an event. The handlers `on_created`, `on_updated`,
  `on_deleted` and `on_replayed` are `Adapter.handle`, and `Adapter.listens` says which of them do
  nothing.
- `Sink.candidates`, `Sink.register`: the sinks of a configuration. One that does not get ready is
  left out. This is `resolve_sinks`.
- `Sink.dispatch`: tells all sinks about an event, one after the other; in what order the program's
  `dispatch` gets through with them is left to the steps of a controller.
-/

namespace ClusterWatch.Sink

open Time (Instant)

/-- A sink of any kind. -/
inductive Adapter where
  | log
  | alert (sink : Alert)
  | webhook (sink : Webhook)
  | searchIndex (sink : SearchIndex)
  | timeSeries (sink : TimeSeries)
  | messageBus (sink : MessageBus)

namespace Adapter

variable {σ : Type}

/-- The kind of a sink. -/
def kind : Adapter → Kind
  | log => .log
  | alert _ => .alert
  | webhook _ => .webhook
  | searchIndex _ => .elasticsearch
  | timeSeries _ => .influxDb
  | messageBus _ => .rabbitMq

/-- The sink of a kind with the settings of a configuration. -/
def ofConfig (c : Config) : Kind → Adapter
  | .log => log
  | .alert => alert (.ofConfig c)
  | .webhook => webhook (.ofConfig c)
  | .elasticsearch => searchIndex (.ofConfig c)
  | .influxDb => timeSeries (.ofConfig c)
  | .rabbitMq => messageBus (.ofConfig c)

/-- Gets a sink ready. `webhookUrl` is what the environment says about the webhook. -/
def prepare (carrier : Carrier σ) (webhookUrl : Option String) (a : Adapter) (s : σ) :
    Except Fault Adapter × σ :=
  match a with
  | log => (.ok log, s)
  | alert sink =>
    let (outcome, s) := sink.prepare carrier s
    (outcome.map alert, s)
  | webhook sink => ((sink.check webhookUrl).map webhook, s)
  | searchIndex sink => (sink.check.map fun _ => searchIndex sink, s)
  | timeSeries sink => (sink.check.map fun _ => timeSeries sink, s)
  | messageBus sink =>
    let (outcome, s) := sink.prepare carrier s
    (outcome.map messageBus, s)

/-- Whether a sink is told about a notification. -/
def listens : Adapter → Notification → Bool
  | log, _ => true
  | _, .created => true
  | _, .updated => true
  | webhook _, .deleted => true
  | messageBus _, .deleted => true
  | _, _ => false

/-- Lets a sink handle an event that it is told about. -/
def handle (carrier : Carrier σ) (now : Instant) (notification : Notification) (e : Event)
    (a : Adapter) (f : Effects σ) : Adapter × Effects σ :=
  match a with
  | log => (log, { f with records := f.records ++ [⟨notification, e⟩] })
  | alert sink => (alert sink, (sink.process carrier now e f).2)
  | webhook sink => (webhook sink, sink.notify carrier e f)
  | searchIndex sink =>
    let (sink, f) := sink.store carrier e f
    (searchIndex sink, f)
  | timeSeries sink => (timeSeries sink, sink.write carrier now e f)
  | messageBus sink => (messageBus sink, sink.publish carrier e f)

/-- Tells a sink about an event. -/
def notify (carrier : Carrier σ) (now : Instant) (notification : Notification) (e : Event)
    (a : Adapter) (f : Effects σ) : Adapter × Effects σ :=
  if a.listens notification then a.handle carrier now notification e f else (a, f)

end Adapter

variable {σ : Type}

/-- The kinds of sinks that a configuration asks for. -/
def candidates (c : Config) : List Kind :=
  Kind.all.filter fun
    | .log => c.process.logEvents
    | .alert => c.sinks.alert.enabled
    | .webhook => c.sinks.webhook.enabled
    | .elasticsearch => c.sinks.searchIndex.enabled
    | .influxDb => c.sinks.timeSeries.enabled
    | .rabbitMq => c.sinks.messageBus.enabled

/-- A line about the registration of sinks. -/
def registrationLine (level : Log.Level) (message : String) : Log.Line :=
  ⟨level, "k8swatch::sink", message⟩

/-- The line about a sink that did or did not get ready. -/
def preparationLine : Except Fault Adapter → Log.Line
  | .ok _ => registrationLine .info "Sink initialized"
  | .error _ => registrationLine .error "Sink failed to initialize, skipping"

/-- The sinks that get ready. -/
def prepareAll (carrier : Carrier σ) (webhookUrl : Option String) :
    List Adapter → σ → List Adapter × σ
  | [], s => ([], s)
  | a :: rest, s =>
    let (outcome, s) := a.prepare carrier webhookUrl s
    let (ready, s) := prepareAll carrier webhookUrl rest (carrier.note (preparationLine outcome) s)
    (outcome.toOption.toList ++ ready, s)

/-- The sinks of a configuration that get ready. -/
def register (carrier : Carrier σ) (webhookUrl : Option String) (c : Config) (s : σ) :
    List Adapter × σ :=
  let (ready, s) := prepareAll carrier webhookUrl ((candidates c).map (Adapter.ofConfig c)) s
  if ready.isEmpty then
    (ready, carrier.note (registrationLine .warn "No sinks registered, events will be dropped") s)
  else (ready, s)

/-- Tells all sinks about an event. -/
def dispatch (carrier : Carrier σ) (now : Instant) (notification : Notification) (e : Event) :
    List Adapter → Effects σ → List Adapter × Effects σ
  | [], f => ([], f)
  | a :: rest, f =>
    let (a, f) := a.notify carrier now notification e f
    let (rest, f) := dispatch carrier now notification e rest f
    (a :: rest, f)

end ClusterWatch.Sink
