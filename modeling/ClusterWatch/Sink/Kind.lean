import ClusterWatch.Event.Basic
/-!
# Kinds of sinks

The destinations that records can be delivered to, and the notifications that they get.

- `Sink.Kind`: the destinations, `SinkKind` in the program.
- `Sink.Notification`: what a delivery is about.
- `Sink.Slot`: a registered sink, which may be disabled. This is `SinkRegistration` without the
  sink.
- `Sink.enabledKinds`: `enabled_kinds` of a set of registered sinks.
-/

namespace ClusterWatch.Sink

/-- A destination of records. -/
inductive Kind where
  /-- One structured log record for each event. -/
  | log
  /-- Alerts to the people whom an event concerns. -/
  | alert
  /-- A message to any web service. -/
  | webhook
  /-- Documents in a search index. -/
  | elasticsearch
  /-- Points in a time series. -/
  | influxDb
  /-- Messages on a bus. -/
  | rabbitMq
  deriving DecidableEq, Repr, Inhabited

/-- The name of a kind in the configuration and in messages. -/
def Kind.name : Kind → String
  | log => "log"
  | alert => "alert"
  | webhook => "webhook"
  | elasticsearch => "elasticsearch"
  | influxDb => "influxdb"
  | rabbitMq => "rabbitmq"

/-- All kinds. -/
def Kind.all : List Kind :=
  [log, alert, webhook, elasticsearch, influxDb, rabbitMq]

/-- The kind of a name. -/
def Kind.ofName? (s : String) : Option Kind :=
  all.find? fun k => k.name == s

/-- What a delivery is about. -/
inductive Notification where
  /-- An object was created while the watcher was running. -/
  | created
  /-- An object changed. -/
  | updated
  /-- An object is gone. -/
  | deleted
  /-- An object was there before the watcher started. -/
  | replayed
  deriving DecidableEq, Repr, Inhabited

/-- The name of a notification in log records. -/
def Notification.name : Notification → String
  | created => "created"
  | updated => "updated"
  | deleted => "deleted"
  | replayed => "replayed"

/-- All notifications. -/
def Notification.all : List Notification :=
  [created, updated, deleted, replayed]

/-- The notification of a name. -/
def Notification.ofName? (s : String) : Option Notification :=
  all.find? fun n => n.name == s

/-- A registered sink. -/
structure Slot where
  kind : Kind
  /-- Whether records are delivered to it. -/
  enabled : Bool := true
  deriving DecidableEq, Repr, Inhabited

/-- The kinds that get records. -/
def enabledKinds (slots : List Slot) : List Kind :=
  (slots.filter (·.enabled)).map (·.kind)

end ClusterWatch.Sink
