import ClusterWatch.Classification.Tables
import ClusterWatch.Controller.Basic
import ClusterWatch.Resource.Kind
import ClusterWatch.Retry
/-!
# Configuration

What an operator can set. Every setting has a default.

- `Config`: the settings, by section.
- `Config.withOverrides`: the settings under the options of the command line.
- `Config.tuning`, `Config.retryPolicy`, `Config.reasonTables`: what follows for the parts of the
  watcher.
-/

namespace ClusterWatch

open Time (Span)

namespace Config

/-- The connection to the cluster. -/
structure Cluster where
  /-- The name of the cluster in alerts. -/
  name : String := ""
  /-- The path of the file that tells how to reach the cluster. -/
  kubeconfig : Option String := none
  deriving DecidableEq, Inhabited

/-- How log records are written. -/
inductive LogFormat where
  /-- One JSON object a line. -/
  | json
  /-- For people. -/
  | plain
  deriving DecidableEq, Repr, Inhabited

/-- The name of a log format. -/
def LogFormat.name : LogFormat → String
  | json => "json"
  | plain => "plain"

/-- How writes of sinks are retried. -/
structure Retries where
  maxAttempts : UInt32 := 5
  initialDelayMillis : UInt64 := 10000
  maxDelayMillis : UInt64 := 300000
  deriving DecidableEq, Inhabited

/-- The settings of the process. -/
structure Process where
  /-- The port of the query interface. -/
  httpPort : UInt16 := 8080
  /-- The number of workers of each controller. -/
  workers : UInt64 := 1
  /-- Which log records are written, unless the environment says. -/
  logLevel : String := "info"
  logFormat : LogFormat := .json
  /-- Where traces and counters are sent. -/
  exportEndpoint : Option String := none
  /-- Whether every event is logged. -/
  logEvents : Bool := true
  /-- How long a controller waits for its cache. -/
  syncTimeoutSeconds : UInt64 := 60
  retries : Retries := {}
  deriving DecidableEq, Inhabited

/-- Whether the resources of a name are watched. -/
structure Toggle where
  name : String := ""
  enabled : Bool := false
  deriving DecidableEq, Inhabited

/-- Alerts. -/
structure Alerting where
  enabled : Bool := false
  /-- Whether alerts go to the administrators. -/
  toAdmin : Bool := false
  /-- Whether alerts go to the owners of applications. -/
  toAppOwner : Bool := false
  server : String := ""
  /-- The namespaces whose alerts go to the administrators, in place of the built-in ones. -/
  escalationNamespaces : Option (List String) := none
  deriving DecidableEq, Inhabited

/-- Messages to a web service. -/
structure Webhook where
  enabled : Bool := false
  url : String := ""
  deriving DecidableEq, Inhabited

/-- Documents in a search index. -/
structure SearchIndex where
  enabled : Bool := false
  /-- The servers, which take turns. -/
  servers : List String := []
  index : String := "k8swatch"
  deriving DecidableEq, Inhabited

/-- Points in a time series. -/
structure TimeSeries where
  enabled : Bool := false
  server : String := ""
  user : String := ""
  password : String := ""
  database : String := ""
  deriving DecidableEq, Inhabited

/-- Messages on a bus. -/
structure MessageBus where
  enabled : Bool := false
  servers : List String := []
  /-- The exchange that messages are published to. -/
  exchange : String := ""
  exchangeType : String := "topic"
  /-- Whether the exchange and the queue outlive a restart of the bus. -/
  durable : Bool := true
  /-- The routing key, which is the name of the queue as well. -/
  routingKey : String := ""
  user : String := ""
  password : String := ""
  virtualHost : String := "/"
  deriving DecidableEq, Inhabited

/-- The settings of the sinks. -/
structure Sinks where
  alert : Alerting := {}
  webhook : Webhook := {}
  searchIndex : SearchIndex := {}
  timeSeries : TimeSeries := {}
  messageBus : MessageBus := {}
  deriving DecidableEq, Inhabited

end Config

/-- All settings. -/
structure Config where
  cluster : Config.Cluster := {}
  process : Config.Process := {}
  resources : List Config.Toggle := []
  sinks : Config.Sinks := {}
  deriving DecidableEq, Inhabited

namespace Config

/-- The settings with those of the command line in place of the file's. -/
def withOverrides (c : Config) (workers : Option UInt64) (httpPort : Option UInt16) : Config :=
  { c with process := { c.process with
      workers := workers.getD c.process.workers
      httpPort := httpPort.getD c.process.httpPort } }

/-- How controllers do their work. -/
def tuning (c : Config) : Controller.Tuning :=
  let p := c.process
  { (default : Controller.Tuning) with
    workers := p.workers.toNat
    syncTimeout := .ofSeconds p.syncTimeoutSeconds.toNat p.syncTimeoutSeconds.toNat_lt }

/-- How writes of sinks are retried. -/
def retryPolicy (c : Config) : RetryPolicy :=
  let r := c.process.retries
  { attempts := r.maxAttempts.toNat
    initialDelay := .ofMillis r.initialDelayMillis.toNat r.initialDelayMillis.toNat_lt
    maxDelay := .ofMillis r.maxDelayMillis.toNat r.maxDelayMillis.toNat_lt }

/-- How events are classified. -/
def reasonTables (c : Config) : ReasonTables :=
  match c.sinks.alert.escalationNamespaces with
  | some names => ReasonTables.builtin.withEscalation names
  | none => .builtin

/-- What is logged and where counters are sent. An export endpoint may also come from the
environment; an empty one counts as none. -/
def exportEndpoint (c : Config) (environment : Option String) : Option String :=
  (c.process.exportEndpoint <|> environment).filter (· ≠ "")

end Config

end ClusterWatch
