import ClusterWatch.Config.Format
import ClusterWatch.Yaml.Document
import ClusterWatch.Yaml.Json
/-!
# Configuration documents

A configuration is written as a YAML document; an empty document leaves all defaults.

- `Config.DocumentError`: why a text is no configuration.
- `Config.ofNode`: the configuration that a node denotes.
- `Config.ofYaml`: the configuration that a text denotes. Of several documents the first counts,
  but all have to be well formed.
- `Config.validate`: refuses settings that cannot work.
- `Config.enabledKinds`: the kinds of resources to watch.
-/

namespace ClusterWatch.Config

open Json (Value)

/-- Why a text is no configuration. -/
inductive DocumentError where
  | notYaml (e : Yaml.Error)
  | notJson (e : Yaml.JsonError)
  | mismatch (e : Json.DecodeError)

/-- The wording of an error. -/
def DocumentError.message : DocumentError → String
  | notYaml e => e.message
  | notJson e => e.message
  | mismatch e => e.message

/-- The fault of an error. -/
def DocumentError.toFault (e : DocumentError) : Fault :=
  .configuration e.message

/-- The configuration of a tree. Members are read in the order of their names. -/
def ofTree (v : Value) : Except Json.DecodeError Config :=
  -- an empty document leaves every setting out
  format.read (match v.sorted with
    | .null => .object []
    | v => v)

/-- The configuration that a node denotes. -/
def ofNode (n : Yaml.Node) : Except DocumentError Config :=
  match n.toJson with
  | .error e => .error (.notJson e)
  | .ok v => (ofTree v).mapError .mismatch

/-- The configuration that a text denotes. -/
def ofYaml (text : String) : Except DocumentError Config :=
  match Yaml.documents text with
  | .error e => .error (.notYaml e)
  | .ok documents => ofNode (documents.headD .null)

/-- Settings that cannot work. -/
def invalid {α : Type} (reason : String) : Except Fault α :=
  .error (.configuration reason)

/-- Refuses sinks that lack what they need. -/
def Sinks.validate (s : Sinks) : Except Fault Unit :=
  if s.alert.enabled ∧ s.alert.server = "" then
    invalid "handlers.alert.server is required when alert is enabled"
  else if s.searchIndex.enabled ∧ s.searchIndex.servers = [] then
    invalid "handlers.elasticsearch.servers is required when elasticsearch is enabled"
  else if s.timeSeries.enabled ∧ (s.timeSeries.server = "" ∨ s.timeSeries.database = "") then
    invalid "handlers.influxdb.server and dbName are required when influxdb is enabled"
  else if s.messageBus.enabled ∧ (s.messageBus.servers = [] ∨ s.messageBus.exchange = "") then
    invalid "handlers.rabbitmq.servers and topicName are required when rabbitmq is enabled"
  else .ok ()

/-- Refuses settings that cannot work. -/
def validate (c : Config) : Except Fault Unit :=
  if c.process.workers = 0 then invalid "settings.threadiness must be at least 1"
  else
    -- names are checked even where the kind is not enabled
    match c.resources.mapM fun r => Resource.Kind.named r.name with
    | .error fault => .error fault
    | .ok _ => c.sinks.validate

/-- A list without those that came before. -/
def withoutRepeats (kinds : List Resource.Kind) : List Resource.Kind :=
  kinds.foldl (fun found k => if k ∈ found then found else found ++ [k]) []

/-- The kinds of resources to watch, in the order of the configuration. -/
def enabledKinds (c : Config) : Except Fault (List Resource.Kind) :=
  ((c.resources.filter (·.enabled)).mapM fun r => Resource.Kind.named r.name).map withoutRepeats

end ClusterWatch.Config
