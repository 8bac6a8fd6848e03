import ClusterWatch.Config.Basic
import ClusterWatch.Proofs.Yaml.Conversion
/-!
# The settings of a configuration

What a document has to say about each setting of a configuration, without regard to how documents
are read: where the setting stands, which nodes may stand there, and what they mean.

- `Config.Setting`: a setting of a record.
- `Setting.Told`: what a node says about a setting of a record that was made from another one.
- `Sectioned`: a node in which the settings stand in mappings.
- `Setting.Agree`: two nodes with the same in the place of a setting.
- `Config.settings`: all settings of a configuration.
- `Config.numbers`: those of them that are numbers.
-/

namespace ClusterWatch

/-- What stands under names in mappings inside each other. -/
def Yaml.Node.under (n : Yaml.Node) (path : List String) : Option Yaml.Node :=
  n.at? (path.map .member)

namespace Config

open Yaml (Node)

/-! ### What nodes mean -/

/-- A node that means a text. -/
def Text (n : Node) (s : String) : Prop :=
  n = .string s

/-- A node that means a truth value. -/
def Flag (n : Node) (b : Bool) : Prop :=
  n = .bool b

/-- A node that means a number of a type with bounds: the number itself, written as an integer. -/
def Count {α : Type} (toNat : α → Nat) (n : Node) (x : α) : Prop :=
  n = .integer (toNat x)

/-- A node that means one of several things with names: its name, or a mapping with nothing under
the name. -/
def Choice {α : Type} (name : α → String) (n : Node) (x : α) : Prop :=
  n = .string (name x) ∨ n = .mapping [(.string (name x), .null)]

/-- A node that means something or, if it is null, nothing. -/
def Perhaps {α : Type} (Means : Node → α → Prop) (n : Node) : Option α → Prop
  | none => n = .null
  | some x => n ≠ .null ∧ Means n x

/-- A node that means a list. -/
def Each {α : Type} (Means : Node → α → Prop) (n : Node) (xs : List α) : Prop :=
  ∃ items, n = .sequence items ∧ List.Forall₂ Means items xs

/-! ### Settings -/

/-- A setting of a record: the names under which it stands, inside each other, what a node there
means, which nodes there are the same to it, and where it is kept. -/
structure Setting (α : Type) where
  path : List String
  type : Type
  Means : Node → type → Prop
  Same : Node → Node → Prop
  get : α → type

namespace Setting

variable {α β : Type}

/-- A setting right in a record. -/
def leaf {type : Type} (name : String) (Means : Node → type → Prop) (get : α → type)
    (Same : Node → Node → Prop := Eq) : Setting α :=
  { path := [name], type, Means, Same, get }

/-- A setting of a section. -/
def within (name : String) (get : α → β) (s : Setting β) : Setting α :=
  { path := name :: s.path, type := s.type, Means := s.Means, Same := s.Same,
    get := fun a => s.get (get a) }

/-- What a node says about a setting of a record that was made from another one: the setting is what
stands in its place, and if nothing does it is as it was. -/
def Told (s : Setting α) (n : Node) (start a : α) : Prop :=
  match n.under s.path with
  | some w => s.Means w (s.get a)
  | none => s.get a = s.get start

/-- Two nodes have the same in the place of a setting, or both have nothing. -/
def Agree (s : Setting α) (n n' : Node) : Prop :=
  Option.Rel s.Same (n.under s.path) (n'.under s.path)

end Setting

/-- The settings stand in mappings: what is on the way to a setting is a mapping. -/
def Sectioned {α : Type} (settings : List (Setting α)) (n : Node) : Prop :=
  ∀ s ∈ settings, ∀ path, path <+: s.path → path ≠ s.path → ∀ w, n.under path = some w →
    ∃ members, w = .mapping members

/-! ### The settings of the sections -/

def Cluster.settings : List (Setting Cluster) :=
  [.leaf "clusterName" Text (·.name), .leaf "kubeconfig" (Perhaps Text) (·.kubeconfig)]

def Retries.settings : List (Setting Retries) :=
  [.leaf "maxAttempts" (Count UInt32.toNat) (·.maxAttempts),
    .leaf "initialDelayMs" (Count UInt64.toNat) (·.initialDelayMillis),
    .leaf "maxDelayMs" (Count UInt64.toNat) (·.maxDelayMillis)]

def Process.settings : List (Setting Process) :=
  [.leaf "httpPort" (Count UInt16.toNat) (·.httpPort),
    .leaf "threadiness" (Count UInt64.toNat) (·.workers),
    .leaf "logLevel" Text (·.logLevel),
    .leaf "logFormat" (Choice LogFormat.name) (·.logFormat),
    .leaf "otlpEndpoint" (Perhaps Text) (·.exportEndpoint),
    .leaf "logEvents" Flag (·.logEvents),
    .leaf "syncTimeoutSecs" (Count UInt64.toNat) (·.syncTimeoutSeconds)] ++
  Retries.settings.map (.within "retry" (·.retries))

def Toggle.settings : List (Setting Toggle) :=
  [.leaf "name" Text (·.name), .leaf "enable" Flag (·.enabled)]

/-- A node that means an entry about resources: a mapping with its settings, or a sequence with them
one after the other, of which the last may be left out. -/
inductive Toggle.Entry : Node → Toggle → Prop
  | mapping (members : List (Node × Node)) (t : Toggle) :
      (∀ s ∈ Toggle.settings, s.Told (.mapping members) {} t) → Entry (.mapping members) t
  | nothing : Entry (.sequence []) {}
  | name (n : Node) (name : String) : Text n name → Entry (.sequence [n]) { name }
  | both (n m : Node) (name : String) (enabled : Bool) : Text n name → Flag m enabled →
      Entry (.sequence [n, m]) { name, enabled }

/-- Entries that are the same: equal, or mappings with the same settings. -/
inductive Toggle.Same : Node → Node → Prop
  | refl (n : Node) : Same n n
  | mapping (members members' : List (Node × Node)) :
      (∀ s ∈ Toggle.settings, s.Agree (.mapping members) (.mapping members')) →
      Same (.mapping members) (.mapping members')

/-- All entries about resources. -/
def Toggle.entries : Setting Config :=
  .leaf "resources" (Each Toggle.Entry) (·.resources) fun n n' =>
    n = n' ∨ ∃ items items', n = .sequence items ∧ n' = .sequence items' ∧
      List.Forall₂ Toggle.Same items items'

def Alerting.settings : List (Setting Alerting) :=
  [.leaf "enable" Flag (·.enabled),
    .leaf "enableAdminAlert" Flag (·.toAdmin),
    .leaf "enableAppOwnerAlert" Flag (·.toAppOwner),
    .leaf "server" Text (·.server),
    .leaf "escalationNamespaces" (Perhaps (Each Text)) (·.escalationNamespaces)]

def Webhook.settings : List (Setting Webhook) :=
  [.leaf "enable" Flag (·.enabled), .leaf "url" Text (·.url)]

def SearchIndex.settings : List (Setting SearchIndex) :=
  [.leaf "enable" Flag (·.enabled), .leaf "servers" (Each Text) (·.servers),
    .leaf "index" Text (·.index)]

def TimeSeries.settings : List (Setting TimeSeries) :=
  [.leaf "enable" Flag (·.enabled), .leaf "server" Text (·.server),
    .leaf "userName" Text (·.user), .leaf "password" Text (·.password),
    .leaf "dbName" Text (·.database)]

def MessageBus.settings : List (Setting MessageBus) :=
  [.leaf "enable" Flag (·.enabled),
    .leaf "servers" (Each Text) (·.servers),
    .leaf "topicName" Text (·.exchange),
    .leaf "exchangeType" Text (·.exchangeType),
    .leaf "durable" Flag (·.durable),
    .leaf "routeKey" Text (·.routingKey),
    .leaf "userName" Text (·.user),
    .leaf "password" Text (·.password),
    .leaf "vhost" Text (·.virtualHost)]

def Sinks.settings : List (Setting Sinks) :=
  Alerting.settings.map (.within "alert" (·.alert)) ++
  Webhook.settings.map (.within "webhook" (·.webhook)) ++
  SearchIndex.settings.map (.within "elasticsearch" (·.searchIndex)) ++
  TimeSeries.settings.map (.within "influxdb" (·.timeSeries)) ++
  MessageBus.settings.map (.within "rabbitmq" (·.messageBus))

/-- All settings of a configuration. -/
def settings : List (Setting Config) :=
  Cluster.settings.map (.within "k8s" (·.cluster)) ++
  Process.settings.map (.within "settings" (·.process)) ++ [Toggle.entries] ++
  Sinks.settings.map (.within "handlers" (·.sinks))

/-- The mappings in which settings stand, by the names on the way to them. -/
def sections : List (List String) :=
  [[], ["k8s"], ["settings"], ["settings", "retry"], ["handlers"], ["handlers", "alert"],
    ["handlers", "webhook"], ["handlers", "elasticsearch"], ["handlers", "influxdb"],
    ["handlers", "rabbitmq"]]

/-- A setting that is a number: where it stands, the bound of its type, and the number. -/
structure Number where
  path : List String
  bound : Nat
  get : Config → Nat

/-- The settings that are numbers. -/
def numbers : List Number :=
  [⟨["settings", "httpPort"], UInt16.size, (·.process.httpPort.toNat)⟩,
    ⟨["settings", "threadiness"], UInt64.size, (·.process.workers.toNat)⟩,
    ⟨["settings", "syncTimeoutSecs"], UInt64.size, (·.process.syncTimeoutSeconds.toNat)⟩,
    ⟨["settings", "retry", "maxAttempts"], UInt32.size, (·.process.retries.maxAttempts.toNat)⟩,
    ⟨["settings", "retry", "initialDelayMs"], UInt64.size,
      (·.process.retries.initialDelayMillis.toNat)⟩,
    ⟨["settings", "retry", "maxDelayMs"], UInt64.size, (·.process.retries.maxDelayMillis.toNat)⟩]

end Config

end ClusterWatch
