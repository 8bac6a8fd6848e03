import ClusterWatch.Config.Basic
import ClusterWatch.Json.Format
/-!
# The form of the configuration

The names under which settings stand in a configuration file, section by section. A setting that
is left out keeps its default, and unknown names are passed over.

- `Config.format`: the whole configuration.
-/

namespace ClusterWatch.Config

open Json (Format)

/-- A path of a file. -/
def pathFormat : Format String where
  write := .string
  read
    | .string s => .ok s
    | v => .error (.wrongType v "path string")

/-- The fields of the connection to the cluster. -/
def Cluster.fields : List (Json.Field Cluster) :=
  [.of "clusterName" .text (·.name) fun x c => { c with name := x },
    .of "kubeconfig" (.optional pathFormat) (·.kubeconfig) fun x c => { c with kubeconfig := x }]

/-- The connection to the cluster. -/
def Cluster.format : Format Cluster :=
  .record "K8sConfig" Cluster.fields {}

/-- Log formats stand for themselves by name. -/
def LogFormat.format : Format LogFormat :=
  .names ([LogFormat.json, .plain].map fun f => (f.name, f)) LogFormat.name

/-- The fields of retries. -/
def Retries.fields : List (Json.Field Retries) :=
  [.of "maxAttempts" .unsigned32 (·.maxAttempts) fun x r => { r with maxAttempts := x },
    .of "initialDelayMs" .unsigned64 (·.initialDelayMillis) fun x r =>
      { r with initialDelayMillis := x },
    .of "maxDelayMs" .unsigned64 (·.maxDelayMillis) fun x r => { r with maxDelayMillis := x }]

/-- Retries. -/
def Retries.format : Format Retries :=
  .record "RetrySettings" Retries.fields {}

/-- The fields of the settings of the process. -/
def Process.fields : List (Json.Field Process) :=
  [.of "httpPort" .unsigned16 (·.httpPort) fun x p => { p with httpPort := x },
    .of "threadiness" .count64 (·.workers) fun x p => { p with workers := x },
    .of "logLevel" .text (·.logLevel) fun x p => { p with logLevel := x },
    .of "logFormat" LogFormat.format (·.logFormat) fun x p => { p with logFormat := x },
    .of "otlpEndpoint" (.optional .text) (·.exportEndpoint) fun x p =>
      { p with exportEndpoint := x },
    .of "logEvents" .boolean (·.logEvents) fun x p => { p with logEvents := x },
    .of "syncTimeoutSecs" .unsigned64 (·.syncTimeoutSeconds) fun x p =>
      { p with syncTimeoutSeconds := x },
    .of "retry" Retries.format (·.retries) fun x p => { p with retries := x }]

/-- The settings of the process. -/
def Process.format : Format Process :=
  .record "Settings" Process.fields {}

/-- The fields of an entry about resources. -/
def Toggle.fields : List (Json.Field Toggle) :=
  [.of "name" .text (·.name) fun x t => { t with name := x },
    .of "enable" .boolean (·.enabled) fun x t => { t with enabled := x }]

/-- Whether the resources of a name are watched. -/
def Toggle.format : Format Toggle :=
  .record "ResourceToggle" Toggle.fields {}

/-- The fields of alerts. -/
def Alerting.fields : List (Json.Field Alerting) :=
  [.of "enable" .boolean (·.enabled) fun x a => { a with enabled := x },
    .of "enableAdminAlert" .boolean (·.toAdmin) fun x a => { a with toAdmin := x },
    .of "enableAppOwnerAlert" .boolean (·.toAppOwner) fun x a => { a with toAppOwner := x },
    .of "server" .text (·.server) fun x a => { a with server := x },
    .of "escalationNamespaces" (.optional (.list .text)) (·.escalationNamespaces) fun x a =>
      { a with escalationNamespaces := x }]

/-- Alerts. -/
def Alerting.format : Format Alerting :=
  .record "AlertConfig" Alerting.fields {}

/-- The fields of messages to a web service. -/
def Webhook.fields : List (Json.Field Webhook) :=
  [.of "enable" .boolean (·.enabled) fun x w => { w with enabled := x },
    .of "url" .text (·.url) fun x w => { w with url := x }]

/-- Messages to a web service. -/
def Webhook.format : Format Webhook :=
  .record "WebhookConfig" Webhook.fields {}

/-- The fields of documents in a search index. -/
def SearchIndex.fields : List (Json.Field SearchIndex) :=
  [.of "enable" .boolean (·.enabled) fun x s => { s with enabled := x },
    .of "servers" (.list .text) (·.servers) fun x s => { s with servers := x },
    .of "index" .text (·.index) fun x s => { s with index := x }]

/-- Documents in a search index. -/
def SearchIndex.format : Format SearchIndex :=
  .record "ElasticsearchConfig" SearchIndex.fields {}

/-- The fields of points in a time series. -/
def TimeSeries.fields : List (Json.Field TimeSeries) :=
  [.of "enable" .boolean (·.enabled) fun x s => { s with enabled := x },
    .of "server" .text (·.server) fun x s => { s with server := x },
    .of "userName" .text (·.user) fun x s => { s with user := x },
    .of "password" .text (·.password) fun x s => { s with password := x },
    .of "dbName" .text (·.database) fun x s => { s with database := x }]

/-- Points in a time series. -/
def TimeSeries.format : Format TimeSeries :=
  .record "InfluxDbConfig" TimeSeries.fields {}

/-- The fields of messages on a bus. -/
def MessageBus.fields : List (Json.Field MessageBus) :=
  [.of "enable" .boolean (·.enabled) fun x b => { b with enabled := x },
    .of "servers" (.list .text) (·.servers) fun x b => { b with servers := x },
    .of "topicName" .text (·.exchange) fun x b => { b with exchange := x },
    .of "exchangeType" .text (·.exchangeType) fun x b => { b with exchangeType := x },
    .of "durable" .boolean (·.durable) fun x b => { b with durable := x },
    .of "routeKey" .text (·.routingKey) fun x b => { b with routingKey := x },
    .of "userName" .text (·.user) fun x b => { b with user := x },
    .of "password" .text (·.password) fun x b => { b with password := x },
    .of "vhost" .text (·.virtualHost) fun x b => { b with virtualHost := x }]

/-- Messages on a bus. -/
def MessageBus.format : Format MessageBus :=
  .record "RabbitMqConfig" MessageBus.fields {}

/-- The fields of the settings of the sinks. -/
def Sinks.fields : List (Json.Field Sinks) :=
  [.of "alert" Alerting.format (·.alert) fun x s => { s with alert := x },
    .of "webhook" Webhook.format (·.webhook) fun x s => { s with webhook := x },
    .of "elasticsearch" SearchIndex.format (·.searchIndex) fun x s =>
      { s with searchIndex := x },
    .of "influxdb" TimeSeries.format (·.timeSeries) fun x s => { s with timeSeries := x },
    .of "rabbitmq" MessageBus.format (·.messageBus) fun x s => { s with messageBus := x }]

/-- The settings of the sinks. -/
def Sinks.format : Format Sinks :=
  .record "HandlersConfig" Sinks.fields {}

/-- The sections of a configuration. -/
def fields : List (Json.Field Config) :=
  [.of "k8s" Cluster.format (·.cluster) fun x c => { c with cluster := x },
    .of "settings" Process.format (·.process) fun x c => { c with process := x },
    .of "resources" (.list Toggle.format) (·.resources) fun x c => { c with resources := x },
    .of "handlers" Sinks.format (·.sinks) fun x c => { c with sinks := x }]

/-- The whole configuration. -/
def format : Format Config :=
  .record "Config" fields {}

end ClusterWatch.Config
