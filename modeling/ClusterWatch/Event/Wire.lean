import ClusterWatch.Event.Basic
import ClusterWatch.Json.Format
/-!
# Event records in JSON

The members of an event record in the order in which they are written.

- `Action.format`: actions by their names.
- `Event.fields`, `Event.format`: the record. A missing member leaves its default.
- `Event.text`: the compact JSON text of a record.
-/

namespace ClusterWatch

open Json (Format)

/-- Actions stand in JSON by their names. -/
def Action.format : Format Action :=
  .names ([.create, .update, .delete].map fun a => (a.name, a)) name

namespace Event

/-- The members of a record in wire order. -/
def fields : List (Json.Field Event) :=
  [.of "namespace" .text (·.namespaceName) fun x e => { e with namespaceName := x },
    .of "kind" .text (·.kind) fun x e => { e with kind := x },
    .of "component" .text (·.component) fun x e => { e with component := x },
    .of "host" .text (·.host) fun x e => { e with host := x },
    .of "reason" .text (·.reason) fun x e => { e with reason := x },
    .of "status" .text (·.status) fun x e => { e with status := x },
    .of "name" .text (·.name) fun x e => { e with name := x },
    .of "creationTimestamp" .text (·.created) fun x e => { e with created := x },
    .of "action" Action.format (·.action) fun x e => { e with action := x },
    .of "count" .signed32 (·.count) fun x e => { e with count := x },
    .of "short_message" .text (·.message) fun x e => { e with message := x },
    .of "type" .text (·.type) fun x e => { e with type := x },
    .of "firstTimestamp" .text (·.first) fun x e => { e with first := x },
    .of "lastTimestamp" .text (·.last) fun x e => { e with last := x },
    .of "serviceName" .text (·.service) fun x e => { e with service := x },
    .of "resourceVersion" .text (·.version) fun x e => { e with version := x },
    .of "involvedName" .text (·.involvedName) fun x e => { e with involvedName := x },
    .of "involvedNamespace" .text (·.involvedNamespace) fun x e =>
      { e with involvedNamespace := x },
    .of "involvedKind" .text (·.involvedKind) fun x e => { e with involvedKind := x },
    .of "involvedResourceVersion" .text (·.involvedVersion) fun x e =>
      { e with involvedVersion := x }]

/-- How a record stands in JSON. -/
def format : Format Event :=
  .record "CanonicalEvent" fields {}

/-- The JSON tree of a record. -/
def toJson (e : Event) : Json.Value :=
  format.write e

/-- The compact JSON text of a record. -/
def text (e : Event) : String :=
  e.toJson.text

end Event

end ClusterWatch
