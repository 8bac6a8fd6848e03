import ClusterWatch.Event.Basic
import ClusterWatch.Resource.Key
/-!
# Flattening objects

The record of a change of an object. It exists for every object: what an object does not have
stays empty.

- `containerName?`: the container in a field path such as `spec.containers{web}`.
- `Event.ofResource`: the record of a change.
-/

namespace ClusterWatch

open Time (Instant)

/-- The mark in a field path after which the name of a container stands. -/
def containerMark : List Char :=
  "spec.containers\x7b".toList

/-- The container named in a field path: what stands between the first mark and the brace that
closes it, unless it is empty. -/
def containerName? (path : List Char) : Option (List Char) := do
  let (_, rest) ← Text.cut? containerMark path
  let (name, _) ← Text.cut? ['\x7d'] rest
  if name.isEmpty then none else some name

namespace Event

open Resource (Metadata Condition Occurrence Shape)

/-- The stamp of an instant that may be absent. -/
def stampOf (t : Option Instant) : String :=
  (t.map Instant.stamp).getD ""

/-- The last of the conditions decides on the time of a change. -/
def lastTime (conditions : List Condition) (time : Condition → Option Instant) : String :=
  stampOf (conditions.getLast?.bind time)

/-- The time of the last change of an updated object, for the shapes that have conditions. Nodes
report heartbeats, which count before transitions. -/
def conditionTime : Shape → String
  | .pod _ conditions | .deployment conditions | .replicaSet conditions
  | .replicationController conditions | .job conditions | .persistentVolumeClaim conditions =>
    lastTime conditions (·.transition)
  | .node conditions => lastTime conditions fun c => c.heartbeat <|> c.transition
  | _ => ""

/-- The host that an object names. -/
def hostOf (metadata : Metadata) : Shape → Option String
  | .pod nodeName _ => nodeName
  | .node _ => metadata.name
  | .event occurrence => occurrence.host
  | _ => none

/-- Adds what a native event reports. -/
def withOccurrence (e : Event) (o : Occurrence) : Event :=
  { e with
    involvedKind := o.involved.kind.getD ""
    involvedName := o.involved.name.getD ""
    involvedNamespace := o.involved.namespaceName.getD ""
    involvedVersion := o.involved.version.getD ""
    reason := o.reason.getD ""
    type := o.type.getD ""
    count := o.count.getD 0
    message := o.message.getD ""
    first := stampOf o.first
    -- some reporters give one time for an occurrence in place of a first and a last one
    last := stampOf (o.last <|> o.time)
    service := ((containerName? (o.involved.fieldPath.getD "").toList).map String.ofList).getD ""
    component := o.component.getD "" }

/-- Adds what the shape of a live object tells. -/
def withShape (e : Event) (action : Action) (shape : Shape) : Event :=
  match shape with
  | .service type => { e with component := type.getD "" }
  | .event occurrence => e.withOccurrence occurrence
  -- what the conditions of a new object say is no change
  | shape => if action = .update then { e with last := conditionTime shape } else e

/-- The part of a record that the metadata determine. -/
def ofMetadata (kind : String) (action : Action) (metadata : Metadata) : Event :=
  { kind, action
    namespaceName := metadata.namespaceName.getD ""
    name := metadata.name.getD ""
    version := metadata.version.getD ""
    created := stampOf metadata.created }

/-- An empty host and an absent one are shown alike. -/
def withHost (e : Event) (host : Option String) : Event :=
  { e with host := (host.filter fun h => !h.isEmpty).getD noHost }

/-- A record without a message gets the summary line. -/
def withMessage (e : Event) : Event :=
  if e.message.isEmpty then { e with message := e.summary } else e

/-- The record of a change of an object. -/
def ofResource (r : Resource) (action : Action) : Event :=
  match r with
  | .live metadata shape =>
    (((ofMetadata shape.kind.name action metadata).withShape action shape).withHost
      (hostOf metadata shape)).withMessage
  | .deleted kind key =>
    let (namespaceName, name) := Resource.splitKey key
    let e : Event := { kind, action, namespaceName := namespaceName.getD "", name }
    (e.withHost none).withMessage
  | .unrecognized kind metadata => ((ofMetadata kind action metadata).withHost none).withMessage

end Event

end ClusterWatch
