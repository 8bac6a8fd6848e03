import ClusterWatch.Resource.Basic
import ClusterWatch.Time.Rfc3339
/-!
# Manifests

Reading cluster objects from their JSON form. Members that the watcher does not look at are passed
over, and null counts as absent.

- `Metadata.ofManifest`: the metadata of an object.
- `Shape.ofManifest`: the shape of an object of a known kind.
- `Resource.ofManifest`: an object of a known kind.
-/

namespace ClusterWatch.Resource

open Time (Instant)
open Json (Value)

/-- The value at the end of a path of members. -/
def at? : List String → Value → Option Value
  | [], v => some v
  | name :: path, v => (v.present? name).bind (at? path)

/-- The text at the end of a path. -/
def textAt? (path : List String) (v : Value) : Option String :=
  (at? path v).bind Value.text?

/-- The instant at the end of a path. -/
def instantAt? (path : List String) (v : Value) : Option Instant :=
  (textAt? path v).bind Instant.ofRfc3339?

/-- The metadata of an object. -/
def Metadata.ofManifest (v : Value) : Metadata where
  name := textAt? ["name"] v
  namespaceName := textAt? ["namespace"] v
  version := textAt? ["resourceVersion"] v
  created := instantAt? ["creationTimestamp"] v

/-- A condition of an object's status. -/
def Condition.ofManifest (v : Value) : Condition where
  transition := instantAt? ["lastTransitionTime"] v
  heartbeat := instantAt? ["lastHeartbeatTime"] v

/-- The conditions of an object's status. -/
def conditionsOf (v : Value) : List Condition :=
  (((at? ["status", "conditions"] v).bind Value.items?).getD []).map Condition.ofManifest

/-- The object that a native event is about. -/
def Reference.ofManifest (v : Value) : Reference where
  kind := textAt? ["kind"] v
  name := textAt? ["name"] v
  namespaceName := textAt? ["namespace"] v
  version := textAt? ["resourceVersion"] v
  fieldPath := textAt? ["fieldPath"] v

/-- What a native event reports. -/
def Occurrence.ofManifest (v : Value) : Occurrence where
  involved := ((at? ["involvedObject"] v).map Reference.ofManifest).getD {}
  reason := textAt? ["reason"] v
  type := textAt? ["type"] v
  message := textAt? ["message"] v
  count := ((at? ["count"] v).bind Value.int?).map Int32.ofInt
  first := instantAt? ["firstTimestamp"] v
  last := instantAt? ["lastTimestamp"] v
  time := instantAt? ["eventTime"] v
  component := textAt? ["source", "component"] v
  host := textAt? ["source", "host"] v

/-- The shape of an object of a kind. -/
def Shape.ofManifest (v : Value) : Kind → Shape
  | .pods => .pod (textAt? ["spec", "nodeName"] v) (conditionsOf v)
  | .nodes => .node (conditionsOf v)
  | .deployments => .deployment (conditionsOf v)
  | .daemonSets => .daemonSet
  | .replicaSets => .replicaSet (conditionsOf v)
  | .replicationControllers => .replicationController (conditionsOf v)
  | .jobs => .job (conditionsOf v)
  | .persistentVolumes => .persistentVolume
  | .persistentVolumeClaims => .persistentVolumeClaim (conditionsOf v)
  | .namespaces => .namespaceObject
  | .services => .service (textAt? ["spec", "type"] v)
  | .secrets => .secret
  | .configMaps => .configMap
  | .endpoints => .endpoints
  | .ingresses => .ingress
  | .roles => .role
  | .roleBindings => .roleBinding
  | .clusterRoles => .clusterRole
  | .clusterRoleBindings => .clusterRoleBinding
  | .events => .event (Occurrence.ofManifest v)

/-- An object of a known kind. -/
def ofManifest (kind : Kind) (v : Value) : Resource :=
  .live (((at? ["metadata"] v).map Metadata.ofManifest).getD {}) (Shape.ofManifest v kind)

end ClusterWatch.Resource
