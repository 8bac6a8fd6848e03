import ClusterWatch.Resource.Kind
import ClusterWatch.Time.Instant
/-!
# Cluster objects

The part of a cluster object that the watcher looks at: its metadata and, for some kinds, a few
fields of its own.

- `Resource.Metadata`: name, namespace, version and creation time, each of which may be absent.
- `Resource.Occurrence`: what a native event of the cluster reports.
- `Resource.Shape`: the kinds with the fields of their own.
- `Resource`: an object of a known shape, the stand-in for one that is gone, or an object of an
  unknown shape.
-/

namespace ClusterWatch

open Time (Instant)

namespace Resource

/-- The metadata of an object. -/
structure Metadata where
  name : Option String := none
  namespaceName : Option String := none
  version : Option String := none
  created : Option Instant := none
  deriving DecidableEq, Repr, Inhabited

/-- One condition in the status of an object. Only nodes have heartbeats. -/
structure Condition where
  transition : Option Instant := none
  heartbeat : Option Instant := none
  deriving DecidableEq, Repr, Inhabited

/-- The object that a native event is about. -/
structure Reference where
  kind : Option String := none
  name : Option String := none
  namespaceName : Option String := none
  version : Option String := none
  fieldPath : Option String := none
  deriving DecidableEq, Repr, Inhabited

/-- What a native event of the cluster reports. -/
structure Occurrence where
  involved : Reference := {}
  reason : Option String := none
  type : Option String := none
  message : Option String := none
  count : Option Int32 := none
  first : Option Instant := none
  last : Option Instant := none
  /-- The time of an event that has no time of its last occurrence. -/
  time : Option Instant := none
  component : Option String := none
  host : Option String := none
  deriving DecidableEq, Repr, Inhabited

/-- The shape of an object: its kind, with the fields that matter of each kind. -/
inductive Shape where
  | pod (nodeName : Option String) (conditions : List Condition)
  | node (conditions : List Condition)
  | deployment (conditions : List Condition)
  | daemonSet
  | replicaSet (conditions : List Condition)
  | replicationController (conditions : List Condition)
  | job (conditions : List Condition)
  | persistentVolume
  | persistentVolumeClaim (conditions : List Condition)
  | namespaceObject
  | service (type : Option String)
  | secret
  | configMap
  | endpoints
  | ingress
  | role
  | roleBinding
  | clusterRole
  | clusterRoleBinding
  | event (occurrence : Occurrence)
  deriving DecidableEq, Repr, Inhabited

/-- The kind of a shape. -/
def Shape.kind : Shape → Kind
  | pod .. => .pods
  | node .. => .nodes
  | deployment .. => .deployments
  | daemonSet => .daemonSets
  | replicaSet .. => .replicaSets
  | replicationController .. => .replicationControllers
  | job .. => .jobs
  | persistentVolume => .persistentVolumes
  | persistentVolumeClaim .. => .persistentVolumeClaims
  | namespaceObject => .namespaces
  | service .. => .services
  | secret => .secrets
  | configMap => .configMaps
  | endpoints => .endpoints
  | ingress => .ingresses
  | role => .roles
  | roleBinding => .roleBindings
  | clusterRole => .clusterRoles
  | clusterRoleBinding => .clusterRoleBindings
  | event .. => .events

end Resource

/-- An object of the cluster. -/
inductive Resource where
  /-- An object of a known shape. -/
  | live (metadata : Resource.Metadata) (shape : Resource.Shape)
  /-- The stand-in for an object that has left the cache. -/
  | deleted (kind key : String)
  /-- An object of any other shape. -/
  | unrecognized (kind : String) (metadata : Resource.Metadata)
  deriving DecidableEq, Repr, Inhabited

namespace Resource

/-- The metadata, which the stand-in for a deleted object does not have. -/
def metadata? : Resource → Option Metadata
  | live metadata _ => some metadata
  | deleted .. => none
  | unrecognized _ metadata => some metadata

/-- The plural name of the kind. -/
def kindName : Resource → String
  | live _ shape => shape.kind.name
  | deleted kind _ => kind
  | unrecognized kind _ => kind

/-- The version, when the metadata have one. -/
def version? (r : Resource) : Option String :=
  r.metadata?.bind (·.version)

/-- The time of creation, when the metadata have one. -/
def created? (r : Resource) : Option Instant :=
  r.metadata?.bind (·.created)

end Resource

end ClusterWatch
