import ClusterWatch.Fault
import ClusterWatch.Json.Format
/-!
# Resource kinds

The resource types that can be watched, known by their plural names.

- `Resource.Kind`: the kinds.
- `Kind.name`, `Kind.ofName?`: a kind's plural name and back.
- `Kind.all`: the kinds in their order.
-/

namespace ClusterWatch.Resource

/-- A resource type that can be watched. -/
inductive Kind where
  | pods
  | nodes
  | deployments
  | daemonSets
  | replicaSets
  | replicationControllers
  | jobs
  | persistentVolumes
  | persistentVolumeClaims
  | namespaces
  | services
  | secrets
  | configMaps
  | endpoints
  | ingresses
  | roles
  | roleBindings
  | clusterRoles
  | clusterRoleBindings
  | events
  deriving DecidableEq, Repr, Inhabited

namespace Kind

/-- All kinds. -/
def all : List Kind :=
  [pods, nodes, deployments, daemonSets, replicaSets, replicationControllers, jobs,
    persistentVolumes, persistentVolumeClaims, namespaces, services, secrets, configMaps,
    endpoints, ingresses, roles, roleBindings, clusterRoles, clusterRoleBindings, events]

/-- The plural name of a kind. -/
def name : Kind → String
  | pods => "pods"
  | nodes => "nodes"
  | deployments => "deployments"
  | daemonSets => "daemonsets"
  | replicaSets => "replicasets"
  | replicationControllers => "replicationcontrollers"
  | jobs => "jobs"
  | persistentVolumes => "persistentvolumes"
  | persistentVolumeClaims => "persistentvolumeclaims"
  | namespaces => "namespaces"
  | services => "services"
  | secrets => "secrets"
  | configMaps => "configmaps"
  | endpoints => "endpoints"
  | ingresses => "ingresses"
  | roles => "roles"
  | roleBindings => "rolebindings"
  | clusterRoles => "clusterroles"
  | clusterRoleBindings => "clusterrolebindings"
  | events => "events"

/-- The kind of a plural name. -/
def ofName? (s : String) : Option Kind :=
  all.find? fun k => k.name == s

/-- The kind of a plural name that a configuration gives. -/
def named (s : String) : Except Fault Kind :=
  match ofName? s with
  | some k => .ok k
  | none => .error (.configuration ("unknown resource type: " ++ s))

/-- The position among all kinds. -/
def index (k : Kind) : Nat :=
  all.idxOf k

/-- Kinds stand in JSON by their names. -/
def format : Json.Format Kind :=
  .names (all.map fun k => (k.name, k)) name

end Kind

end ClusterWatch.Resource
