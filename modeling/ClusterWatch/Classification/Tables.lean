/-!
# Reason tables

Which receivers the known reasons of native events concern, and how an alert describes them.

- `ReasonTables`: the four tables and the namespaces whose user events concern administrators.
- `ReasonTables.builtin`: the tables the watcher comes with.
- `ReasonTables.escalates`: whether user events of a namespace concern administrators.
-/

namespace ClusterWatch

/-- Descriptions by reason, one table for each kind of receiver. -/
structure ReasonTables where
  /-- Reasons that concern the owner of an application. -/
  user : List (String × String)
  /-- Reasons that concern the administrators of the cluster. -/
  admin : List (String × String)
  /-- Reasons that concern nobody. -/
  normal : List (String × String)
  /-- Reasons that are worth noting. -/
  warning : List (String × String)
  /-- The namespaces whose user reasons concern the administrators. -/
  escalation : List String
  deriving DecidableEq, Repr

namespace ReasonTables

/-- The reasons that concern the owner of an application. -/
def userReasons : List (String × String) :=
  [("HostPortConflict", "Host port conflict, configure a free port"),
    ("BackOff", "BackOff"),
    ("CrashLoopBackOff", "Container failed to start"),
    ("Killing", "Container was killed")]

/-- The reasons that concern the administrators. -/
def adminReasons : List (String × String) :=
  [("SystemOOM", "Node system ran out of memory"),
    ("FailedCreatePodContainer", "Failed to create container"),
    ("Evicted", "Pod evicted because of node pressure"),
    ("DeletingAllPods", "Deleting all pods on node"),
    ("FailedCreate", "FailedCreate"),
    ("ReplicaSetCreateError", "ReplicaSetCreateError"),
    ("EvictionThresholdMet", "Disk space low, attempting to reclaim"),
    ("FailedToStartNodeHealthcheck", "FailedToStartNodeHealthcheck"),
    ("NodeHasDiskPressure", "Kubelet is under disk pressure"),
    ("NodeNotReady", "Node is not ready"),
    ("NodeHasInsufficientMemory", "Node has insufficient memory"),
    ("InvalidDiskCapacity", "InvalidDiskCapacity"),
    ("FreeDiskSpaceFailed", "FreeDiskSpaceFailed"),
    ("InsufficientFreeCPU", "Insufficient free CPU"),
    ("InsufficientFreeMemory", "Insufficient free memory"),
    ("HostNetworkNotSupported", "HostNetworkNotSupported"),
    ("Failed", "Failed"),
    ("NodeNotSchedulable", "Node is not schedulable"),
    ("KubeletSetupFailed", "KubeletSetupFailed"),
    ("FailedAttachVolume", "FailedAttachVolume"),
    ("FailedDetachVolume", "FailedDetachVolume"),
    ("VolumeResizeFailed", "VolumeResizeFailed"),
    ("FileSystemResizeFailed", "FileSystemResizeFailed"),
    ("FailedUnMount", "FailedUnMount"),
    ("FailedUnmapDevice", "FailedUnmapDevice"),
    ("NodeSelectorMismatching", "NodeSelectorMismatching"),
    ("NilShaper", "NilShaper"),
    ("Rebooted", "Rebooted"),
    ("ContainerGCFailed", "ContainerGCFailed"),
    ("ErrImageNeverPull", "ErrImageNeverPull"),
    ("NetworkNotReady", "NetworkNotReady"),
    ("FailedKillPod", "FailedKillPod"),
    ("RemovingNode", "Node is being removed"),
    ("FailedMount", "FailedMount"),
    ("FailedScheduling", "Scheduling failed")]

/-- The reasons that concern nobody. -/
def normalReasons : List (String × String) :=
  [("NodeSchedulable", "NodeSchedulable"),
    ("NodeReady", "NodeReady"),
    ("Pulling", "Pulling"),
    ("Scheduled", "Scheduled"),
    ("Pulled", "Pulled"),
    ("Started", "Started"),
    ("Created", "Created"),
    ("CREATE", "CREATE"),
    ("UPDATE", "UPDATE"),
    ("DELETE", "DELETE"),
    ("Starting", "Starting"),
    ("SuccessfulMountVolume", "SuccessfulMountVolume"),
    ("SuccessfulCreate", "SuccessfulCreate"),
    ("SuccessfulDelete", "SuccessfulDelete"),
    ("ScalingReplicaSet", "ScalingReplicaSet"),
    ("RegisteredNode", "RegisteredNode"),
    ("LeaderElection", "LeaderElection"),
    ("CreatedLoadBalancer", "CreatedLoadBalancer"),
    ("NodeHasNoDiskPressure", "Node has no disk pressure"),
    ("NodeHasSufficientMemory", "Node has sufficient memory"),
    ("NodeHasSufficientDisk", "Node has sufficient disk"),
    ("SandboxChanged", "SandboxChanged"),
    ("FailedCreatePodSandBox", "FailedCreatePodSandBox"),
    ("FailedPodSandBoxStatus", "FailedPodSandBoxStatus")]

/-- The reasons that are worth noting. -/
def warningReasons : List (String × String) :=
  [("Unhealthy", "Container health check reported Unhealthy"),
    ("FailedSync", "FailedSync"),
    ("FailedPostStartHook", "Container post-start hook failed"),
    ("FailedPreStopHook", "Container pre-stop hook failed"),
    ("ImageGCFailed", "ImageGCFailed"),
    ("FailedDaemonPod", "FailedDaemonPod"),
    ("NodeControllerEviction", "Marking pods on node for deletion"),
    ("NodeAllocatableEnforced", "NodeAllocatableEnforced"),
    ("ProbeWarning", "Health check reported a warning"),
    ("UnfinishedPreStopHook", "Pre-stop hook exceeded its timeout, container force-killed")]

/-- The namespaces that belong to the administrators. -/
def adminNamespaces : List String :=
  ["kube-system", "kube-public", "default", "ingress-nginx", "ingress-nginx-blue", "cre",
    "monitoring", "ops", "weave"]

/-- The tables the watcher comes with. -/
def builtin : ReasonTables where
  user := userReasons
  admin := adminReasons
  normal := normalReasons
  warning := warningReasons
  escalation := adminNamespaces

/-- The same tables with other escalation namespaces. -/
def withEscalation (tables : ReasonTables) (namespaces : List String) : ReasonTables :=
  { tables with escalation := namespaces }

/-- Whether user reasons in a namespace concern the administrators. -/
def escalates (tables : ReasonTables) (namespaceName : String) : Bool :=
  tables.escalation.contains namespaceName

end ReasonTables

end ClusterWatch
