import ClusterWatch.Kubeconfig
/-!
# Failures to start

Why the program gives up before it watches anything.

- `Startup.Failure`: the reasons.
- `Failure.text`: the complaint, with all causes of the failure below it.
-/

namespace ClusterWatch.Startup

/-- Why the program gives up. -/
inductive Failure where
  /-- The configuration cannot be read. -/
  | configuration (fault : Fault)
  /-- The settings cannot work. -/
  | settings (fault : Fault)
  /-- The address to which traces and counters are sent is none. -/
  | exporting (e : Http.EndpointError)
  /-- A resource to watch is of no known kind. -/
  | resources (fault : Fault)
  /-- The file that tells how to reach the cluster cannot be read. -/
  | kubeconfig (path : String) (e : Kubeconfig.Error)
  /-- The file does not tell how to reach the cluster. -/
  | cluster (e : Kubeconfig.Error)
  /-- No file was named, and no cluster was found without. -/
  | noCluster (e : Kubeconfig.Error)

namespace Failure

/-- What failed. -/
def summary : Failure → String
  | configuration _ => "failed to load configuration"
  | settings _ => "invalid configuration"
  | exporting _ => "failed to initialize telemetry"
  | resources fault => fault.message?.getD ""
  | kubeconfig path _ => "failed to read kubeconfig " ++ path
  | cluster _ => "invalid kubeconfig"
  | noCluster _ => "failed to create Kubernetes client"

/-- What is said of a cluster that was not found: the program does not run inside of one, and there
is no usual file either. -/
def searchText (e : Kubeconfig.Error) : String :=
  "failed to infer config: in-cluster: (failed to read an incluster environment variable: " ++
    "environment variable not found), kubeconfig: (" ++ e.messages.headD "" ++ ")"

/-- The causes, each one followed by its own. -/
def causes : Failure → List String
  | configuration fault => fault.message?.toList
  | settings fault => fault.message?.toList
  | exporting e =>
    ["failed to build OTLP span exporter: Exporter otlp encountered the following error(s): " ++
      "invalid URI " ++ e.message]
  | resources _ => []
  | kubeconfig _ e => e.messages
  | cluster e => e.messages
  | noCluster e =>
    ("Failed to infer configuration: " ++ searchText e) :: searchText e :: e.messages

/-- A text whose lines after the first are indented. -/
def hanging (indent text : String) : String :=
  ("\n" ++ indent).intercalate (text.splitToList (· = '\n'))

/-- The lines of the causes. They are numbered if there are several. -/
def causeLines : List String → List String
  | [] => []
  | [cause] => ["    " ++ hanging "    " cause]
  | causes => causes.zipIdx.map fun (cause, i) =>
    let number := toString i
    String.ofList (List.replicate (5 - number.length) ' ') ++ number ++ ": " ++
      hanging "       " cause

/-- The complaint about a failure. -/
def text (f : Failure) : String :=
  let below := match causeLines f.causes with
    | [] => []
    | lines => "" :: "Caused by:" :: lines
  "\n".intercalate (("Error: " ++ f.summary) :: below) ++ "\n"

end Failure

end ClusterWatch.Startup
