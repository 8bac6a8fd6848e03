import ClusterWatch.CommandLine.Arguments
import ClusterWatch.Startup.Failure
import ClusterWatch.Startup.Service
/-!
# Starting the program

From the arguments of the program to the running controllers.

- `Startup.Surroundings`: what the program finds around itself.
- `Startup.Ending`: what the program leaves when it ends.
- `Startup.launch`: starts the program, or ends it at once.
- `Startup.finish`: stops a program that was started.
-/

namespace ClusterWatch.Startup

open Log (Journal)

/-- What the program finds around itself: files, the environment and the time. -/
structure Surroundings (m : Type → Type) where
  read : String → m (Except FileError String)
  environment : List (String × String)
  now : Time.Instant

/-- What the program leaves when it ends. The log lines go with its output. -/
structure Ending where
  code : UInt32 := 0
  output : String := ""
  complaint : String := ""
  format : Config.LogFormat := .json
  lines : List Log.Line := []

/-- A started program, with the form of its log. -/
structure Started where
  format : Config.LogFormat
  service : Service

/-- The variables of the environment that the program looks at. -/
def environmentVariables : List String :=
  [Config.pathVariable, Log.Filter.environmentVariable, Sink.Webhook.urlVariable,
    "OTEL_EXPORTER_OTLP_ENDPOINT", "KUBECONFIG", "HOME"]

variable {m : Type → Type} [Monad m]

namespace Surroundings

/-- The value of a variable of the environment. -/
def lookup (s : Surroundings m) (name : String) : Option String :=
  s.environment.lookup name

/-- The configuration under the settings of the command line. -/
def configuration (s : Surroundings m) (settings : CommandLine.Settings) :
    m (Except Failure Config) := do
  match ← Config.load s.read settings.config (s.lookup Config.pathVariable) with
  | .error fault => return .error (.configuration fault)
  | .ok c =>
    let c := c.withOverrides settings.workers settings.httpPort
    match c.validate with
    | .error fault => return .error (.settings fault)
    | .ok () =>
      match (c.exportEndpoint (s.lookup "OTEL_EXPORTER_OTLP_ENDPOINT")).map Http.Endpoint.check with
      | some (.error e) => return .error (.exporting e)
      | _ => return .ok c

/-- What several files that tell how to reach a cluster say together. -/
def merged (s : Surroundings m) (k : Kubeconfig) :
    List String → m (Except Kubeconfig.Error Kubeconfig)
  | [] => return .ok k
  | path :: rest => do
    match (Kubeconfig.ofFile path (← s.read path)).bind k.merge with
    | .ok k => merged s k rest
    | .error e => return .error e

/-- The usual file that tells how to reach a cluster. -/
def usualKubeconfig (s : Surroundings m) : String :=
  let home := ((s.lookup "HOME").filter (· ≠ "")).getD "/root"
  (if home.endsWith "/" then home else home ++ "/") ++ ".kube/config"

/-- What is known about the cluster if the configuration does not say how to reach it. -/
def foundKubeconfig (s : Surroundings m) : m (Except Kubeconfig.Error Kubeconfig) := do
  match (((s.lookup "KUBECONFIG").getD "").splitToList (· = ':')).filter (· ≠ "") with
  | [] => return Kubeconfig.ofFile s.usualKubeconfig (← s.read s.usualKubeconfig)
  | paths => s.merged {} paths

/-- The address of the cluster. -/
def cluster (s : Surroundings m) (c : Config) : m (Except Failure String) := do
  match c.cluster.kubeconfig with
  | some path =>
    match Kubeconfig.ofFile path (← s.read path) with
    | .error e => return .error (.kubeconfig path e)
    | .ok k => return k.server.mapError .cluster
  | none => return ((← s.foundKubeconfig).bind Kubeconfig.server).mapError .noCluster

/-- The journal of the program with its first line. -/
def journal (s : Surroundings m) (c : Config) : Journal :=
  let filter := Log.Filter.choose (s.lookup Log.Filter.environmentVariable) c.process.logLevel
  ({ filter } : Journal).write (line .info "Starting k8swatch")

end Surroundings

/-- The end of a program that could not start. -/
def Failure.ending (f : Failure) (format : Config.LogFormat) (lines : List Log.Line) : Ending :=
  { code := 1, complaint := f.text, format, lines }

/-- Starts to watch under the given settings. -/
def watch (s : Surroundings m) (settings : CommandLine.Settings) : m (Ending ⊕ Started) := do
  -- nothing is known of the format of the log yet
  match ← s.configuration settings with
  | .error f => return .inl (f.ending .json [])
  | .ok c =>
    let format := c.process.logFormat
    let journal := s.journal c
    match c.enabledKinds with
    | .error fault => return .inl ((Failure.resources fault).ending format journal.lines)
    | .ok kinds =>
      let journal :=
        if kinds.isEmpty then
          journal.write (line .warn "No resources enabled, nothing will be watched")
        else journal
      match ← s.cluster c with
      | .error f => return .inl (f.ending format journal.lines)
      | .ok _ =>
        let webhookUrl := s.lookup Sink.Webhook.urlVariable
        return .inr { format, service := .start c kinds webhookUrl s.now journal }

/-- What the program answers to an inquiry. -/
def answer (s : Surroundings m) : CommandLine.Inquiry → String
  | .help => CommandLine.help Config.pathVariable ((s.lookup Config.pathVariable).getD "")
  | .version => CommandLine.program ++ " " ++ CommandLine.version ++ "\n"

/-- Starts the program with the given arguments. -/
def launch (s : Surroundings m) (arguments : List String) : m (Ending ⊕ Started) :=
  match CommandLine.read (s.lookup Config.pathVariable) arguments with
  | .error e => return .inl { code := 2, complaint := e.text }
  | .ok (.answer i) => return .inl { output := answer s i }
  | .ok (.watch settings) => watch s settings

/-- Stops a program that was started. -/
def finish (p : Started) : Ending :=
  { format := p.format, lines := p.service.stop.journal.lines }

end ClusterWatch.Startup
