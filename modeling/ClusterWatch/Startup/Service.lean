import ClusterWatch.Fleet.Runner
import ClusterWatch.Log.Journal
import ClusterWatch.Sink.Registry
/-!
# The running program

What the program consists of once it has started, and how it stops.

- `Startup.Service`: the parts of the running program.
- `Service.start`: gets the sinks ready and starts the controllers. Nobody answers on the network.
- `Service.stop`: stops all controllers.
-/

namespace ClusterWatch.Startup

open Log (Journal Level Line)
open Time (Instant)

/-- A line of the program itself. -/
def line (level : Level) (message : String) : Line :=
  ⟨level, "k8swatch", message⟩

/-- The parts of the running program. -/
structure Service where
  sinks : List Sink.Adapter
  /-- Where queries about events are answered from. -/
  store : Option Sink.SearchIndex
  fleet : Fleet
  journal : Journal

namespace Service

/-- The use of the network on which nobody answers, under the policy of a configuration. -/
def carrier (c : Config) : Sink.Carrier Journal :=
  { network := .silent, policy := c.retryPolicy, note := fun line j => j.write line }

/-- The search index of a configuration, if there is one that can be used. -/
def searchIndex (c : Config) (j : Journal) : Option Sink.SearchIndex × Journal :=
  if c.sinks.searchIndex.enabled then
    let index := Sink.SearchIndex.ofConfig c
    match index.check with
    | .ok () => (some index, j)
    | .error _ => (none, j.write (line .warn "Event search disabled"))
  else (none, j)

/-- A sink as the controllers see it. -/
def receiver (a : Sink.Adapter) : Fleet.Receiver :=
  { name := a.kind.name, slot := ⟨a.kind, true⟩ }

/-! ### Controllers in the log -/

/-- A line about a controller. -/
def controllerLine (level : Level) (message : String) : Line :=
  ⟨level, "k8swatch::controller", message⟩

/-- A line about all controllers. -/
def fleetLine (level : Level) (message : String) : Line :=
  ⟨level, "k8swatch::runner", message⟩

/-- The line about a new phase of a controller. -/
def phaseLine : Line :=
  controllerLine .debug "Controller phase changed"

/-- The lines of a controller that has just started, and may have given up at once. -/
def startLines (c : Controller) : List Line :=
  [phaseLine, controllerLine .info "Waiting for cache sync"] ++
    if (Fleet.failure? c).isSome then
      [controllerLine .error "Cache sync failed, controller not started", phaseLine,
        fleetLine .error "Resource controller failed"]
    else []

/-- The lines of a controller that was asked to stop before its cache was filled. -/
def stopLines (before after : Controller) : List Line :=
  if before.phase ≠ .stopped ∧ after.phase = .stopped then [phaseLine] else []

/-- The lines about the end of all controllers, once they have ended. -/
def summaryLines (f : Fleet) : List Line :=
  match f.summary? with
  | some s =>
    fleetLine .info "All resource controllers finished" ::
      s.failed.map fun _ => line .error "Controller did not run"
  | none => []

/-! ### Life -/

/-- Gets the sinks ready, starts to listen for queries and starts the controllers. -/
def start (c : Config) (kinds : List Resource.Kind) (webhookUrl : Option String) (now : Instant)
    (j : Journal) : Service :=
  let (sinks, j) := Sink.register (carrier c) webhookUrl c j
  let (store, j) := searchIndex c (j.write (line .info "Sinks registered"))
  let fleet := Fleet.launch c.tuning (sinks.map receiver) now (kinds.map (·, {}))
  let lines := ⟨.info, "k8swatch::api", "Query API listening"⟩ ::
    fleetLine .info "Starting resource controllers" ::
    fleet.members.flatMap (fun m => startLines m.controller) ++ summaryLines fleet
  { sinks, store, fleet, journal := j.writeAll lines }

/-- Stops all controllers. -/
def stop (s : Service) : Service :=
  let fleet := s.fleet.requestStop
  let lines := line .info "Shutdown signal received" ::
    (s.fleet.members.zip fleet.members).flatMap
      (fun (m, n) => stopLines m.controller n.controller) ++
    (if s.fleet.summary?.isNone then summaryLines fleet else []) ++
    [line .info "k8swatch stopped"]
  { s with fleet, journal := s.journal.writeAll lines }

end Service

end ClusterWatch.Startup
