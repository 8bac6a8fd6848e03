import ClusterWatch.Metrics
import ClusterWatch.Queue.Basic
import ClusterWatch.Sink.Kind
/-!
# Controllers

A controller turns the notifications about the objects of one kind into records for the sinks.
Its workers take keys off a work queue, look the objects up in a cache and deliver what they find.

- `Controller.Tuning`: how many workers, how long to wait, how often to retry.
- `Controller.Worker`: what a worker is doing.
- `Controller.Stage`, `Controller.Phase`: how far the life of a controller has come.
- `Controller`: the controller.
- `Controller.onAdd`, `onUpdate`, `onDelete`: the notifications.
-/

namespace ClusterWatch

open Time (Instant Span)
open Std (TreeMap)

namespace Controller

/-- How a controller does its work. -/
structure Tuning where
  /-- The number of workers, at least one whatever it says. -/
  workers : Nat := 1
  /-- How long to wait for the cache. -/
  syncTimeout : Span := .ofSeconds 60
  /-- How long to wait between two looks at the cache. -/
  pollInterval : Span := .ofMillis 100
  /-- How often an item may fail and be queued again. -/
  maxRetries : UInt32 := 5
  backoff : Backoff := {}
  deriving DecidableEq, Inhabited

/-- What a worker is doing. -/
inductive Worker where
  /-- Waiting for an item. -/
  | idle
  /-- An item was handed out to it. -/
  | holding (item : WorkItem)
  /-- The sinks of the given positions have not finished with the record of its item. -/
  | delivering (item : WorkItem) (pending : List Nat)
  /-- Its item was processed, with a failure or without. -/
  | settling (item : WorkItem) (failure : Option Fault)
  /-- Its item failed, and it has read how often the key had failed before. -/
  | requeueing (item : WorkItem) (failures : Nat)
  /-- It is done with a key but for the release. -/
  | releasing (key : String)
  /-- The queue was shut down. -/
  | exited
  deriving DecidableEq, Repr, Inhabited

/-- How far the life of a controller has come. -/
inductive Stage where
  /-- Not running yet. -/
  | initializing
  /-- Waiting for the cache until a deadline. `resting` tells whether it is waiting for the next
  look at the cache or about to take one. -/
  | syncing (deadline : Nat) (resting : Bool)
  /-- The workers are at work. -/
  | running
  /-- The workers are finishing what they have begun. -/
  | draining
  /-- The run is over, with a failure or without. -/
  | stopped (failure : Option Fault)
  deriving DecidableEq, Repr, Inhabited

/-- The stages as they are shown. -/
inductive Phase where
  | initializing
  | syncing
  | running
  | draining
  | stopped
  deriving DecidableEq, Repr, Inhabited

/-- The phase of a stage. -/
def Stage.phase : Stage → Phase
  | initializing => .initializing
  | syncing .. => .syncing
  | running => .running
  | draining => .draining
  | stopped _ => .stopped

/-- The name of a phase. -/
def Phase.name : Phase → String
  | initializing => "Initializing"
  | syncing => "Syncing"
  | running => "Running"
  | draining => "Draining"
  | stopped => "Stopped"

end Controller

/-- The controller of one resource kind. -/
structure Controller where
  kind : Resource.Kind
  tuning : Controller.Tuning
  /-- The registered sinks. -/
  slots : List Sink.Slot
  /-- Objects that were not created after this second were there before the start. -/
  start : Instant
  queue : WorkQueue := {}
  /-- The version of each object that was delivered last. -/
  observed : TreeMap String String := {}
  stage : Controller.Stage := .initializing
  /-- Whether the controller was asked to stop. -/
  stopRequested : Bool := false
  workers : List Controller.Worker := []
  metrics : Metrics := {}

namespace Controller

/-- A controller that starts at an instant. Creation times have whole seconds, so the start is cut
to the second: what was created in the second of the start counts as older. -/
def new (kind : Resource.Kind) (tuning : Tuning) (slots : List Sink.Slot) (start : Instant) :
    Controller :=
  { kind, tuning, slots, start := start.atSecond }

instance : Inhabited Controller := ⟨new .pods {} [] (.ofSecond 0)⟩

/-- Counts one. -/
def record (c : Controller) (counter : Metrics.Counter) : Controller :=
  { c with metrics := c.metrics.record counter }

/-- The phase of the controller. -/
def phase (c : Controller) : Phase :=
  c.stage.phase

/-! ### Notifications -/

/-- Queues an item. -/
def enqueue (c : Controller) (key : String) (action : Action) (version : Option String) :
    Controller :=
  { c with queue := (c.queue.add ⟨key, c.kind, action, version⟩).1 }

/-- An object appeared in the cache. -/
def onAdd (c : Controller) (key : String) (version : Option String) : Controller :=
  c.enqueue key .create version

/-- An object of the cache changed. The same version once more is no change. -/
def onUpdate (c : Controller) (key : String) (old new : Option String) : Controller :=
  if old.isSome ∧ old = new then c.record .updateSkipped else c.enqueue key .update new

/-- An object left the cache. -/
def onDelete (c : Controller) (key : String) (version : Option String) : Controller :=
  c.enqueue key .delete version

end Controller

end ClusterWatch
