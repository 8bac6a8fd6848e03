import ClusterWatch.Controller.Cache
import ClusterWatch.Controller.Process
/-!
# Steps of a controller

The steps that the parts of a running controller take, each of which happens at once. Steps of
different workers, timers and notifications may come in any order. Times are nanoseconds.

The operations of the program are cut where another part can come in between:

- `run` is `stepStart`, then `wait_for_sync`, the start of the workers with the end of
  `stepCheck`, the wait for the stop signal as `stepHalt`, and the wait for the workers as
  `stepFinish`;
- `wait_for_sync` is `stepStart` for its deadline, `stepCheck` for one round of its loop, and
  `stepTick` or `stepHalt` for what it selects from;
- `worker` and `process_next` are `stepTake` for `get`, `stepBegin` and `stepDelivered` for
  `process` with the deliveries it waits for, `stepSettle` and `stepRequeue` for `handle_result`,
  which reads the count of failures before it acts on it, and `stepRelease` for `done`.

Together they are one function:

- `Controller.Step`: the steps. Those that look at the cache say what they find.
- `Controller.Effect`: what a step asks the surroundings for.
- `Controller.clockEnd`: where the clock ends.
- `Controller.step`: the controller after a step, none when the step cannot be taken.
- `Controller.next?`: a step that some part can take without waiting for anything.
-/

namespace ClusterWatch.Controller

open Sink (Notification)
open Time (Span)

/-- A step of a controller. Workers are named by their positions. -/
inductive Step where
  /-- The run begins. -/
  | start (now : Nat)
  /-- The cache is looked at. -/
  | check (now : Nat) (synced : Bool)
  /-- The time between two looks at the cache is over. -/
  | tick
  /-- The controller is asked to stop. -/
  | stop
  /-- The run notices that it was asked to stop. -/
  | halt
  /-- The run notices that all workers have exited. -/
  | finish
  /-- An idle worker takes an item, or exits after the shutdown. -/
  | take (worker : Nat)
  /-- A worker looks its item up, finds something and makes the sinks deliver it. -/
  | begin (worker : Nat) (found : Except Fault (Option Resource))
  /-- The sink of a position has finished with the record of a worker. -/
  | delivered (worker sink : Nat)
  /-- A worker looks at the result of its item. -/
  | settle (worker : Nat)
  /-- A worker queues its failed item again, or drops it. -/
  | requeue (worker : Nat)
  /-- A worker releases its key. -/
  | release (worker : Nat)
  /-- The backoff of a retry is over. -/
  | mature (retry : Retry)

/-- What a step asks for. -/
inductive Effect where
  /-- Another look at the cache at a time. -/
  | checkAt (time : Nat)
  /-- The delivery of a record by the sink of a position, on behalf of a worker. -/
  | deliver (worker sink : Nat) (notification : Notification) (event : Event)
  /-- The end of a retry's backoff after a while. -/
  | matureAfter (delay : Span) (retry : Retry)
  deriving Repr

/-- The positions of the enabled sinks. -/
def enabledSinks (c : Controller) : List Nat :=
  (c.slots.zipIdx.filter fun p => p.1.enabled).map (·.2)

/-- The controller with another state of a worker. -/
def setWorker (c : Controller) (i : Nat) (w : Worker) : Controller :=
  { c with workers := c.workers.set i w }

/-- A worker that waits for sinks; without any it has the result of its item. -/
def awaiting (item : WorkItem) : List Nat → Worker
  | [] => .settling item none
  | pending => .delivering item pending

/-- Ends the run with the queue shut down. -/
def stopWith (c : Controller) (failure : Option Fault) : Controller :=
  { c with queue := c.queue.shutDown, stage := .stopped failure }

/-- Where the clock ends. It counts seconds with signed integers of 64 bits, and a time beyond
cannot be formed. -/
def clockEnd : Nat :=
  UInt64.size / 2 * Time.nanosPerSecond

/-- The run begins to wait for the cache. Its deadline has to be a time of the clock: the run breaks
down where it is formed otherwise, and no step is left to it. -/
def stepStart (c : Controller) (now : Nat) : Option (Controller × List Effect) :=
  match c.stage with
  | .initializing =>
    let deadline := now + c.tuning.syncTimeout.total
    if deadline < clockEnd then some ({ c with stage := .syncing deadline false }, []) else none
  | _ => none

/-- One look at the cache: it is complete, or the deadline has passed, or there will be another
look. -/
def stepCheck (c : Controller) (now : Nat) (synced : Bool) :
    Option (Controller × List Effect) :=
  match c.stage with
  | .syncing deadline false =>
    -- the cache comes before the deadline: one that completes late is in time if it is seen
    if synced then
      some ({ c with
        stage := .running
        workers := List.replicate (max c.tuning.workers 1) .idle }, [])
    else if deadline ≤ now then
      some (c.stopWith (some (.cacheSync c.kind.name c.tuning.syncTimeout)), [])
    else
      some ({ c with stage := .syncing deadline true },
        [.checkAt (now + c.tuning.pollInterval.total)])
  | _ => none

/-- The next look at the cache is due. -/
def stepTick (c : Controller) : Option (Controller × List Effect) :=
  match c.stage with
  | .syncing deadline true => some ({ c with stage := .syncing deadline false }, [])
  | _ => none

/-- The run notices that it was asked to stop, unless it is about to look at the cache. -/
def stepHalt (c : Controller) : Option (Controller × List Effect) :=
  if c.stopRequested then
    match c.stage with
    -- a run without workers ends at once, one with workers drains
    | .syncing _ true => some (c.stopWith none, [])
    | .running => some ({ c with queue := c.queue.shutDown, stage := .draining }, [])
    | _ => none
  else none

/-- The run is over when all workers have exited. -/
def stepFinish (c : Controller) : Option (Controller × List Effect) :=
  if c.stage = .draining ∧ c.workers.all (· = .exited) then
    some ({ c with stage := .stopped none }, [])
  else none

/-- An idle worker looks for an item. -/
def stepTake (c : Controller) (i : Nat) : Option (Controller × List Effect) :=
  match c.workers[i]? with
  | some .idle =>
    match c.queue.take with
    | (queue, .item item) => some ({ c with queue }.setWorker i (.holding item), [])
    | (_, .closed) => some (c.setWorker i .exited, [])
    -- what waited without an item was passed over
    | (queue, .empty) => if c.queue.waiting.isEmpty then none else some ({ c with queue }, [])
  | _ => none

/-- A worker looks its item up and has the outcome delivered by all enabled sinks at once. -/
def stepBegin (c : Controller) (i : Nat) (found : Except Fault (Option Resource)) :
    Option (Controller × List Effect) :=
  match c.workers[i]? with
  | some (.holding item) =>
    match c.process item found with
    | (.failed fault, c) => some (c.setWorker i (.settling item (some fault)), [])
    | (.skipped, c) => some (c.setWorker i (.settling item none), [])
    | (.send notification event, c) =>
      some (c.setWorker i (awaiting item c.enabledSinks),
        c.enabledSinks.map fun sink => .deliver i sink notification event)
  | _ => none

/-- A sink has finished. -/
def stepDelivered (c : Controller) (i sink : Nat) : Option (Controller × List Effect) :=
  match c.workers[i]? with
  | some (.delivering item pending) =>
    if sink ∈ pending then some (c.setWorker i (awaiting item (pending.erase sink)), []) else none
  | _ => none

/-- A worker clears the failures of a key that succeeded, or reads those of one that failed. -/
def stepSettle (c : Controller) (i : Nat) : Option (Controller × List Effect) :=
  match c.workers[i]? with
  | some (.settling item none) =>
    some ({ c with queue := c.queue.forget item.key }.setWorker i (.releasing item.key), [])
  | some (.settling item (some _)) =>
    some (c.setWorker i (.requeueing item (c.queue.failureCount item.key)), [])
  | _ => none

/-- A worker queues a failed item again unless the key has failed too often. -/
def stepRequeue (c : Controller) (i : Nat) : Option (Controller × List Effect) :=
  match c.workers[i]? with
  | some (.requeueing item failures) =>
    -- the count that was read decides, even if the queue counts another one by now
    if failures < c.tuning.maxRetries.toNat then
      let (queue, retry, delay) := c.queue.addRateLimited c.tuning.backoff item
      some (({ c with queue }.record .requeue).setWorker i (.releasing item.key),
        [.matureAfter delay retry])
    else
      some (({ c with queue := c.queue.forget item.key }.record .drop).setWorker i
        (.releasing item.key), [])
  | _ => none

/-- A worker releases its key and waits for the next item. -/
def stepRelease (c : Controller) (i : Nat) : Option (Controller × List Effect) :=
  match c.workers[i]? with
  | some (.releasing key) => some ({ c with queue := (c.queue.done key).1 }.setWorker i .idle, [])
  | _ => none

/-- The controller after a step, with what the step asks for. None when it cannot be taken. -/
def step (c : Controller) : Step → Option (Controller × List Effect)
  | .start now => c.stepStart now
  | .check now synced => c.stepCheck now synced
  | .tick => c.stepTick
  | .stop => some ({ c with stopRequested := true }, [])
  | .halt => c.stepHalt
  | .finish => c.stepFinish
  | .take i => c.stepTake i
  | .begin i found => c.stepBegin i found
  | .delivered i sink => c.stepDelivered i sink
  | .settle i => c.stepSettle i
  | .requeue i => c.stepRequeue i
  | .release i => c.stepRelease i
  | .mature retry => some ({ c with queue := (c.queue.mature retry).1 }, [])

/-- A step that a worker can take without waiting. -/
def workerStep? (c : Controller) (cache : Cache) (i : Nat) : Worker → Option Step
  | .idle => if c.queue.closed || !c.queue.waiting.isEmpty then some (.take i) else none
  | .holding item => some (.begin i (cache.lookup item.key))
  | .delivering .. => none
  | .settling .. => some (.settle i)
  | .requeueing .. => some (.requeue i)
  | .releasing _ => some (.release i)
  | .exited => none

/-- A step that the run can take without waiting. -/
def runStep? (c : Controller) (cache : Cache) (now : Nat) : Option Step :=
  match c.stage with
  | .syncing _ false => some (.check now cache.synced)
  | .syncing _ true => if c.stopRequested then some .halt else none
  | .running => if c.stopRequested then some .halt else none
  | .draining => if c.workers.all (· = .exited) then some .finish else none
  | _ => none

/-- A step that can be taken without waiting: one of the run, else one of the workers that have
begun an item, else one of those that are idle. -/
def next? (c : Controller) (cache : Cache) (now : Nat) : Option Step :=
  let steps := fun (busy : Bool) => c.workers.zipIdx.findSome? fun (w, i) =>
    if (w ≠ .idle) = busy then c.workerStep? cache i w else none
  c.runStep? cache now <|> steps true <|> steps false

end ClusterWatch.Controller
