import ClusterWatch.Controller.Step
import ClusterWatch.Time.Agenda
import ClusterWatch.Watch.Session
import ClusterWatch.Watch.Store
/-!
# Controllers on a clock

Controllers that run side by side, each with a cache that a watch may fill, with one clock and with
sinks that take time to deliver. The clock moves only while everybody waits for it, and from one
due time to the next.

- `Fleet.Receiver`: a sink, the time it takes, and whether it listens to replays.
- `Fleet.Watcher`: a watch and the copy of the objects that it keeps.
- `Fleet`: the controllers with their caches, the clock, what is due when, and what the sinks got.
- `Fleet.perform`: one step of a controller, with what the step asks for.
- `Fleet.watch`: one step of a watch.
- `Fleet.settle`: all steps that can be taken without waiting.
- `Fleet.advance`: lets time pass.
-/

namespace ClusterWatch

open Sink (Notification)
open Time (Agenda)

namespace Fleet

/-- A sink that takes some milliseconds to deliver a record. -/
structure Receiver where
  name : String
  slot : Sink.Slot
  delay : Nat := 0
  /-- Whether it does nothing about objects that were there before the start. -/
  ignoresReplays : Bool := false
  deriving Inhabited

/-- A record that a sink got. -/
structure Sighting where
  time : Nat
  sink : String
  notification : Notification
  event : Event

/-- What a member of the fleet waits for. -/
inductive Timer where
  /-- The next look at the cache. -/
  | look
  /-- The end of a delivery by a sink. -/
  | delivery (worker sink : Nat) (notification : Notification) (event : Event)
  /-- The end of a retry's backoff. -/
  | backoff (retry : Retry)
  /-- The next answer to its watch. -/
  | watch (wait : Watch.Wait)

/-- A watch with the copy of the objects that it keeps. -/
structure Watcher where
  feed : Watch.Feed
  translator : Watch.Translator := {}
  store : Watch.Store := {}
  /-- Whether the watch was neither stopped nor cancelled. -/
  active : Bool := true
  /-- How often the watch has failed lately. -/
  failures : Nat := 0
  /-- When it failed last, in milliseconds. -/
  failedAt : Nat := 0
  deriving Inhabited

/-- A controller, what it sees of the cluster, and the watch that it is fed by, if any. -/
structure Member where
  controller : Controller
  cache : Cache
  watcher : Option Watcher := none
  deriving Inhabited

/-- A watch ends when its controller is asked to stop or has failed. -/
def Member.watchShouldEnd (m : Member) : Bool :=
  match m.controller.stage with
  | .stopped (some _) => true
  | _ => m.controller.stopRequested

/-- Ends the watch when it is time to. -/
def Member.endWatch (m : Member) : Member :=
  if m.watchShouldEnd then
    { m with watcher := m.watcher.map fun w => { w with active := false } }
  else m

/-- Whether neither the controller nor its watch is running any more. -/
def Member.isDone (m : Member) : Bool :=
  m.controller.phase = .stopped && (m.watcher.all fun w => !w.active)

end Fleet

/-- Controllers on a clock. -/
structure Fleet where
  receivers : List Fleet.Receiver
  members : List Fleet.Member
  /-- The time in milliseconds since the program started. -/
  now : Nat := 0
  /-- What the clock of the machine showed then, in nanoseconds. It runs since the machine came up,
  which was a second before at least. -/
  up : Nat := Time.nanosPerSecond
  agenda : Agenda (Nat × Fleet.Timer) := {}
  /-- What the sinks got, the last first. -/
  seen : List Fleet.Sighting := []
  deriving Inhabited

namespace Fleet

/-! ### Controllers and sinks -/

/-- What the clock of the machine shows, in nanoseconds. -/
def nanos (f : Fleet) : Nat :=
  f.up + f.now * 1000000

/-- The first millisecond of the fleet at which the clock of the machine has come to a time. -/
def millisAt (f : Fleet) (time : Nat) : Nat :=
  (time - f.up + 999999) / 1000000

/-- Enters something that is due after a number of milliseconds. -/
def schedule (f : Fleet) (delay i : Nat) (timer : Timer) : Fleet :=
  { f with agenda := f.agenda.insert (f.now + delay) (i, timer) }

/-- The controller at a position. -/
def controller? (f : Fleet) (i : Nat) : Option Controller :=
  f.members[i]?.map (·.controller)

/-- Applies a change to the member at a position. -/
def modify (f : Fleet) (i : Nat) (change : Member → Member) : Fleet :=
  { f with members := f.members.modify i change }

/-- Puts another state of the controller at a position. -/
def setController (f : Fleet) (i : Nat) (c : Controller) : Fleet :=
  f.modify i fun m => { m with controller := c }

/-- A sink has got a record, unless it does not listen to it. -/
def sight (f : Fleet) (r : Receiver) (notification : Notification) (event : Event) : Fleet :=
  if r.ignoresReplays ∧ notification = .replayed then f
  else { f with seen := ⟨f.now, r.name, notification, event⟩ :: f.seen }

/-- A sink has finished with a record. -/
def deliver (f : Fleet) (i worker sink : Nat) (notification : Notification) (event : Event) :
    Fleet :=
  let f := match f.receivers[sink]? with
    | some r => f.sight r notification event
    | none => f
  match (f.controller? i).bind (·.step (.delivered worker sink)) with
  | some (c, _) => f.setController i c
  | none => f

/-- How long a sink takes for a notification. -/
def deliveryTime (f : Fleet) (sink : Nat) (notification : Notification) : Nat :=
  match f.receivers[sink]? with
  | some r => if r.ignoresReplays ∧ notification = .replayed then 0 else r.delay
  | none => 0

/-- Sees to what a step of the controller at a position asked for. -/
def respond (f : Fleet) (i : Nat) : Controller.Effect → Fleet
  | .checkAt time =>
    { f with agenda := f.agenda.insert (f.millisAt time) (i, .look) }
  | .deliver worker sink notification event =>
    match f.deliveryTime sink notification with
    | 0 => f.deliver i worker sink notification event
    | delay => f.schedule delay i (.delivery worker sink notification event)
  | .matureAfter delay retry => f.schedule delay.ceilMillis i (.backoff retry)

/-- Takes a step of the controller at a position, if it can be taken. -/
def perform (f : Fleet) (i : Nat) (s : Controller.Step) : Fleet :=
  match (f.controller? i).bind (·.step s) with
  | some (c, effects) => effects.foldl (fun f e => f.respond i e) (f.setController i c)
  | none => f

/-! ### Watches -/

/-- The time between two changes that a watch reports. -/
def lineInterval : Nat := 1000

/-- The time after which failures of a watch are forgotten. -/
def failureMemory : Nat := 120000

/-- The time after which a watch that failed lists the objects again. It doubles with each failure
before, up to a limit. -/
def relistDelay (failures : Nat) : Nat :=
  min (1200 * Nat.pow 2 (min failures 6)) 45000

/-- A watch fails. Returns the time until it lists the objects again as well. -/
def Watcher.fail (w : Watcher) (now : Nat) : Watcher × Nat :=
  let failures := if w.failedAt + failureMemory < now then 0 else w.failures
  ({ w with failures := failures + 1, failedAt := now }, relistDelay failures)

/-- Hands a watch event on: the copy of the objects follows it first, then the controller is
notified. -/
def absorb (m : Member) (w : Watcher) (e : Watch.Event) : Member × Watcher :=
  let store := w.store.apply e
  let (translator, calls) := w.translator.handle e
  ({ m with
      controller := calls.foldl Watch.Call.notify m.controller
      cache := store.toCache translator.synced },
    { w with store, translator })

/-- What a watch gets: its feed after that, watch events, and what it waits for then. -/
def answer (w : Watcher) : Watch.Wait → Watch.Feed × List Watch.Event × Watch.Wait
  | .list => w.feed.list
  | .line => w.feed.next
  | .nothing => (w.feed, [], .nothing)

/-- A watch gets what it has waited for. -/
def watch (f : Fleet) (i : Nat) (wait : Watch.Wait) : Fleet :=
  match f.members[i]? with
  | some m =>
    match m.watcher with
    | some w =>
      if w.active then
        let (feed, events, wait) := answer w wait
        let (m, w) := events.foldl (fun (m, w) e => absorb m w e) (m, { w with feed })
        let hold (w : Watcher) := f.modify i fun _ => { m with watcher := some w }
        match wait with
        | .line => (hold w).schedule lineInterval i (.watch .line)
        | .list =>
          let (w, delay) := w.fail f.now
          (hold w).schedule delay i (.watch .list)
        | .nothing => hold w
      else f
    | none => f
  | none => f

/-! ### Time -/

/-- A step that some controller can take without waiting. -/
def next? (f : Fleet) : Option (Nat × Controller.Step) :=
  f.members.zipIdx.findSome? fun (m, i) =>
    (m.controller.next? m.cache f.nanos).map fun s => (i, s)

/-- More steps than a run takes. -/
def stepLimit : Nat := 1000000000000

/-- Takes steps while there is one, at most as many as the first argument says. -/
def settleWithin : Nat → Fleet → Fleet
  | 0, f => f
  | bound + 1, f =>
    match f.next? with
    | some (i, s) => settleWithin bound (f.perform i s)
    -- nobody can go on, so the watches of runs that are over end
    | none => { f with members := f.members.map Member.endWatch }

/-- Takes all steps that can be taken without waiting. -/
def settle (f : Fleet) : Fleet :=
  settleWithin stepLimit f

/-- The time of a timer has come. -/
def fire (f : Fleet) (i : Nat) : Timer → Fleet
  | .look => f.perform i .tick
  | .delivery worker sink notification event => f.deliver i worker sink notification event
  | .backoff retry => f.perform i (.mature retry)
  | .watch wait => f.watch i wait

/-- Lets everything happen that is due by `limit`, at most as many things as the first argument
says. -/
def runWithin (limit : Nat) : Nat → Fleet → Fleet
  | 0, f => f
  | bound + 1, f =>
    match f.agenda.due? limit with
    | some (due, (i, timer), agenda) =>
      runWithin limit bound ({ f with now := max f.now due, agenda }.fire i timer).settle
    | none => { f with now := max f.now limit }

/-- Lets a number of milliseconds pass. -/
def advance (f : Fleet) (millis : Nat) : Fleet :=
  runWithin (f.now + millis) stepLimit f

/-- The totals of all controllers. -/
def metrics (f : Fleet) : Metrics :=
  f.members.foldl (fun total m => total + m.controller.metrics) {}

end Fleet

end ClusterWatch
