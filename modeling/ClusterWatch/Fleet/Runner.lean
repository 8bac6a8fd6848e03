import ClusterWatch.Fleet.Basic
/-!
# Running all controllers

One controller and one watch for every watched kind. All of them stop together; one whose cache
does not fill in time stops with its watch and leaves the others alone.

- `Fleet.launch`: a fleet with a controller and a watch for each kind, just started.
- `Fleet.requestStop`: the stop signal.
- `Fleet.Summary`: which controllers stopped and which failed.
- `Fleet.summary?`: the summary, once every controller and every watch has ended.
-/

namespace ClusterWatch.Fleet

open Time (Instant)

/-- A controller with a watch that is about to list the objects. -/
def memberOf (tuning : Controller.Tuning) (receivers : List Receiver) (start : Instant)
    (kind : Resource.Kind) (feed : Watch.Feed) : Member where
  controller := .new kind tuning (receivers.map (·.slot)) start
  cache := Watch.Store.toCache {} false
  watcher := some { feed }

/-- Starts the controllers of all members and then their watches, whose first answers come after
the first look at the caches. -/
def startAll (f : Fleet) : Fleet :=
  let members := List.range f.members.length
  let f := (members.foldl (fun f i => f.perform i (.start f.nanos)) f).settle
  (members.foldl (fun f i => f.watch i .list) f).settle

/-- A controller and a watch for each kind, just started. -/
def launch (tuning : Controller.Tuning) (receivers : List Receiver) (start : Instant)
    (feeds : List (Resource.Kind × Watch.Feed)) : Fleet :=
  let members := feeds.map fun (kind, feed) => memberOf tuning receivers start kind feed
  ({ receivers, members } : Fleet).startAll

/-- Asks all controllers to stop. -/
def requestStop (f : Fleet) : Fleet :=
  ((List.range f.members.length).foldl (fun f i => f.perform i .stop) f).settle

/-- How the controllers of a run ended. -/
structure Summary where
  stopped : List Resource.Kind
  failed : List (Resource.Kind × Fault)
  deriving Repr

/-- The failure of a controller that has stopped. -/
def failure? (c : Controller) : Option Fault :=
  match c.stage with
  | .stopped failure => failure
  | _ => none

/-- How the controllers ended, once all of them and all watches have. -/
def summary? (f : Fleet) : Option Summary :=
  if f.members.all Member.isDone then
    some
      { stopped := (f.members.filter fun m => (failure? m.controller).isNone).map
          (·.controller.kind)
        failed := f.members.filterMap fun m =>
          (failure? m.controller).map fun fault => (m.controller.kind, fault) }
  else none

end ClusterWatch.Fleet
