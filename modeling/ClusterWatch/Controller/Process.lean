import ClusterWatch.Controller.Basic
import ClusterWatch.Event.Normalize
/-!
# Processing an item

What a worker makes of an item and of what the cache holds under its key.

- `Controller.Outcome`: a failure, nothing to tell, or a notification with a record.
- `Controller.outcome`: decides which.
- `Controller.process`: the outcome, with what the controller keeps of it.
-/

namespace ClusterWatch.Controller

open Sink (Notification)

/-- What there is to do for an item. -/
inductive Outcome where
  /-- The lookup failed. -/
  | failed (fault : Fault)
  /-- The version in the cache was delivered before. -/
  | skipped
  /-- The sinks are to be told. -/
  | send (notification : Notification) (event : Event)
  deriving DecidableEq, Repr

/-- The record of an object that is gone. -/
def goneEvent (c : Controller) (key : String) : Event :=
  .ofResource (.deleted c.kind.name key) .delete

/-- Whether an object was created after the start. -/
def isNew (c : Controller) (r : Resource) : Bool :=
  match r.created? with
  | some created => c.start < created
  | none => false

/-- Whether the version of an object was delivered last under a key. -/
def isObserved (c : Controller) (key : String) (r : Resource) : Bool :=
  r.version?.isSome && c.observed[key]? == r.version?

/-- What there is to do for an item, given what the cache holds under its key. An object that is
not there counts as deleted whatever the item says. -/
def outcome (c : Controller) (item : WorkItem) : Except Fault (Option Resource) → Outcome
  | .error fault => .failed fault
  | .ok none => .send .deleted (c.goneEvent item.key)
  | .ok (some r) =>
    match item.action with
    | .create => .send (if c.isNew r then .created else .replayed) (.ofResource r .create)
    | .update =>
      if c.isObserved item.key r then .skipped else .send .updated (.ofResource r .update)
    | .delete => .send .deleted (c.goneEvent item.key)

/-- Keeps the version of an object that is about to be delivered. -/
def observe (c : Controller) (key : String) (r : Resource) : Controller :=
  match r.version? with
  | some version => { c with observed := c.observed.insert key version }
  | none => c

/-- Forgets the version of an object that is gone. -/
def unobserve (c : Controller) (key : String) : Controller :=
  { c with observed := c.observed.erase key }

/-- What the controller keeps of an outcome. -/
def keep (c : Controller) (key : String) (found : Except Fault (Option Resource)) :
    Outcome → Controller
  | .failed _ => c
  | .skipped => c.record .updateSkipped
  | .send .deleted _ => (c.unobserve key).record .dispatch
  -- the version is kept before the sinks are told, and whatever becomes of their deliveries
  | .send notification _ =>
    let c := match found with
      | .ok (some r) => c.observe key r
      | _ => c
    (if notification = .replayed then c.record .replay else c).record .dispatch

/-- Processes an item: the outcome, and the controller after it. -/
def process (c : Controller) (item : WorkItem) (found : Except Fault (Option Resource)) :
    Outcome × Controller :=
  let outcome := c.outcome item found
  (outcome, c.keep item.key found outcome)

end ClusterWatch.Controller
