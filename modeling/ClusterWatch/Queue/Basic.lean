import ClusterWatch.Event.Basic
import ClusterWatch.Queue.Backoff
import Std.Data.TreeMap
import Std.Data.TreeSet
/-!
# Work queue

The keys with work to do, in the order in which they started to wait. A key is handed out to one
worker at a time. Work for a key that waits already replaces the pending item, and work for a key
that is being processed is parked until the worker releases it.

The program keeps one record under one lock. Each of its operations on that record is one function
here, which says where its name differs:

- `WorkItem`: what there is to do for a key.
- `WorkQueue`: the record. Every insertion gets a sequence number, by which a retry can tell whether
  anything was inserted for its key while it was backing off.
- `WorkQueue.add`, `take`, `done`: insert, hand out and release. `take` is one turn of the loop in
  `get`.
- `WorkQueue.drain`: hands out and releases all that waits.
- `WorkQueue.addRateLimited`, `mature`, `forget`, `failureCount`: retries of failed items. These are
  `add_rate_limited`, the `requeue` that it leaves to a timer, `forget` and `num_requeues`.
- `WorkQueue.shutDown`: from then on nothing is inserted and nothing is handed out.

The counts of failures and of retries have 32 bits. The additions that raise them are checked, and
`add_rate_limited` breaks down where one does not fit: `WorkQueue.HasRoom` says when both do. The
definitions here go on with counts that wrap round, as a build does that leaves the checks out.
-/

namespace ClusterWatch

open Time (Span)
open Std (TreeMap TreeSet)

/-- What there is to do for a key. -/
structure WorkItem where
  key : String
  kind : Resource.Kind
  /-- The notification that brought the item. -/
  action : Action
  /-- The version that the notification spoke of. -/
  version : Option String
  deriving DecidableEq, Repr, Inhabited

/-- An item that failed and waits to be inserted again. -/
structure Retry where
  item : WorkItem
  /-- The sequence number of the last insertion for the key when the retry was asked for. -/
  seen : Option Nat
  deriving DecidableEq, Repr, Inhabited

/-- The keys with work to do. -/
structure WorkQueue where
  /-- The keys that wait, the first one in front. -/
  waiting : List String := []
  /-- The pending item of each key that waits or is parked. -/
  items : TreeMap String WorkItem := {}
  /-- The keys that were handed out and not released. -/
  processing : TreeSet String := {}
  /-- The failures of each key since its last success or drop. -/
  failures : TreeMap String UInt32 := {}
  /-- The sequence number of the last insertion of each key. -/
  added : TreeMap String Nat := {}
  /-- The last sequence number that was given. -/
  sequence : Nat := 0
  /-- The retries of each key that are backing off. -/
  retrying : TreeMap String UInt32 := {}
  /-- Whether the queue was shut down. -/
  closed : Bool := false

namespace WorkQueue

instance : Inhabited WorkQueue := ⟨{}⟩

/-- The number of keys that wait. -/
def length (q : WorkQueue) : Nat :=
  q.waiting.length

/-- Makes an item the pending one of its key. The key starts to wait unless it waits already, is
parked or is being processed; the second component tells whether it did. -/
def insert (q : WorkQueue) (item : WorkItem) : WorkQueue × Bool :=
  let known := q.items.contains item.key || q.processing.contains item.key
  let q := { q with
    sequence := q.sequence + 1
    added := q.added.insert item.key (q.sequence + 1)
    items := q.items.insert item.key item }
  -- a key that is parked or being processed starts to wait when it is released
  if known then (q, false) else ({ q with waiting := q.waiting ++ [item.key] }, true)

/-- Inserts an item unless the queue is shut down. -/
def add (q : WorkQueue) (item : WorkItem) : WorkQueue × Bool :=
  if q.closed then (q, false) else q.insert item

/-- What an attempt to take an item comes to. -/
inductive Taken where
  | closed
  | empty
  | item (item : WorkItem)
  deriving DecidableEq, Repr, Inhabited

/-- Hands out the item of the first of the given keys that has one. -/
def takeFrom (q : WorkQueue) : List String → WorkQueue × Taken
  | [] => ({ q with waiting := [] }, .empty)
  | key :: rest =>
    match q.items[key]? with
    | some item =>
      ({ q with
          waiting := rest
          items := q.items.erase key
          processing := q.processing.insert key }, .item item)
    -- another entry of the key came first, and its item went with that one
    | none => takeFrom q rest

/-- Hands out the item of the key that waits first. -/
def take (q : WorkQueue) : WorkQueue × Taken :=
  if q.closed then (q, .closed) else takeFrom q q.waiting

/-- Releases a key. If something was inserted for it meanwhile it starts to wait; the second
component tells whether it did. -/
def done (q : WorkQueue) (key : String) : WorkQueue × Bool :=
  let q := { q with processing := q.processing.erase key }
  -- its item was parked while the key was being processed
  if q.items.contains key && !q.closed then ({ q with waiting := q.waiting ++ [key] }, true)
  else (q, false)

/-- Hands out and releases items that wait, at most as many as the first argument says. -/
def drainWithin : Nat → WorkQueue → WorkQueue × List WorkItem
  | 0, q => (q, [])
  | bound + 1, q =>
    match q.take with
    | (q, .item item) =>
      let (q, items) := drainWithin bound (q.done item.key).1
      (q, item :: items)
    | (q, _) => (q, [])

/-- Hands out and releases the items that wait. -/
def drain (q : WorkQueue) : WorkQueue × List WorkItem :=
  drainWithin q.length q

/-- The failures of a key. -/
def failureCount (q : WorkQueue) (key : String) : Nat :=
  (q.failures.getD key 0).toNat

/-- Whether one more failure and one more retry of a key can be counted with 32 bits. -/
def HasRoom (q : WorkQueue) (key : String) : Prop :=
  q.failureCount key + 1 < UInt32.size ∧ (q.retrying.getD key 0).toNat + 1 < UInt32.size

instance (q : WorkQueue) (key : String) : Decidable (q.HasRoom key) :=
  inferInstanceAs (Decidable (_ ∧ _))

/-- Counts a failure of an item and prepares its retry, with the time to back off. The program does
so when both counts have room, and breaks down otherwise. -/
def addRateLimited (q : WorkQueue) (backoff : Backoff) (item : WorkItem) :
    WorkQueue × Retry × Span :=
  ({ q with
      retrying := q.retrying.insert item.key (q.retrying.getD item.key 0 + 1)
      failures := q.failures.insert item.key (q.failures.getD item.key 0 + 1) },
    -- what the retry has seen is the last insertion by now, whatever item it is about
    ⟨item, q.added[item.key]?⟩, backoff.delay (q.failureCount item.key))

/-- Takes one retry of a key off the count, if it is counted. -/
def endRetry (q : WorkQueue) (key : String) : WorkQueue :=
  match q.retrying[key]? with
  | some count =>
    if count - 1 = 0 then { q with retrying := q.retrying.erase key }
    else { q with retrying := q.retrying.insert key (count - 1) }
  | none => q

/-- Forgets the last insertion of a key that has no retries and no failures. -/
def dropSequence (q : WorkQueue) (key : String) : WorkQueue :=
  if q.retrying.contains key || q.failures.contains key then q
  else { q with added := q.added.erase key }

/-- Ends the backoff of a retry: its item is inserted unless something was inserted for the key
since the retry was asked for. The second component tells whether the key started to wait. -/
def mature (q : WorkQueue) (r : Retry) : WorkQueue × Bool :=
  -- the retry is over, whether its item is inserted or not
  let q := q.endRetry r.item.key
  if q.closed then (q, false)
  else if q.added[r.item.key]? = r.seen then q.insert r.item
  else (q.dropSequence r.item.key, false)

/-- Clears the failures of a key. The sequence number stays while retries are backing off, which
could take the next insertion for the one they saw. -/
def forget (q : WorkQueue) (key : String) : WorkQueue :=
  let q := { q with failures := q.failures.erase key }
  if q.retrying.contains key then q else { q with added := q.added.erase key }

/-- Shuts the queue down. -/
def shutDown (q : WorkQueue) : WorkQueue :=
  { q with closed := true }

end WorkQueue

end ClusterWatch
