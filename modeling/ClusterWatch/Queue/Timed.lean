import ClusterWatch.Queue.Shared
import ClusterWatch.Time.Agenda
/-!
# The work queue on a clock

A shared queue whose retries come back when their backoff is over. Between two operations
everybody does what can be done without waiting.

- `TimedQueue`: the queue, the clock, and the retries that are backing off.
- `TimedQueue.change`: an operation on the queue.
- `TimedQueue.retry`: puts an item off by its backoff.
- `TimedQueue.advance`: lets time pass.
-/

namespace ClusterWatch

open Time (Agenda)
open WorkQueue (Taken)

/-- A shared queue with a clock. -/
structure TimedQueue where
  shared : SharedQueue := {}
  backoff : Backoff := {}
  /-- The retries that are backing off, by the time at which that is over. -/
  retries : Agenda Retry := {}
  /-- The time in milliseconds. -/
  now : Nat := 0
  deriving Inhabited

namespace TimedQueue

/-- The work queue itself. -/
def queue (t : TimedQueue) : WorkQueue :=
  t.shared.queue

/-- Puts another state of the shared queue and lets everybody go on. Returns what getters got. -/
def change (t : TimedQueue) (shared : SharedQueue) : TimedQueue × List (Nat × Taken) :=
  let (shared, got) := shared.settle
  ({ t with shared }, got)

/-- Puts another state of the work queue, which wakes nobody up, and lets everybody go on. -/
def put (t : TimedQueue) (queue : WorkQueue) : TimedQueue × List (Nat × Taken) :=
  t.change { t.shared with queue }

/-- Brings back the retries whose backoff is over by a time, at most as many as the first argument
says. -/
def matureWithin (limit : Nat) : Nat → TimedQueue → TimedQueue × List (Nat × Taken)
  | 0, t => (t, [])
  | bound + 1, t =>
    match t.retries.due? limit with
    | none => (t, [])
    | some (_, r, retries) =>
      let (t, got) := { t with retries }.change (t.shared.update (t.queue.mature r))
      let (t, more) := matureWithin limit bound t
      (t, got ++ more)

/-- Lets a number of milliseconds pass. Returns what getters got. -/
def advance (t : TimedQueue) (millis : Nat) : TimedQueue × List (Nat × Taken) :=
  let limit := t.now + millis
  let (t, got) := matureWithin limit t.retries.entries.length t
  ({ t with now := limit }, got)

/-- Puts an item off by its backoff. Returns what getters got if that is over at once. -/
def retry (t : TimedQueue) (item : WorkItem) : TimedQueue × List (Nat × Taken) :=
  let (queue, r, delay) := t.queue.addRateLimited t.backoff item
  { t with
    shared := { t.shared with queue }
    retries := t.retries.insert (t.now + delay.ceilMillis) r }.advance 0

end TimedQueue

end ClusterWatch
