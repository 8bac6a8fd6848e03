import ClusterWatch.Json.Value
/-!
# Counters

What the watcher counts while it runs.

- `Metrics`: the totals.
- `Metrics.Counter`: the names of the counters, with the way to add one.
- `Metrics.since`: what was counted since earlier totals.
- `Metrics.toJson`, `Metrics.changes`: all totals, or those that are not zero, as an object.
-/

namespace ClusterWatch

open Json (Value)

/-- Totals since the start. -/
structure Metrics where
  dispatched : Nat := 0
  replayed : Nat := 0
  updatesSkipped : Nat := 0
  requeued : Nat := 0
  dropped : Nat := 0
  sinkFailures : Nat := 0
  alertsSent : Nat := 0
  staleSuppressed : Nat := 0
  deriving DecidableEq, Repr, Inhabited

namespace Metrics

/-- What can be counted. -/
inductive Counter where
  /-- A record was handed to the sinks. -/
  | dispatch
  /-- An object was found that was there before the start. -/
  | replay
  /-- An update brought no new version. -/
  | updateSkipped
  /-- A failed item was queued again. -/
  | requeue
  /-- A failed item was given up. -/
  | drop
  /-- A write of a sink failed for good. -/
  | sinkFailure
  /-- An alert was sent. -/
  | alert
  /-- An alert was held back because its event was too old. -/
  | stale
  deriving DecidableEq, Repr

/-- Counts one. -/
def record (m : Metrics) : Counter → Metrics
  | .dispatch => { m with dispatched := m.dispatched + 1 }
  | .replay => { m with replayed := m.replayed + 1 }
  | .updateSkipped => { m with updatesSkipped := m.updatesSkipped + 1 }
  | .requeue => { m with requeued := m.requeued + 1 }
  | .drop => { m with dropped := m.dropped + 1 }
  | .sinkFailure => { m with sinkFailures := m.sinkFailures + 1 }
  | .alert => { m with alertsSent := m.alertsSent + 1 }
  | .stale => { m with staleSuppressed := m.staleSuppressed + 1 }

/-- What was counted since `earlier`. -/
def since (m earlier : Metrics) : Metrics where
  dispatched := m.dispatched - earlier.dispatched
  replayed := m.replayed - earlier.replayed
  updatesSkipped := m.updatesSkipped - earlier.updatesSkipped
  requeued := m.requeued - earlier.requeued
  dropped := m.dropped - earlier.dropped
  sinkFailures := m.sinkFailures - earlier.sinkFailures
  alertsSent := m.alertsSent - earlier.alertsSent
  staleSuppressed := m.staleSuppressed - earlier.staleSuppressed

/-- The counts of two totals together. -/
instance : Add Metrics where
  add a b :=
    { dispatched := a.dispatched + b.dispatched
      replayed := a.replayed + b.replayed
      updatesSkipped := a.updatesSkipped + b.updatesSkipped
      requeued := a.requeued + b.requeued
      dropped := a.dropped + b.dropped
      sinkFailures := a.sinkFailures + b.sinkFailures
      alertsSent := a.alertsSent + b.alertsSent
      staleSuppressed := a.staleSuppressed + b.staleSuppressed }

/-- The totals by name. -/
def members (m : Metrics) : List (String × Nat) :=
  [("eventsDispatched", m.dispatched), ("eventsReplayed", m.replayed),
    ("updatesSkipped", m.updatesSkipped), ("itemsRequeued", m.requeued),
    ("itemsDropped", m.dropped), ("sinkFailures", m.sinkFailures),
    ("alertsSent", m.alertsSent), ("staleSuppressed", m.staleSuppressed)]

/-- All totals as an object. -/
def toJson (m : Metrics) : Value :=
  .object (m.members.map fun (name, n) => (name, .nat n))

/-- The totals that are not zero as an object. -/
def changes (m : Metrics) : Value :=
  .object ((m.members.filter fun (_, n) => n ≠ 0).map fun (name, n) => (name, .nat n))

end Metrics

end ClusterWatch
