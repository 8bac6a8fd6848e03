import ClusterWatch.Time.Span
/-!
# Backoff of failing items

How long an item that failed has to wait before it is queued again: a base that doubles with every
failure, up to a maximum.

- `Backoff`: base and maximum.
- `Backoff.delay`: the wait after a number of failures.
-/

namespace ClusterWatch

open Time (Span)

/-- The waits of items that keep failing. -/
structure Backoff where
  /-- The wait after the first failure. -/
  base : Span := .ofMillis 5
  /-- The longest wait. -/
  max : Span := .ofSeconds 1000
  deriving DecidableEq, Repr, Inhabited

namespace Backoff

/-- How often the base may double. -/
def maxDoublings : Nat := 31

/-- The wait of an item that has failed that many times before. A wait too long for a span is cut
to the maximum like any other. -/
def delay (b : Backoff) (failures : Nat) : Span :=
  match b.base.scaled? (Nat.pow 2 (min failures maxDoublings)) with
  | some wait => min wait b.max
  | none => b.max

end Backoff

end ClusterWatch
