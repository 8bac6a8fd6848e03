import ClusterWatch.Event.Basic
/-!
# Staleness

Events that happened too long ago are not worth an alert.

- `Event.isStale`: whether the last occurrence lies more than half an hour back. The time stamp of
  the last occurrence is exact to the second only, and an unreadable one counts as fresh.
-/

namespace ClusterWatch

open Time (Instant)

/-- The seconds after which an event is stale. -/
def stalenessWindow : Int := 30 * 60

/-- Whether the last occurrence lies further back than the staleness window. -/
def Event.isStale (e : Event) (now : Instant) : Bool :=
  match e.lastSeen? with
  | some last => stalenessWindow < now.secondsSince last
  | none => false

end ClusterWatch
