import ClusterWatch.Event.Basic
import ClusterWatch.Fault
/-!
# Queries for events

- `EventQuery`: which stored events to look for.
- `EventStore`: something that stores events and answers queries, with a state of its own.
-/

namespace ClusterWatch

/-- Which stored events to look for: those about an object, and how many. -/
structure EventQuery where
  namespaceName : String
  /-- The name of the object. -/
  objectName : String
  /-- The kind of the object. -/
  objectKind : String
  limit : UInt64
  deriving DecidableEq, Repr

/-- Answers queries. -/
abbrev EventStore (σ : Type) := EventQuery → σ → Except Fault (List Event) × σ

end ClusterWatch
