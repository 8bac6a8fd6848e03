import ClusterWatch.Json.Value
import ClusterWatch.Sink.Kind
/-!
# Log records

The simplest sink writes a record of every event to the log, by `emit` in the program.

- `Sink.LogRecord`: a record.
- `LogRecord.members`: what stands in it, by name.
-/

namespace ClusterWatch.Sink

open Json (Value)

/-- A record of the log sink. -/
structure LogRecord where
  notification : Notification
  event : Event
  deriving DecidableEq, Repr

/-- What stands in a record, by name. -/
def LogRecord.members (r : LogRecord) : List (String × Value) :=
  let e := r.event
  [("notification", .string r.notification.name), ("kind", .string e.kind),
    ("namespace", .string e.namespaceName), ("name", .string e.name),
    ("action", .string e.action.name), ("reason", .string e.reason),
    ("event_type", .string e.type), ("host", .string e.host),
    ("resource_version", .string e.version), ("message", .string e.message)]

end ClusterWatch.Sink
