import ClusterWatch.Event.Basic
import ClusterWatch.Json.Value
import ClusterWatch.Time.Rfc3339
/-!
# Listed events

The flat shape in which the query interface serves stored events.

- `Api.listing`: an event as an object of that shape. An unreadable time of creation is null, and
  the version is always empty.
-/

namespace ClusterWatch.Api

open Time (Instant)
open Json (Value)

/-- An event as the query interface serves it. -/
def listing (e : Event) : Value :=
  .object
    [("count", .int e.count.toInt),
      ("createTimestamp", .ofText? ((Instant.ofStamp? e.created).map Instant.zoned)),
      ("evt_name", .string e.name),
      ("firstTimestamp", .string e.first),
      ("kind", .string e.kind),
      ("kind_name", .string e.name),
      ("lastTimestamp", .string e.last),
      ("message", .string e.message),
      ("namespace", .string e.namespaceName),
      ("reason", .string e.reason),
      ("resourceVersion", .string ""),
      ("source_component", .string e.component),
      ("source_host", .string e.host),
      ("time", .string e.last),
      ("type", .string e.type)]

end ClusterWatch.Api
