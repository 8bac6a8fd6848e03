import ClusterWatch.Event.Basic
import ClusterWatch.Text.Integer
/-!
# Points of a time series

The line that stores an event as one point: the measurement with its tags, the fields, and the
time in seconds.

- `LinePoint`: the tags, fields and time of a point.
- `LinePoint.chars`: the line, with the characters escaped that would end a tag or a string: by
  `escape_tag` and `escape_field` in the program.
- `LinePoint.ofEvent`: the point of an event, of which `line_protocol` returns the line. Its time is
  the time of creation, moved by the version of the object so that two versions are two points.
-/

namespace ClusterWatch.Sink

open Time (Instant)

/-- A point of a time series. -/
structure LinePoint where
  measurement : String
  tags : List (String × String)
  count : Int
  fields : List (String × String)
  second : Int
  deriving DecidableEq, Repr

namespace LinePoint

/-- Puts a backslash in front of the given characters. -/
def escapeOf (marks : List Char) (cs : List Char) : List Char :=
  cs.flatMap fun c => if c ∈ marks then ['\\', c] else [c]

/-- The characters that are escaped in a tag. -/
def tagMarks : List Char := ['\\', ',', '=', ' ']

/-- The characters that are escaped in a string field. -/
def fieldMarks : List Char := ['\\', '"']

/-- A tag with the comma in front of it. -/
def tagChars (tag : String × String) : List Char :=
  ',' :: tag.1.toList ++ '=' :: escapeOf tagMarks tag.2.toList

/-- A string field with the comma in front of it. -/
def fieldChars (field : String × String) : List Char :=
  ',' :: field.1.toList ++ '=' :: '"' :: escapeOf fieldMarks field.2.toList ++ ['"']

/-- The line of a point. -/
def chars (p : LinePoint) : List Char :=
  p.measurement.toList ++ p.tags.flatMap tagChars ++ " count=".toList ++ Text.integer p.count ++
    'i' :: p.fields.flatMap fieldChars ++ ' ' :: Text.integer p.second

/-- The line of a point. -/
def text (p : LinePoint) : String :=
  String.ofList p.chars

/-- The measurement that all events belong to. -/
def eventMeasurement : String := "k8sevents"

/-- The tags of an event. Empty ones are not valid in a line and are left out. -/
def eventTags (e : Event) : List (String × String) :=
  [("namespace", e.namespaceName), ("kind", e.kind), ("kind_name", e.name), ("reason", e.reason),
    ("type", e.type)].filter fun tag => !tag.2.isEmpty

/-- The string fields of an event. -/
def eventFields (e : Event) : List (String × String) :=
  [("message", e.message), ("source_component", e.component), ("source_host", e.host),
    ("firstTimestamp", e.first), ("lastTimestamp", e.last), ("createTimestamp", e.created),
    ("evt_name", e.name), ("resourceVersion", e.version)]

/-- The second of an event: its creation, or now when that is unreadable, moved by the version
when that is a number. -/
def eventSecond (e : Event) (now : Instant) : Int :=
  -- events of one second are told apart by their versions
  ((Instant.ofStamp? e.created).getD now).second + (Text.int64? 10 e.version.toList).getD 0

/-- The point of an event. -/
def ofEvent (e : Event) (now : Instant) : LinePoint where
  measurement := eventMeasurement
  tags := eventTags e
  count := e.count.toInt
  fields := eventFields e
  second := eventSecond e now

end LinePoint

end ClusterWatch.Sink
