import ClusterWatch.Resource.Basic
import ClusterWatch.Time.Stamp
/-!
# Event records

Every watched object, whatever its shape, is flattened into one record before a sink sees it.

- `Action`: what happened to the object.
- `Event`: the record.
- `Event.summary`: the line that describes a change of an object that brings no message of its
  own.
- `Event.lastSeen?`: the time of the last occurrence, when the record has a readable one.
-/

namespace ClusterWatch

open Time (Instant)

/-- What happened to an object. -/
inductive Action where
  | create
  | update
  | delete
  deriving DecidableEq, Repr, Inhabited

/-- The name of an action in records. -/
def Action.name : Action → String
  | create => "CREATE"
  | update => "UPDATE"
  | delete => "DELETE"

/-- The record of one change. Texts that an object does not have are empty. -/
structure Event where
  /-- The namespace of the object; empty for objects of the whole cluster. -/
  namespaceName : String := ""
  /-- The plural name of the object's kind. -/
  kind : String := ""
  /-- The component that reports a native event, or the type of a service. -/
  component : String := ""
  /-- The node the object lives on. -/
  host : String := ""
  /-- The reason of a native event. -/
  reason : String := ""
  /-- Reserved. -/
  status : String := ""
  /-- The name of the object. -/
  name : String := ""
  /-- The time stamp of the object's creation. -/
  created : String := ""
  /-- The change that the record is about. -/
  action : Action := .create
  /-- How often a native event has occurred. -/
  count : Int32 := 0
  /-- A summary for people. -/
  message : String := ""
  /-- The type of a native event. -/
  type : String := ""
  /-- The time stamp of the first occurrence. -/
  first : String := ""
  /-- The time stamp of the last occurrence or the last change of a condition. -/
  last : String := ""
  /-- The container that a native event is about. -/
  service : String := ""
  /-- The version of the object. -/
  version : String := ""
  /-- The name of the object that a native event is about. -/
  involvedName : String := ""
  /-- The namespace of the object that a native event is about. -/
  involvedNamespace : String := ""
  /-- The kind of the object that a native event is about. -/
  involvedKind : String := ""
  /-- The version of the object that a native event is about. -/
  involvedVersion : String := ""
  deriving DecidableEq, Repr, Inhabited

namespace Event

/-- The host of an object that names none. -/
def noHost : String := "Empty"

/-- Whether the record is about a native event of the cluster. -/
def isNative (e : Event) : Bool :=
  e.kind == Resource.Kind.events.name

/-- Describes a change in one line. Native events bring their own message. -/
def summary (e : Event) : String :=
  if e.kind = "namespaces" ∨ e.kind = "nodes" then
    e.kind ++ ":" ++ e.name ++ " has been " ++ e.action.name ++ "D"
  else if e.kind = "events" then ""
  else
    e.kind ++ ":" ++ e.name ++ " in namespace " ++ e.namespaceName ++ " has been " ++
      e.action.name ++ "D"

/-- The time of the last occurrence, when it is readable. -/
def lastSeen? (e : Event) : Option Instant :=
  Instant.ofStamp? e.last

end Event

end ClusterWatch
