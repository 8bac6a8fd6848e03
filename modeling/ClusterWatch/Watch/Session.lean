import ClusterWatch.Watch.Translator
/-!
# Watch sessions

How the cluster's interface answers a watch: it fails, or it lists the objects and then reports
their changes until it forgets where the watch stands or falls silent.

- `Watch.Line`: a change as it is reported.
- `Watch.Session`: the answers to one listing and to the watch that follows it.
- `Watch.Feed`: the sessions to come and the changes still to be reported.
- `Watch.Feed.list`, `Watch.Feed.next`: the watch events of a listing and of the next change, and
  what the watch waits for afterwards.
-/

namespace ClusterWatch.Watch

/-- How a change is reported. -/
inductive LineType where
  | added
  | modified
  | deleted
  | bookmark
  deriving DecidableEq, Repr

/-- A change as it is reported. -/
structure Line where
  type : LineType
  object : Resource
  deriving Repr

/-- The answers of the cluster's interface. -/
inductive Session where
  /-- The listing fails. -/
  | failing
  /-- The listing succeeds and changes follow. `gone` tells whether the interface forgets where
  the watch stands after them. -/
  | listing (objects : List Resource) (lines : List Line) (gone : Bool)
  deriving Repr

/-- What a watch waits for. -/
inductive Wait where
  /-- The next change. -/
  | line
  /-- The time to list once more. -/
  | list
  /-- Nothing: no change will be reported any more. -/
  | nothing
  deriving DecidableEq, Repr

/-- What is to come for a watch. The last session answers all listings after it; without any
session all listings fail. -/
structure Feed where
  sessions : List Session := []
  lines : List Line := []
  gone : Bool := false
  deriving Inhabited

namespace Feed

/-- The session of the next listing and the sessions after it. -/
def nextSession : List Session → Session × List Session
  | [] => (.failing, [])
  | [s] => (s, [s])
  | s :: rest => (s, rest)

/-- A listing. -/
def list (f : Feed) : Feed × List Event × Wait :=
  match nextSession f.sessions with
  | (.failing, sessions) => ({ sessions }, [.init], .list)
  | (.listing objects lines gone, sessions) =>
    ({ sessions, lines, gone }, .init :: objects.map .initApply ++ [.initDone], .line)

/-- The watch event of a reported change. A change that has no version cannot be placed. -/
def eventOf (line : Line) : Option (List Event) :=
  match line.type with
  | .bookmark => some []
  | type =>
    if (line.object.version?.getD "").isEmpty then none
    else some [if type = .deleted then .delete line.object else .apply line.object]

/-- The next change. -/
def next (f : Feed) : Feed × List Event × Wait :=
  match f.lines with
  | line :: lines =>
    match eventOf line with
    | some events => ({ f with lines }, events, .line)
    | none => ({ f with lines := [] }, [], .list)
  | [] => (f, [], if f.gone then .list else .nothing)

end Feed

end ClusterWatch.Watch
