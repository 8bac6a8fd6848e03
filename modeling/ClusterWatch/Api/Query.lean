import ClusterWatch.Event.Query
import ClusterWatch.Text.Blank
import ClusterWatch.Text.Percent
import ClusterWatch.Text.Search
/-!
# Query strings

The query that a client of the query interface puts into an address.

- `Api.fields`: the form fields of a query string.
- `Api.eventQuery`: the query that form fields denote.
-/

namespace ClusterWatch.Api

/-- A form field: its name and its value, which may be left out. -/
def field (piece : List Char) : String × String :=
  let (name, value) := piece.span (· ≠ '=')
  (Text.Percent.formDecode name, Text.Percent.formDecode value.tail)

/-- The form fields of a query string. -/
def fields (query : List Char) : List (String × String) :=
  ((Text.split '&' query).filter (!·.isEmpty)).map field

/-- The names of the fields that matter. -/
def knownFields : List String :=
  ["namespace", "kind_name", "limit"]

/-- The first name that matters and comes for the second time. -/
def repeated? : List String → List String → Option String
  | _, [] => none
  | before, name :: rest =>
    if name ∈ knownFields ∧ name ∈ before then some name else repeated? (name :: before) rest

/-- How many events are served when the query does not say. -/
def defaultLimit : UInt64 := 10

/-- The kind of objects whose events are served. -/
def objectKind : String := "Pod"

/-- The number of events that a text asks for. What is no positive number counts as not given. -/
def limitOf (text : Option String) : UInt64 :=
  match (text.bind fun t => Text.unsigned64? (Text.trim t.toList)).filter (0 < ·) with
  | some n => .ofNat n
  | none => defaultLimit

/-- The query that form fields denote, or the name of a field that is given twice. -/
def eventQuery (fields : List (String × String)) : Except String EventQuery :=
  match repeated? [] (fields.map (·.1)) with
  | some name => .error name
  | none => .ok
      { namespaceName := (fields.lookup "namespace").getD ""
        objectName := (fields.lookup "kind_name").getD ""
        objectKind := objectKind
        limit := limitOf (fields.lookup "limit") }

end ClusterWatch.Api
