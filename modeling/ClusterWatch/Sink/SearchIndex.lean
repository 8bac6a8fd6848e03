import ClusterWatch.Config.Basic
import ClusterWatch.Event.Query
import ClusterWatch.Event.Wire
import ClusterWatch.Json.Reader
import ClusterWatch.Json.Single
import ClusterWatch.Sink.Delivery
/-!
# Search index

Events are stored as documents of a search index, which answers queries about them. The servers of
the index take turns, so that an attempt after a failure goes to the next one.

- `Sink.SearchIndex`: the settings of the sink and whose turn it is, `ElasticsearchSink` in the
  program.
- `SearchIndex.check`: its `init`.
- `SearchIndex.server?`: the server whose turn it is. The program's `server` moves the turn on as
  well, as the operations here do.
- `SearchIndex.store`: stores an event. This is `save`.
- `SearchIndex.search`: the stored events that answer a query.
-/

namespace ClusterWatch

namespace Sink

open Http (Reply Request)
open Json (Value)

/-- The settings of the search index and whose turn it is. -/
structure SearchIndex where
  servers : List String
  index : String
  turn : Nat := 0

namespace SearchIndex

variable {σ : Type}

/-- The sink of a configuration. -/
def ofConfig (c : Config) : SearchIndex where
  servers := c.sinks.searchIndex.servers.map withoutSlashes
  index := c.sinks.searchIndex.index

/-- The failure of an index that has no servers. -/
def noServers : Fault :=
  Kind.elasticsearch.fault "no servers configured"

/-- Refuses an index without servers or a name. -/
def check (i : SearchIndex) : Except Fault Unit :=
  if i.servers = [] then .error noServers
  else if i.index = "" then .error (Kind.elasticsearch.fault "index name is empty")
  else (i.servers.mapM (checkServer .elasticsearch)).map fun _ => ()

/-- The server whose turn it is. There is none to choose when there are no servers. -/
def server? (i : SearchIndex) (turn : Nat) : Option String :=
  i.servers[turn % i.servers.length]?

/-- The address of an operation on the server whose turn it is. -/
def address (i : SearchIndex) (turn : Nat) (operation : String) : String :=
  (i.server? turn).getD "" ++ "/" ++ i.index ++ "/" ++ operation

/-- The request that stores an event. -/
def storeRequest? (i : SearchIndex) (e : Event) (turn : Nat) : Option Request :=
  (Request.to? .post (i.address turn "_doc")).map fun r =>
    (r.withQuery [("refresh", "wait_for")]).withJson e.toJson

/-- Stores an event. -/
def store (i : SearchIndex) (carrier : Carrier σ) (e : Event) (f : Effects σ) :
    SearchIndex × Effects σ :=
  -- each attempt takes a turn, and so the next server
  let build (turn : Nat) := (i.storeRequest? e turn, turn + 1)
  let (outcome, turn, network) := carrier.deliver .elasticsearch build i.turn f.network
  ({ i with turn }, { f with network }.afterDelivery outcome)

/-! ### Queries -/

/-- The condition that a field of a document has all the words of a text. -/
def condition (field text : String) : Value :=
  .object [("match", .object [(field,
    .object [("query", .string text), ("operator", .string "and")])])]

/-- The body of a query. -/
def queryBody (q : EventQuery) : Value :=
  .object [("from", .int 0), ("size", .nat q.limit.toNat),
    ("query", .object [("bool", .object [("must", .array
      [condition "involvedNamespace" q.namespaceName, condition "involvedKind" q.objectKind,
        condition "involvedName" q.objectName])])])]

/-- The request of a query. -/
def searchRequest? (i : SearchIndex) (q : EventQuery) (turn : Nat) : Option Request :=
  (Request.to? .post (i.address turn "_search")).map fun r => r.withJson (queryBody q)

/-- A document of an answer: no member of the record may be given twice. -/
def document? (v : Value) : Option Event :=
  match Json.single? "_source" v with
  | none => none
  | some source =>
    let isRepeated (name : String) :=
      1 < ((source.members?.getD []).filter fun m => m.1 == name).length
    if Event.fields.any fun field => isRepeated field.name then none
    else (Event.format.read source).toOption

/-- The events of an answer. -/
def events? (body : String) : Option (List Event) := do
  let v ← (Json.read body).toOption
  let hits ← Json.single? "hits" v
  let documents ← Json.single? "hits" hits
  (← documents.items?).mapM document?

/-- What an answer to a query means. One that cannot be read is a failure for good. -/
def judgeAnswer (attempt : Attempt Fault Reply) : Attempt Fault (List Event) :=
  match attempt with
  | .success reply =>
    match events? reply.body with
    | some events => .success events
    | none => .permanent .transport
  | .transient e => .transient e
  | .permanent e => .permanent e

/-- The stored events that answer a query. -/
def search (i : SearchIndex) (carrier : Carrier σ) (q : EventQuery) (s : σ) :
    Except Fault (List Event) × SearchIndex × σ :=
  if i.servers = [] then (.error noServers, i, s)
  else
    let (outcome, turn, s) := carrier.runWith (fun turn s =>
      let (attempt, s) := carrier.send .elasticsearch (i.searchRequest? q turn) s
      (judgeAnswer attempt, turn + 1, s)) i.turn s
    (outcome, { i with turn }, s)

end SearchIndex

end Sink

end ClusterWatch
