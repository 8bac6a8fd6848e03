import ClusterWatch.Api.Listing
import ClusterWatch.Api.Query
import ClusterWatch.Json.Text
import ClusterWatch.Metrics
/-!
# Routes of the query interface

What the query interface answers: stored events, whether the watcher is alive, its counters, and
a way to stop it.

- `Api.Request`, `Api.Response`: what a client asks and what it gets.
- `Api.Route`: the resources of the interface.
- `Api.respond`: the answer to a request, and whether the watcher is asked to stop.
-/

namespace ClusterWatch.Api

open Json (Value)

/-- What a client asks. -/
structure Request where
  method : String := "GET"
  uri : String
  deriving DecidableEq, Repr

/-- What a client gets. -/
structure Response where
  status : Nat
  contentType : Option String := none
  /-- The methods that a resource knows. -/
  allow : Option String := none
  body : String := ""
  deriving DecidableEq, Repr

namespace Response

/-- An answer in JSON. -/
def json (status : Nat) (v : Value) : Response :=
  { status, contentType := some "application/json", body := v.text }

/-- An answer in plain text. -/
def plain (status : Nat) (body : String) : Response :=
  { status, contentType := some "text/plain; charset=utf-8", body }

/-- An answer that reports a failure. -/
def failure (status : Nat) (message : String) : Response :=
  json status (.object [("error", .string message)])

end Response

/-- The resources of the interface. -/
inductive Route where
  | events
  | health
  | metrics
  | stop
  deriving DecidableEq, Repr

namespace Route

/-- The path of a resource. -/
def path : Route → String
  | events => "/events"
  | health => "/healthz"
  | metrics => "/metrics"
  | stop => "/stop"

/-- The resource at a path. -/
def ofPath? (path : String) : Option Route :=
  [events, health, metrics, stop].find? fun r => r.path == path

/-- The methods that a resource knows. -/
def methods : Route → List String
  | stop => ["POST"]
  | _ => ["GET", "HEAD"]

end Route

/-- Drops the scheme and the machine of an address that names them. -/
def dropMachine (uri : List Char) : List Char :=
  match uri with
  | '/' :: _ => uri
  | _ =>
    match Text.cut? "://".toList uri with
    | some (_, rest) =>
      match rest.dropWhile fun c => c ≠ '/' && c ≠ '?' && c ≠ '#' with
      | '/' :: rest => '/' :: rest
      | rest => '/' :: rest
    | none => uri

/-- The path and the query string of an address. -/
def splitUri (uri : String) : String × List Char :=
  let (path, rest) := (dropMachine uri.toList).span fun c => c ≠ '?' && c ≠ '#'
  let query :=
    match rest with
    | '?' :: query => query.takeWhile (· ≠ '#')
    | _ => []
  (String.ofList path, query)

/-- The answer to a query for events. The query is read before it is asked whether there is a
store. -/
def listEvents {σ : Type} (store : Option (EventStore σ)) (query : List Char) (s : σ) :
    Response × σ :=
  match eventQuery (fields query) with
  | .error name =>
    (.plain 400 ("Failed to deserialize query string: duplicate field `" ++ name ++ "`"), s)
  | .ok q =>
    match store with
    | none => (.failure 503 "event search is not configured", s)
    | some search =>
      match search q s with
      | (.ok events, s) => (.json 200 (.array (events.map listing)), s)
      | (.error e, s) => (.failure 502 (e.message?.getD ""), s)

/-- The answer of a resource to a method that it knows, and whether the watcher is asked to
stop. -/
def serve {σ : Type} (store : Option (EventStore σ)) (metrics : Metrics) (route : Route)
    (query : List Char) (s : σ) : Response × Bool × σ :=
  match route with
  | .events =>
    let (response, s) := listEvents store query s
    (response, false, s)
  | .health => (.plain 200 "OK", false, s)
  | .metrics => (.json 200 metrics.toJson, false, s)
  | .stop => ({ status := 202 }, true, s)

/-- The answer to a request, and whether the watcher is asked to stop. A client that asks for the
head of an answer gets it without the body. -/
def respond {σ : Type} (store : Option (EventStore σ)) (metrics : Metrics) (r : Request)
    (s : σ) : Response × Bool × σ :=
  let (path, query) := splitUri r.uri
  match Route.ofPath? path with
  | none => ({ status := 404 }, false, s)
  | some route =>
    if r.method ∈ route.methods then
      let (response, stop, s) := serve store metrics route query s
      (if r.method = "HEAD" then { response with body := "" } else response, stop, s)
    else ({ status := 405, allow := some (",".intercalate route.methods) }, false, s)

end ClusterWatch.Api
