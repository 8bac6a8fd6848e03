import ClusterWatch.Config.Basic
import ClusterWatch.Event.Wire
import ClusterWatch.Json.Outline
import ClusterWatch.Sink.Delivery
/-!
# Message bus

Every event is published to an exchange of a message bus, through the web interface by which the
bus is managed.

- `Sink.MessageBus`: the settings of the sink and the servers, `RabbitMqSink` in the program. Which
  server it draws is left open.
- `MessageBus.address`, `MessageBus.request?`: its `api_url` and `request`.
- `MessageBus.declare`: makes sure that the exchange, the queue and the binding between them exist.
  The program calls its `declare` for one after the other, in the `init` that is
  `MessageBus.prepare` here.
- `MessageBus.tryPublish`: one attempt of `try_publish`, whose answer `MessageBus.routed?` reads.
- `MessageBus.publish`: publishes an event. A message that no queue takes is a failure.
-/

namespace ClusterWatch.Sink

open Http (Method Reply Request Url)
open Json (Value)

/-- The settings of the message bus and its servers. -/
structure MessageBus where
  settings : Config.MessageBus
  servers : List Url := []
  /-- Which one of several servers to use. -/
  pick : List Url → Option Url := List.head?

namespace MessageBus

variable {σ : Type}

/-- The sink of a configuration. -/
def ofConfig (c : Config) : MessageBus where
  settings := c.sinks.messageBus

/-- A failure of the sink. -/
def fault (message : String) : Fault :=
  Kind.rabbitMq.fault message

/-- The sink with its servers. -/
def connect (b : MessageBus) : Except Fault MessageBus := do
  let servers ← b.settings.servers.mapM (checkServer .rabbitMq)
  return { b with servers }

/-- The address of an object of the management interface. -/
def address (b : MessageBus) (segments : List String) : Except Fault Url :=
  match b.pick b.servers with
  | none => .error (fault "no servers configured")
  | some server =>
    match server.appendSegments ("api" :: segments) with
    | none => .error (fault "server url cannot be a base")
    | some url => .ok url

/-- A request to the management interface. -/
def request? (b : MessageBus) (method : Method) (url : Url) (body : Value) : Option Request :=
  (Request.ofUrl? method url).map fun r =>
    (r.withUser b.settings.user b.settings.password).withJson body

/-- A declaration of an object of the bus. -/
structure Declaration where
  method : Method
  segments : List String
  body : Value

/-- The exchange, and the queue with the binding between them if a routing key is set. -/
def declarations (c : Config.MessageBus) : List Declaration :=
  let lasting : List (String × Value) := [("durable", .bool c.durable),
    ("auto_delete", .bool false), ("arguments", .object [])]
  let exchange : Declaration :=
    ⟨.put, ["exchanges", c.virtualHost, c.exchange],
      .object (("type", .string c.exchangeType) :: ("internal", .bool false) :: lasting)⟩
  if c.routingKey = "" then [exchange]
  else
    [exchange,
      ⟨.put, ["queues", c.virtualHost, c.routingKey], .object lasting⟩,
      ⟨.post, ["bindings", c.virtualHost, "e", c.exchange, "q", c.routingKey],
        .object [("routing_key", .string c.routingKey), ("arguments", .object [])]⟩]

/-- The line about a declaration that was made. -/
def declared : Log.Line :=
  ⟨.debug, "k8swatch::sink::rabbitmq", "Declared"⟩

/-- Makes declarations one after the other, up to the first that fails. -/
def declare (b : MessageBus) (carrier : Carrier σ) :
    List Declaration → σ → Except Fault Unit × σ
  | [], s => (.ok (), s)
  | d :: rest, s =>
    match b.address d.segments with
    | .error e => (.error e, s)
    | .ok url =>
      match carrier.deliverSame .rabbitMq (b.request? d.method url d.body) s with
      | (.ok _, s) => declare b carrier rest (carrier.note declared s)
      | (.error e, s) => (.error e, s)

/-- Connects to the servers and makes the declarations. -/
def prepare (b : MessageBus) (carrier : Carrier σ) (s : σ) : Except Fault MessageBus × σ :=
  match b.connect with
  | .error e => (.error e, s)
  | .ok b =>
    if b.servers.isEmpty then (.error (fault "no servers configured"), s)
    else
      let (outcome, s) := b.declare carrier (declarations b.settings) s
      (outcome.map fun _ => b, s)

/-- The body of the request that publishes an event. -/
def message (c : Config.MessageBus) (e : Event) : Value :=
  .object
    [("properties", .object [("delivery_mode", .int 2), ("content_type", .string "text/plain")]),
      ("routing_key", .string c.routingKey),
      ("payload", .string e.text),
      ("payload_encoding", .string "string")]

/-- Whether a published message reached a queue, by the answer of the bus. What else the answer says
does not matter. -/
def routed? (reply : Reply) : Option Bool :=
  (Json.soleText? "routed" reply.body.toList).bind Json.truth?

/-- What the answer to a published message means. One that cannot be read may be a mishap. -/
def judgeRouting (attempt : Attempt Fault Reply) : Attempt Fault Bool :=
  match attempt with
  | .success reply =>
    match routed? reply with
    | some routed => .success routed
    | none => .transient .transport
  | .transient e => .transient e
  | .permanent e => .permanent e

/-- One attempt to publish an event. -/
def tryPublish (b : MessageBus) (carrier : Carrier σ) (e : Event) (s : σ) :
    Attempt Fault Bool × σ :=
  let c := b.settings
  match b.address ["exchanges", c.virtualHost, c.exchange, "publish"] with
  | .error fault => (.permanent fault, s)
  | .ok url =>
    let (attempt, s) := carrier.send .rabbitMq (b.request? .post url (message c e)) s
    (judgeRouting attempt, s)

/-- The failure of a message that no queue took. -/
def unrouted (c : Config.MessageBus) : Fault :=
  fault ("message to exchange " ++ Text.quoted c.exchange ++ " with routing key " ++
    Text.quoted c.routingKey ++ " was not routed to any queue")

/-- Publishes an event. -/
def publish (b : MessageBus) (carrier : Carrier σ) (e : Event) (f : Effects σ) : Effects σ :=
  let (outcome, network) := carrier.run (b.tryPublish carrier e) f.network
  let outcome := outcome.bind fun routed =>
    if routed then .ok () else .error (unrouted b.settings)
  { f with network }.afterDelivery outcome

end MessageBus

end ClusterWatch.Sink
