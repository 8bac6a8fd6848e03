import ClusterWatch.Config.Basic
import ClusterWatch.Sink.Delivery
/-!
# Webhooks

Every event's message is posted to a web service.

- `Sink.Webhook`: the settings of the sink, `WebhookSink` in the program.
- `Webhook.check`: settles on an address, which the environment may give. This is its `init`.
- `Webhook.notify`: posts the message of an event.
-/

namespace ClusterWatch.Sink

open Http (Request)
open Json (Value)

/-- The settings of the webhook sink. -/
structure Webhook where
  url : String

namespace Webhook

/-- The environment variable that gives the address if the configuration does not. -/
def urlVariable : String := "KW_WEBHOOK_URL"

/-- The sink of a configuration. -/
def ofConfig (c : Config) : Webhook :=
  ⟨c.sinks.webhook.url⟩

/-- Settles on an address. -/
def check (w : Webhook) (environment : Option String) : Except Fault Webhook :=
  let url := if w.url = "" then environment.getD "" else w.url
  if url = "" then
    .error (Kind.webhook.fault
      ("missing webhook url: set handlers.webhook.url or " ++ urlVariable))
  else .ok ⟨url⟩

/-- The request that posts the message of an event. -/
def request? (w : Webhook) (e : Event) : Option Request :=
  (Request.to? .post w.url).map fun r => r.withJson (.object [("text", .string e.message)])

/-- Posts the message of an event. -/
def notify {σ : Type} (w : Webhook) (carrier : Carrier σ) (e : Event) (f : Effects σ) :
    Effects σ :=
  let (outcome, network) := carrier.deliverSame .webhook (w.request? e) f.network
  { f with network }.afterDelivery outcome

end Webhook

end ClusterWatch.Sink
