import ClusterWatch.Fault
import ClusterWatch.Http.Message
import ClusterWatch.Metrics
import ClusterWatch.Retry
import ClusterWatch.Sink.Log
import ClusterWatch.Text.Quoted
/-!
# Deliveries

How sinks write to a server: the request is sent until it is served, refused for good, or was tried
as often as the policy allows.

- `Sink.judge`: what an answer means for a write. This is `check_response` in the program, with
  `is_permanent_status` for the refusals.
- `Sink.Carrier`: the network and the policy under which it is used.
- `Carrier.deliver`: sends a request that is built anew for each attempt, as `deliver` does.
  `Carrier.deliverSame` is for those who build the same one each time.
- `Sink.Effects`: what sinks leave behind.
- `Effects.afterDelivery`: `report_failure`, if there is one to report.
- `Sink.checkServer`: refuses the address of a server that is none, as each `init` does.
-/

namespace ClusterWatch.Sink

open Http (Network Reply Request Url)

/-- A failure of a sink. -/
def Kind.fault (kind : Kind) (message : String) : Fault :=
  .sink kind.name message

/-- What an answer means for a write. No answer may be a mishap, and so may an answer that is
neither a success nor a refusal for good. -/
def judge (kind : Kind) : Option Reply → Attempt Fault Reply
  | none => .transient .transport
  | some reply =>
    if reply.status.isSuccess then .success reply
    else
      let fault := kind.fault ("unexpected status " ++ reply.status.text)
      if reply.status.isPermanent then .permanent fault else .transient fault

/-- The network and the policy under which sinks use it. -/
structure Carrier (σ : Type) where
  network : Network σ
  policy : RetryPolicy := {}
  /-- The random part of each pause. -/
  jitter : Nat → Rat := fun _ => 0
  /-- What becomes of a log line. -/
  note : Log.Line → σ → σ := fun _ s => s

namespace Carrier

variable {σ τ α : Type}

/-- Sends a request once. A request without a usable address gets no answer. -/
def send (c : Carrier σ) (kind : Kind) (request : Option Request) (s : σ) :
    Attempt Fault Reply × σ :=
  match request with
  | none => (judge kind none, s)
  | some r =>
    let (reply, s) := c.network r s
    (judge kind reply, s)

/-- Notes log lines one after the other. -/
def noteAll (c : Carrier σ) (lines : List Log.Line) (s : σ) : σ :=
  lines.foldl (fun s line => c.note line s) s

/-- Runs an operation that has a state of its own on the network under the policy. -/
def runWith (c : Carrier σ) (operation : τ → σ → Attempt Fault α × τ × σ) (t : τ) (s : σ) :
    Except Fault α × τ × σ :=
  let r := c.policy.run c.jitter (fun (t, s) => operation t s) (t, s)
  (r.outcome, r.state.1, c.noteAll r.lines r.state.2)

/-- Runs an operation on the network under the policy. -/
def run (c : Carrier σ) (operation : σ → Attempt Fault α × σ) (s : σ) : Except Fault α × σ :=
  let r := c.policy.run c.jitter operation s
  (r.outcome, c.noteAll r.lines r.state)

/-- Sends a request until it is served. `build` gives the request of each attempt. -/
def deliver (c : Carrier σ) (kind : Kind) (build : τ → Option Request × τ) (t : τ) (s : σ) :
    Except Fault Reply × τ × σ :=
  c.runWith (fun t s =>
    let (request, t) := build t
    let (attempt, s) := c.send kind request s
    (attempt, t, s)) t s

/-- Sends the same request until it is served. -/
def deliverSame (c : Carrier σ) (kind : Kind) (request : Option Request) (s : σ) :
    Except Fault Reply × σ :=
  c.run (c.send kind request) s

end Carrier

/-- What sinks leave behind: the state of the network, counts and log records. -/
structure Effects (σ : Type) where
  network : σ
  metrics : Metrics := {}
  records : List LogRecord := []

namespace Effects

variable {σ : Type}

/-- Counts one. -/
def count (f : Effects σ) (counter : Metrics.Counter) : Effects σ :=
  { f with metrics := f.metrics.record counter }

/-- The effects of a delivery: a failed one is counted. -/
def afterDelivery (f : Effects σ) {α : Type} (outcome : Except Fault α) : Effects σ :=
  match outcome with
  | .ok _ => f
  | .error _ => f.count .sinkFailure

end Effects

/-- Refuses the address of a server that is none. -/
def checkServer (kind : Kind) (server : String) : Except Fault Url :=
  match Url.parse server with
  | .ok url => .ok url
  | .error e =>
    .error (kind.fault ("invalid server url " ++ Text.quoted server ++ ": " ++ e.message))

/-- An address without slashes at its end. -/
def withoutSlashes (server : String) : String :=
  String.ofList ((server.toList.reverse.dropWhile (· = '/')).reverse)

end ClusterWatch.Sink
