import ClusterWatch.Proofs.Http.Url
import ClusterWatch.Proofs.Json.Outline
import ClusterWatch.Proofs.Sink.Exchange
import ClusterWatch.Sink.Registry
/-!
# What a notification makes a sink do

The sinks that write to a server do one of two things about a notification: nothing at all, or a
delivery. What comes of the delivery is counted if it is a failure, and nobody is told.

- `Settles`, `Served`: the reports that end a delivery, and those of a success.
- `Delivery`: what happens on the network.
- `Accounted`: what is counted.
- `Ignores`: the notifications that a sink of a kind does nothing about.
- `Adapter.requestAt`: the requests that a sink makes. `Adapter.Posts` spells them out.
- `Adapter.Ready`, `Adapter.Used`: a sink that got ready, and what becomes of it later.
- `Adapter.Usable`: a sink whose addresses name machines, so that it has a request to make.

Main result: `Adapter.notify_accounted`.
-/

namespace ClusterWatch.Sink

open Http (Reply Request Url)
open Json (Value)
open Time (Instant)

variable {σ : Type} {c : Carrier σ} {kind : Kind}

/-! ### Reports -/

/-- A report after which no attempt follows. From a bus it is an answer that says what became of the
message. -/
inductive Settles (kind : Kind) : Option Reply → Prop
  | served {reply : Reply} : 200 ≤ reply.status.code → reply.status.code < 300 →
      (kind = .rabbitMq → (MessageBus.routed? reply).isSome) → Settles kind (some reply)
  /-- The request was refused, and not because the server was short of time. -/
  | refused {reply : Reply} : 400 ≤ reply.status.code → reply.status.code < 500 →
      reply.status.code ≠ 408 → reply.status.code ≠ 429 → Settles kind (some reply)

/-- A report of a success. A bus has to say that a queue took the message. -/
def Served (kind : Kind) (report : Option Reply) : Prop :=
  ∃ reply, report = some reply ∧ 200 ≤ reply.status.code ∧ reply.status.code < 300 ∧
    (kind = .rabbitMq → MessageBus.routed? reply = some true)

/-- An answer that holds a tree tells by its tree whether a message was routed. -/
theorem MessageBus.routed?_of_read {reply : Reply} {v : Value} (h : Json.read reply.body = .ok v) :
    MessageBus.routed? reply = (Json.single? "routed" v).bind Value.bool? :=
  Json.soleText?_of_readChars h "routed"

theorem isSuccess_iff {status : Http.Status} :
    status.isSuccess = true ↔ 200 ≤ status.code ∧ status.code < 300 := by
  simp [Http.Status.isSuccess]

theorem isPermanent_iff {status : Http.Status} :
    status.isPermanent = true ↔ 400 ≤ status.code ∧ status.code < 500 ∧ status.code ≠ 408 ∧
      status.code ≠ 429 := by
  simp [Http.Status.isPermanent, and_assoc]

/-- An answer is a success, a refusal for good, or neither. -/
theorem judge_cases (kind : Kind) (reply : Reply) :
    (200 ≤ reply.status.code ∧ reply.status.code < 300 ∧ judge kind (some reply) = .success reply) ∨
    (400 ≤ reply.status.code ∧ reply.status.code < 500 ∧ reply.status.code ≠ 408 ∧
      reply.status.code ≠ 429 ∧ ∃ fault, judge kind (some reply) = .permanent fault) ∨
    ((¬ (200 ≤ reply.status.code ∧ reply.status.code < 300)) ∧
      (¬ (400 ≤ reply.status.code ∧ reply.status.code < 500 ∧ reply.status.code ≠ 408 ∧
        reply.status.code ≠ 429)) ∧ ∃ fault, judge kind (some reply) = .transient fault) := by
  by_cases hsuccess : reply.status.isSuccess = true
  · have hcode := isSuccess_iff.mp hsuccess
    exact .inl ⟨hcode.1, hcode.2, if_pos hsuccess⟩
  · have hother := mt isSuccess_iff.mpr hsuccess
    by_cases hpermanent : reply.status.isPermanent = true
    · obtain ⟨hlow, hhigh, htimeout, htoomany⟩ := isPermanent_iff.mp hpermanent
      exact .inr (.inl ⟨hlow, hhigh, htimeout, htoomany, _,
        (if_neg hsuccess).trans (if_pos hpermanent)⟩)
    · exact .inr (.inr ⟨hother, mt isPermanent_iff.mpr hpermanent, _,
        (if_neg hsuccess).trans (if_neg hpermanent)⟩)

theorem not_settles_none : ¬ Settles kind none := by
  rintro ⟨⟩

theorem not_settles_of_retried {reply : Reply}
    (hfailed : ¬ (200 ≤ reply.status.code ∧ reply.status.code < 300))
    (hretried : ¬ (400 ≤ reply.status.code ∧ reply.status.code < 500 ∧ reply.status.code ≠ 408 ∧
      reply.status.code ≠ 429)) : ¬ Settles kind (some reply) := by
  rintro (⟨hlow, hhigh, -⟩ | ⟨hlow, hhigh, htimeout, htoomany⟩)
  · exact hfailed ⟨hlow, hhigh⟩
  · exact hretried ⟨hlow, hhigh, htimeout, htoomany⟩

theorem not_served_none : ¬ Served kind none := by
  rintro ⟨reply, hreply, -⟩
  cases hreply

theorem served_some_iff {reply : Reply} :
    Served kind (some reply) ↔ 200 ≤ reply.status.code ∧ reply.status.code < 300 ∧
      (kind = .rabbitMq → MessageBus.routed? reply = some true) := by
  simp [Served]

theorem isFinal_judge (hkind : kind ≠ .rabbitMq) (report : Option Reply) :
    (judge kind report).isFinal = true ↔ Settles kind report := by
  cases report with
  | none => exact iff_of_false Bool.false_ne_true not_settles_none
  | some reply =>
    rcases judge_cases kind reply with ⟨hlow, hhigh, hjudge⟩ |
      ⟨hlow, hhigh, htimeout, htoomany, fault, hjudge⟩ | ⟨hfailed, hretried, fault, hjudge⟩
    · rw [hjudge]
      exact iff_of_true rfl (.served hlow hhigh fun hbus => absurd hbus hkind)
    · rw [hjudge]
      exact iff_of_true rfl (.refused hlow hhigh htimeout htoomany)
    · rw [hjudge]
      exact iff_of_false Bool.false_ne_true (not_settles_of_retried hfailed hretried)

theorem isOk_judge (hkind : kind ≠ .rabbitMq) (report : Option Reply) :
    (judge kind report).outcome.isOk = true ↔ Served kind report := by
  cases report with
  | none => exact iff_of_false Bool.false_ne_true not_served_none
  | some reply =>
    rw [served_some_iff]
    rcases judge_cases kind reply with ⟨hlow, hhigh, hjudge⟩ | ⟨hlow, -, -, -, fault, hjudge⟩ |
      ⟨hfailed, -, fault, hjudge⟩
    · rw [hjudge]
      exact iff_of_true rfl ⟨hlow, hhigh, fun hbus => absurd hbus hkind⟩
    · rw [hjudge]
      exact iff_of_false Bool.false_ne_true fun h => by omega
    · rw [hjudge]
      exact iff_of_false Bool.false_ne_true fun h => hfailed ⟨h.1, h.2.1⟩

/-- The answer of a bus is judged by what it says of the message. -/
theorem isFinal_judgeRouting (report : Option Reply) :
    (MessageBus.judgeRouting (judge .rabbitMq report)).isFinal = true ↔
      Settles .rabbitMq report := by
  cases report with
  | none => exact iff_of_false Bool.false_ne_true not_settles_none
  | some reply =>
    rcases judge_cases .rabbitMq reply with ⟨hlow, hhigh, hjudge⟩ |
      ⟨hlow, hhigh, htimeout, htoomany, fault, hjudge⟩ | ⟨hfailed, hretried, fault, hjudge⟩
    · rw [hjudge, MessageBus.judgeRouting]
      cases hrouted : MessageBus.routed? reply with
      | some routed => exact iff_of_true rfl (.served hlow hhigh fun _ => by rw [hrouted]; rfl)
      | none =>
        -- a success that says nothing of the message is no end
        refine iff_of_false Bool.false_ne_true ?_
        rintro (⟨-, -, hsome⟩ | ⟨hlow', -⟩)
        · have hsome := hsome rfl
          rw [hrouted] at hsome
          cases hsome
        · omega
    · rw [hjudge]
      exact iff_of_true rfl (.refused hlow hhigh htimeout htoomany)
    · rw [hjudge]
      exact iff_of_false Bool.false_ne_true (not_settles_of_retried hfailed hretried)

/-- A message that no queue took was not published. -/
theorem isOk_judgeRouting (settings : Config.MessageBus) (report : Option Reply) :
    ((MessageBus.judgeRouting (judge .rabbitMq report)).outcome.bind fun routed =>
      if routed then .ok () else .error (MessageBus.unrouted settings)).isOk = true ↔
      Served .rabbitMq report := by
  cases report with
  | none => exact iff_of_false Bool.false_ne_true not_served_none
  | some reply =>
    rw [served_some_iff]
    rcases judge_cases .rabbitMq reply with ⟨hlow, hhigh, hjudge⟩ |
      ⟨hlow, -, -, -, fault, hjudge⟩ | ⟨hfailed, -, fault, hjudge⟩
    · rw [hjudge, MessageBus.judgeRouting]
      cases MessageBus.routed? reply with
      | none => exact iff_of_false Bool.false_ne_true fun h => by cases h.2.2 rfl
      | some routed =>
        cases routed with
        | true => exact iff_of_true rfl ⟨hlow, hhigh, fun _ => rfl⟩
        | false => exact iff_of_false Bool.false_ne_true fun h => by cases h.2.2 rfl
    · rw [hjudge]
      exact iff_of_false Bool.false_ne_true fun h => by omega
    · rw [hjudge]
      exact iff_of_false Bool.false_ne_true fun h => hfailed ⟨h.1, h.2.1⟩

/-! ### Deliveries -/

/-- What is logged about the attempts of a delivery. -/
def deliveryLog (kind : Kind) (earlier : List (Option Reply)) (last : Option Reply) :
    List Log.Line :=
  if kind = .rabbitMq then
    Carrier.log earlier (MessageBus.judgeRouting (judge kind last))
  else Carrier.log earlier (judge kind last)

/-- Attempts are made, with the requests in turn, and the client reports of the last of them and of
the `earlier` ones. They follow the policy, and nothing else happens on the network than that they
are made and logged. -/
structure Delivery (c : Carrier σ) (kind : Kind) (request : Nat → Option Request) (s s' : σ)
    (earlier : List (Option Reply)) (last : Option Reply) : Prop where
  reports : (c.exchange ((List.range (earlier.length + 1)).map request) s).1 = earlier ++ [last]
  course : Course (Settles kind) (max c.policy.attempts 1) earlier last
  network : s' = c.noteAll (deliveryLog kind earlier last)
    (c.exchange ((List.range (earlier.length + 1)).map request) s).2

theorem deliverSame_delivery (hkind : kind ≠ .rabbitMq) (c : Carrier σ) (request : Option Request)
    (s : σ) :
    ∃ earlier last s', Delivery c kind (fun _ => request) s s' earlier last ∧
      c.deliverSame kind request s = ((judge kind last).outcome, s') := by
  obtain ⟨earlier, last, network, hexchange, hcourse, hrun⟩ :=
    Carrier.run_exchanges (c.sends_send kind request) s
  refine ⟨earlier, last, _, ⟨by rw [hexchange], hcourse.congr (isFinal_judge hkind), ?_⟩, hrun⟩
  rw [hexchange, deliveryLog, if_neg hkind]

theorem deliver_delivery (hkind : kind ≠ .rabbitMq) (c : Carrier σ)
    (request : Nat → Option Request) (turn : Nat) (s : σ) :
    ∃ earlier last s', Delivery c kind (fun k => request (turn + k)) s s' earlier last ∧
      c.deliver kind (fun turn => (request turn, turn + 1)) turn s =
        ((judge kind last).outcome, turn + (earlier.length + 1), s') := by
  obtain ⟨earlier, last, network, hexchange, hcourse, hrun⟩ :=
    c.deliver_exchanges kind request turn s
  refine ⟨earlier, last, _, ⟨by rw [hexchange], hcourse.congr (isFinal_judge hkind), ?_⟩, hrun⟩
  rw [hexchange, deliveryLog, if_neg hkind]

/-! ### Counts -/

/-- A write that has not succeeded is counted, and that is all that is kept of it. -/
structure Accounted (f f' : Effects σ) (Succeeded : Prop) : Prop where
  succeeded : Succeeded → f'.metrics = f.metrics
  failed : ¬ Succeeded →
    f'.metrics = { f.metrics with sinkFailures := f.metrics.sinkFailures + 1 }
  records : f'.records = f.records

theorem accounted_afterDelivery {α : Type} {outcome : Except Fault α} {Succeeded : Prop}
    (h : outcome.isOk = true ↔ Succeeded) (f : Effects σ) (s : σ) :
    Accounted f ({ f with network := s }.afterDelivery outcome) Succeeded := by
  cases outcome with
  | ok _ => exact ⟨fun _ => rfl, fun hfailed => absurd (h.mp rfl) hfailed, rfl⟩
  | error _ => exact ⟨fun hsucceeded => (by cases h.mpr hsucceeded), fun _ => rfl, rfl⟩

theorem network_afterDelivery {α : Type} (outcome : Except Fault α) (f : Effects σ) :
    (f.afterDelivery outcome).network = f.network := by
  cases outcome <;> rfl

/-- What a sink does about a notification that it does not ignore: a delivery, which is counted. -/
structure Wrote (c : Carrier σ) (kind : Kind) (request : Nat → Option Request) (f f' : Effects σ)
    (earlier : List (Option Reply)) (last : Option Reply) : Prop where
  delivery : Delivery c kind request f.network f'.network earlier last
  accounted : Accounted f f' (Served kind last)

theorem wrote_afterDelivery {α : Type} {request : Nat → Option Request} {f : Effects σ} {s : σ}
    {earlier : List (Option Reply)} {last : Option Reply} {outcome : Except Fault α}
    (hdelivery : Delivery c kind request f.network s earlier last)
    (hok : outcome.isOk = true ↔ Served kind last) :
    Wrote c kind request f ({ f with network := s }.afterDelivery outcome) earlier last where
  delivery := by rwa [network_afterDelivery]
  accounted := accounted_afterDelivery hok f s

/-! ### Sinks -/

theorem Webhook.notify_wrote (w : Webhook) (c : Carrier σ) (e : Event) (f : Effects σ) :
    ∃ earlier last, Wrote c .webhook (fun _ => w.request? e) f (w.notify c e f) earlier last := by
  have hkind : Kind.webhook ≠ .rabbitMq := by decide
  obtain ⟨earlier, last, s', hdelivery, hdeliver⟩ :=
    deliverSame_delivery hkind c (w.request? e) f.network
  refine ⟨earlier, last, ?_⟩
  rw [notify, hdeliver]
  exact wrote_afterDelivery hdelivery (isOk_judge hkind last)

/-- A search index that got ready has servers. -/
theorem SearchIndex.servers_ne_nil_of_check {i : SearchIndex} (h : i.check = .ok ()) :
    i.servers ≠ [] := by
  intro hnil
  rw [check, if_pos hnil] at h
  cases h

/-- There is always a server to choose if there are servers at all. -/
theorem SearchIndex.exists_server? {i : SearchIndex} (h : i.servers ≠ []) (turn : Nat) :
    ∃ server, i.servers[turn % i.servers.length]? = some server ∧
      i.server? turn = some server := by
  have hlt := Nat.mod_lt turn (List.length_pos_iff.mpr h)
  exact ⟨_, List.getElem?_eq_getElem hlt, List.getElem?_eq_getElem hlt⟩

theorem SearchIndex.address_eq {i : SearchIndex} {turn : Nat} {server : String}
    (h : i.server? turn = some server) (operation : String) :
    i.address turn operation = server ++ "/" ++ i.index ++ "/" ++ operation := by
  rw [address, h, Option.getD_some]

theorem SearchIndex.servers_search (i : SearchIndex) (c : Carrier σ) (q : EventQuery)
    (s : σ) : (i.search c q s).2.1.servers = i.servers := by
  unfold search
  split <;> rfl

/-- The attempts to store an event take the servers in turn. -/
theorem SearchIndex.store_wrote (i : SearchIndex) (c : Carrier σ) (e : Event) (f : Effects σ) :
    ∃ earlier last,
      Wrote c .elasticsearch (fun k => i.storeRequest? e (i.turn + k)) f (i.store c e f).2 earlier
        last ∧
      (i.store c e f).1 = { i with turn := i.turn + (earlier.length + 1) } := by
  have hkind : Kind.elasticsearch ≠ .rabbitMq := by decide
  obtain ⟨earlier, last, s', hdelivery, hdeliver⟩ :=
    deliver_delivery hkind c (i.storeRequest? e) i.turn f.network
  refine ⟨earlier, last, ?_⟩
  rw [store, hdeliver]
  exact ⟨wrote_afterDelivery hdelivery (isOk_judge hkind last), rfl⟩

theorem SearchIndex.servers_store (i : SearchIndex) (c : Carrier σ) (e : Event) (f : Effects σ) :
    (i.store c e f).1.servers = i.servers := by
  obtain ⟨_, _, -, hturn⟩ := i.store_wrote c e f
  rw [hturn]

/-- A point is written on behalf of the user, if there is one. -/
theorem TimeSeries.request?_eq_some_iff {t : TimeSeries} {point : LinePoint} {r : Request} :
    t.request? point = some r ↔
      ∃ url, Url.parse (t.server ++ "/write") = .ok url ∧ url.host.isSome = true ∧
        r = { method := .post,
              url := url.appendQuery [("db", t.database), ("precision", "s")],
              authorization := if t.user = "" then none
                else some ("Basic " ++ Text.Base64.encode (t.user ++ ":" ++ t.password)),
              body := point.text } := by
  rw [request?, Request.map_to?_eq_some_iff]
  by_cases huser : t.user = ""
  · simp only [huser, if_true]
    rfl
  · simp only [huser, if_false]
    rfl

theorem TimeSeries.write_wrote (t : TimeSeries) (c : Carrier σ) (now : Instant) {e : Event}
    (hnative : e.isNative = true) (f : Effects σ) :
    ∃ earlier last,
      Wrote c .influxDb (fun _ => t.request? (.ofEvent e now)) f (t.write c now e f) earlier
        last := by
  have hkind : Kind.influxDb ≠ .rabbitMq := by decide
  obtain ⟨earlier, last, s', hdelivery, hdeliver⟩ :=
    deliverSame_delivery hkind c (t.request? (.ofEvent e now)) f.network
  refine ⟨earlier, last, ?_⟩
  simp only [write, hnative, Bool.not_true, Bool.false_eq_true, if_false, hdeliver]
  exact wrote_afterDelivery hdelivery (isOk_judge hkind last)

namespace MessageBus

/-- A bus whose server is a machine and has a path that can be gone along. -/
def Connected (b : MessageBus) : Prop :=
  ∃ server path, b.pick b.servers = some server ∧ server.host.isSome = true ∧
    server.path = .segments path

theorem address_eq_ok_iff {b : MessageBus} {segments : List String} {url : Url} :
    b.address segments = .ok url ↔ ∃ server, b.pick b.servers = some server ∧
      server.appendSegments ("api" :: segments) = some url := by
  unfold address
  cases hpick : b.pick b.servers with
  | none => simp
  | some server => cases hurl : server.appendSegments ("api" :: segments) <;> simp [hurl]

theorem appendSegments_eq_some {server url : Url} {segments : List String}
    (h : server.appendSegments segments = some url) :
    (∃ path, server.path = .segments path) ∧ url.host = server.host := by
  unfold Url.appendSegments at h
  split at h
  · cases h
  · next path hpath =>
    obtain rfl := Option.some.inj h
    exact ⟨⟨path, hpath⟩, rfl⟩

/-- The requests to a bus name its user. -/
theorem request?_eq_some_iff {b : MessageBus} {method : Http.Method} {url : Url}
    {body : Value} {r : Request} :
    b.request? method url body = some r ↔ url.host.isSome = true ∧
      r = { method, url, contentType := some "application/json",
            authorization := some ("Basic " ++ Text.Base64.encode (b.settings.user ++ ":" ++
              b.settings.password)),
            body := body.text } := by
  simp only [request?, Option.map_eq_some_iff, Request.ofUrl?_eq_some_iff]
  constructor
  · rintro ⟨_, ⟨hhost, rfl⟩, rfl⟩
    exact ⟨hhost, rfl⟩
  · rintro ⟨hhost, rfl⟩
    exact ⟨_, ⟨hhost, rfl⟩, rfl⟩

theorem connected_of_declare {b : MessageBus} {d : Declaration} {rest : List Declaration}
    {s s' : σ} (h : b.declare c (d :: rest) s = (.ok (), s')) : b.Connected := by
  rw [declare] at h
  split at h
  · cases (Prod.mk.inj h).1
  · next url hurl =>
    split at h
    · next hdeliver =>
      obtain ⟨server, hserver, hsegments⟩ := address_eq_ok_iff.mp hurl
      obtain ⟨⟨path, hpath⟩, hhost⟩ := appendSegments_eq_some hsegments
      obtain ⟨r, hr⟩ := Option.isSome_iff_exists.mp (Carrier.isSome_of_deliverSame hdeliver)
      exact ⟨server, path, hserver, hhost ▸ (request?_eq_some_iff.mp hr).1, hpath⟩
    · cases (Prod.mk.inj h).1

theorem Connected.address {b : MessageBus} (h : b.Connected) (segments : List String) :
    ∃ server url, b.pick b.servers = some server ∧
      server.appendSegments ("api" :: segments) = some url ∧ url.host.isSome = true := by
  obtain ⟨server, path, hserver, hhost, hpath⟩ := h
  have hsegments : ∃ url, server.appendSegments ("api" :: segments) = some url := by
    rw [Url.appendSegments, hpath]
    exact ⟨_, rfl⟩
  obtain ⟨url, hurl⟩ := hsegments
  exact ⟨server, url, hserver, hurl, (appendSegments_eq_some hurl).2 ▸ hhost⟩

/-- A bus that got ready is connected: at least the exchange was declared. -/
theorem connected_of_prepare {b ready : MessageBus} {s s' : σ}
    (h : b.prepare c s = (.ok ready, s')) : ready.Connected := by
  unfold prepare at h
  split at h
  · cases (Prod.mk.inj h).1
  · next b' _ =>
    split at h
    · cases (Prod.mk.inj h).1
    · obtain ⟨d, rest, hdeclarations⟩ : ∃ d rest, declarations b'.settings = d :: rest := by
        unfold declarations
        split <;> exact ⟨_, _, rfl⟩
      rcases hdeclare : b'.declare c (declarations b'.settings) s with ⟨_ | _, s''⟩
      · rw [hdeclare] at h
        cases (Prod.mk.inj h).1
      · rw [hdeclare] at h
        obtain rfl := Except.ok.inj (Prod.mk.inj h).1
        rw [hdeclarations] at hdeclare
        exact connected_of_declare hdeclare

/-- The request that publishes an event. -/
def publishRequest? (b : MessageBus) (e : Event) : Option Request :=
  match b.address ["exchanges", b.settings.virtualHost, b.settings.exchange, "publish"] with
  | .ok url => b.request? .post url (message b.settings e)
  | .error _ => none

theorem publishRequest?_eq_some_iff {b : MessageBus} {e : Event} {r : Request} :
    b.publishRequest? e = some r ↔
      ∃ server url, b.pick b.servers = some server ∧
        server.appendSegments ["api", "exchanges", b.settings.virtualHost, b.settings.exchange,
          "publish"] = some url ∧ url.host.isSome = true ∧
        r = { method := .post, url, contentType := some "application/json",
              authorization := some ("Basic " ++
                Text.Base64.encode (b.settings.user ++ ":" ++ b.settings.password)),
              body := (message b.settings e).text } := by
  unfold publishRequest?
  constructor
  · intro h
    split at h
    · next url hurl =>
      obtain ⟨server, hserver, hsegments⟩ := address_eq_ok_iff.mp hurl
      obtain ⟨hhost, rfl⟩ := request?_eq_some_iff.mp h
      exact ⟨server, url, hserver, hsegments, hhost, rfl⟩
    · cases h
  · rintro ⟨server, url, hserver, hsegments, hhost, rfl⟩
    rw [address_eq_ok_iff.mpr ⟨server, hserver, hsegments⟩]
    exact request?_eq_some_iff.mpr ⟨hhost, rfl⟩

theorem publish_wrote {b : MessageBus} (hconnected : b.Connected) (c : Carrier σ) (e : Event)
    (f : Effects σ) :
    ∃ earlier last,
      Wrote c .rabbitMq (fun _ => b.publishRequest? e) f (b.publish c e f) earlier last := by
  have hsends : c.Sends id (fun _ => b.publishRequest? e)
      (fun report => judgeRouting (judge .rabbitMq report)) (b.tryPublish c e) := by
    obtain ⟨server, url, hserver, hsegments, -⟩ := hconnected.address
      ["exchanges", b.settings.virtualHost, b.settings.exchange, "publish"]
    have hurl := address_eq_ok_iff.mpr ⟨server, hserver, hsegments⟩
    have hrequest : b.publishRequest? e = b.request? .post url (message b.settings e) := by
      simp only [publishRequest?, hurl]
    constructor <;> intro s <;> simp only [tryPublish, hurl, Carrier.send_eq, hrequest, id]
  obtain ⟨earlier, last, network, hexchange, hcourse, hrun⟩ :=
    Carrier.run_exchanges hsends f.network
  refine ⟨earlier, last, ?_⟩
  rw [publish, hrun]
  refine wrote_afterDelivery ⟨by rw [hexchange], hcourse.congr isFinal_judgeRouting, ?_⟩
    (isOk_judgeRouting b.settings last)
  rw [hexchange, deliveryLog, if_pos rfl]

end MessageBus

namespace Adapter

/-- The request of the next attempt but `k` of a sink that is told of an event. -/
def requestAt (now : Instant) (e : Event) (k : Nat) : Adapter → Option Request
  | log => none
  | alert sink => sink.request? e (sink.tables.classify e)
  | webhook sink => sink.request? e
  | searchIndex sink => sink.storeRequest? e (sink.turn + k)
  | timeSeries sink => sink.request? (.ofEvent e now)
  | messageBus sink => sink.publishRequest? e

/-- The sink after a number of attempts: another server may be the next. -/
def afterAttempts (n : Nat) : Adapter → Adapter
  | searchIndex sink => searchIndex { sink with turn := sink.turn + n }
  | a => a

/-- What a sink asks of a server in the next attempt but `k` about an event. -/
inductive Posts (now : Instant) (e : Event) (k : Nat) : Adapter → Request → Prop
  | webhook {sink : Webhook} {url : Url} :
      Url.parse sink.url = .ok url → url.host.isSome = true →
      Posts now e k (webhook sink)
        { method := .post, url, contentType := some "application/json",
          body := (Value.object [("text", .string e.message)]).text }
  /-- The servers take turns. -/
  | searchIndex {sink : SearchIndex} {server : String} {url : Url} :
      sink.servers[(sink.turn + k) % sink.servers.length]? = some server →
      Url.parse (server ++ "/" ++ sink.index ++ "/_doc") = .ok url → url.host.isSome = true →
      Posts now e k (searchIndex sink)
        { method := .post, url := url.appendQuery [("refresh", "wait_for")],
          contentType := some "application/json", body := e.toJson.text }
  | timeSeries {sink : TimeSeries} {url : Url} :
      Url.parse (sink.server ++ "/write") = .ok url → url.host.isSome = true →
      Posts now e k (timeSeries sink)
        { method := .post,
          url := url.appendQuery [("db", sink.database), ("precision", "s")],
          authorization := if sink.user = "" then none
            else some ("Basic " ++ Text.Base64.encode (sink.user ++ ":" ++ sink.password)),
          body := (LinePoint.ofEvent e now).text }
  | messageBus {sink : MessageBus} {server url : Url} :
      sink.pick sink.servers = some server →
      server.appendSegments ["api", "exchanges", sink.settings.virtualHost, sink.settings.exchange,
        "publish"] = some url → url.host.isSome = true →
      Posts now e k (messageBus sink)
        { method := .post, url, contentType := some "application/json",
          authorization := some ("Basic " ++
            Text.Base64.encode (sink.settings.user ++ ":" ++ sink.settings.password)),
          body := (Value.object
            [("properties",
                .object [("delivery_mode", .int 2), ("content_type", .string "text/plain")]),
              ("routing_key", .string sink.settings.routingKey),
              ("payload", .string e.toJson.text),
              ("payload_encoding", .string "string")]).text }

/-- What getting ready has made sure of. -/
def Ready : Adapter → Prop
  | searchIndex sink => sink.servers ≠ []
  | messageBus sink => sink.Connected
  | _ => True

/-- The addresses of a sink name machines. Of a bus that got ready this is known. -/
def Usable : Adapter → Prop
  | webhook sink => ∃ url, Url.parse sink.url = .ok url ∧ url.host.isSome = true
  | searchIndex sink => ∀ server ∈ sink.servers, Url.IsUsable server
  | timeSeries sink => Url.IsUsable sink.server
  | _ => True

/-- What becomes of a sink that is told of events and asked for some. -/
inductive Used (a : Adapter) : Adapter → Prop
  | fresh : Used a a
  | notified {σ : Type} {b : Adapter} (carrier : Carrier σ) (now : Instant)
      (notification : Notification) (e : Event) (f : Effects σ) :
      Used a b → Used a (b.notify carrier now notification e f).1
  | searched {σ : Type} {i : SearchIndex} (carrier : Carrier σ) (q : EventQuery) (s : σ) :
      Used a (searchIndex i) → Used a (searchIndex (i.search carrier q s).2.1)

variable {τ : Type} {config : Config} {a fresh : Adapter} {now : Instant}
  {notification : Notification} {e : Event}

theorem ok_of_map {α β : Type} {make : α → β} {outcome : Except Fault α} {b : β}
    (h : outcome.map make = .ok b) : ∃ x, outcome = .ok x ∧ make x = b := by
  cases outcome with
  | error fault => cases h
  | ok x => exact ⟨x, rfl, Except.ok.inj h⟩

theorem kind_ofConfig (config : Config) (kind : Kind) : (ofConfig config kind).kind = kind := by
  cases kind <;> rfl

theorem prepare_ready {environment : Option String} {s s' : σ}
    (h : a.prepare c environment s = (.ok fresh, s')) : fresh.kind = a.kind ∧ fresh.Ready := by
  obtain ⟨houtcome, -⟩ := Prod.mk.inj h
  cases a with
  | log =>
    obtain rfl := Except.ok.inj houtcome
    exact ⟨rfl, trivial⟩
  | alert sink | webhook sink | timeSeries sink =>
    obtain ⟨x, -, rfl⟩ := ok_of_map houtcome
    exact ⟨rfl, trivial⟩
  | searchIndex sink =>
    obtain ⟨_, hcheck, rfl⟩ := ok_of_map houtcome
    exact ⟨rfl, SearchIndex.servers_ne_nil_of_check hcheck⟩
  | messageBus sink =>
    obtain ⟨ready, hready, rfl⟩ := ok_of_map houtcome
    exact ⟨rfl, MessageBus.connected_of_prepare (Prod.ext hready rfl)⟩

/-- A sink that handles an event stays what it is, but another server may be the next. -/
theorem handle_ready (c : Carrier σ) (now : Instant) (notification : Notification) (e : Event)
    (f : Effects σ) (h : a.Ready) :
    (a.handle c now notification e f).1.kind = a.kind ∧
      (a.handle c now notification e f).1.Ready := by
  cases a with
  | searchIndex sink =>
    have hsame := sink.servers_store c e f
    rw [handle]
    generalize sink.store c e f = stored at hsame ⊢
    exact ⟨rfl, fun hnil => h (hsame ▸ hnil)⟩
  | log | alert sink | webhook sink | timeSeries sink | messageBus sink =>
    rw [handle]
    exact ⟨rfl, h⟩

theorem notify_ready (c : Carrier σ) (now : Instant) (notification : Notification) (e : Event)
    (f : Effects σ) (h : a.Ready) :
    (a.notify c now notification e f).1.kind = a.kind ∧
      (a.notify c now notification e f).1.Ready := by
  unfold notify
  split
  · exact handle_ready c now notification e f h
  · exact ⟨rfl, h⟩

/-- A sink stays what it is. -/
theorem Used.ready (hused : Used fresh a) (h : fresh.Ready) : a.kind = fresh.kind ∧ a.Ready := by
  induction hused with
  | fresh => exact ⟨rfl, h⟩
  | notified carrier now notification e f _ ih =>
    obtain ⟨hkind, hready⟩ := notify_ready carrier now notification e f ih.2
    exact ⟨hkind.trans ih.1, hready⟩
  | @searched _ i carrier q s _ ih =>
    exact ⟨ih.1, fun hnil => ih.2 (i.servers_search carrier q s ▸ hnil)⟩

/-! ### Requests -/

/-- The kinds of sinks that write to a server, alerts apart. -/
def Writes (kind : Kind) : Prop :=
  kind = .webhook ∨ kind = .elasticsearch ∨ kind = .influxDb ∨ kind = .rabbitMq

/-- A sink that got ready asks for what is spelled out, and for nothing if there is no address to
ask. -/
theorem requestAt_eq_some_iff (hkind : Writes a.kind) (hready : a.Ready) {k : Nat} {r : Request} :
    a.requestAt now e k = some r ↔ Posts now e k a r := by
  cases a with
  | log | alert sink => simp [Writes, kind] at hkind
  | webhook sink =>
    constructor
    · intro h
      obtain ⟨url, hurl, hhost, rfl⟩ := Request.map_to?_eq_some_iff.mp h
      exact .webhook hurl hhost
    · rintro (⟨hurl, hhost⟩)
      exact Request.map_to?_eq_some_iff.mpr ⟨_, hurl, hhost, rfl⟩
  | searchIndex sink =>
    -- the address depends on the attempt, for the server does
    obtain ⟨server, hserver, hchosen⟩ := SearchIndex.exists_server? hready (sink.turn + k)
    rw [requestAt, SearchIndex.storeRequest?, SearchIndex.address_eq hchosen,
      String.append_assoc]
    constructor
    · intro h
      obtain ⟨url, hurl, hhost, rfl⟩ := Request.map_to?_eq_some_iff.mp h
      exact .searchIndex hserver hurl hhost
    · rintro (_ | ⟨hserver', hurl, hhost⟩)
      obtain rfl := Option.some.inj (hserver.symm.trans hserver')
      exact Request.map_to?_eq_some_iff.mpr ⟨_, hurl, hhost, rfl⟩
  | timeSeries sink =>
    rw [requestAt, TimeSeries.request?_eq_some_iff]
    constructor
    · rintro ⟨url, hurl, hhost, rfl⟩
      exact .timeSeries hurl hhost
    · rintro (_ | _ | ⟨hurl, hhost⟩)
      exact ⟨_, hurl, hhost, rfl⟩
  | messageBus sink =>
    rw [requestAt, MessageBus.publishRequest?_eq_some_iff]
    constructor
    · rintro ⟨server, url, hserver, hsegments, hhost, rfl⟩
      exact .messageBus hserver hsegments hhost
    · rintro (_ | _ | _ | ⟨hserver, hsegments, hhost⟩)
      exact ⟨_, _, hserver, hsegments, hhost, rfl⟩

/-- A sink with usable addresses has a request to make. -/
theorem exists_requestAt (hkind : Writes a.kind) (hready : a.Ready) (h : a.Usable) (now : Instant)
    (e : Event) (k : Nat) : ∃ r, a.requestAt now e k = some r := by
  simp only [requestAt_eq_some_iff hkind hready]
  cases a with
  | log | alert sink => simp [Writes, kind] at hkind
  | webhook sink =>
    obtain ⟨url, hurl, hhost⟩ := h
    exact ⟨_, .webhook hurl hhost⟩
  | searchIndex sink =>
    obtain ⟨server, hserver, -⟩ := SearchIndex.exists_server? hready (sink.turn + k)
    obtain ⟨url, hurl, hhost⟩ :=
      (h server (List.mem_of_getElem? hserver)).below (sink.index ++ "/_doc")
    rw [← String.append_assoc] at hurl
    exact ⟨_, .searchIndex hserver hurl hhost⟩
  | timeSeries sink =>
    obtain ⟨url, hurl, hhost⟩ := Url.IsUsable.below h "write"
    rw [String.append_assoc] at hurl
    exact ⟨_, .timeSeries hurl hhost⟩
  | messageBus sink =>
    obtain ⟨server, url, hserver, hsegments, hhost⟩ := MessageBus.Connected.address hready
      ["exchanges", sink.settings.virtualHost, sink.settings.exchange, "publish"]
    exact ⟨_, .messageBus hserver hsegments hhost⟩

/-! ### Notifications -/

/-- A sink that writes to a server does nothing about replays; the search index and the time series
do nothing about deletions, and the time series deals with native events only. -/
def Ignores (kind : Kind) (notification : Notification) (e : Event) : Prop :=
  notification = .replayed ∨
    notification = .deleted ∧ (kind = .elasticsearch ∨ kind = .influxDb) ∨
    kind = .influxDb ∧ e.isNative = false

theorem listens_iff (hkind : Writes a.kind) :
    a.listens notification = true ↔ ¬ (notification = .replayed ∨
      notification = .deleted ∧ (a.kind = .elasticsearch ∨ a.kind = .influxDb)) := by
  cases a with
  | log | alert sink => simp [Writes, kind] at hkind
  | webhook sink | searchIndex sink | timeSeries sink | messageBus sink =>
    cases notification <;> simp [listens, kind]

theorem notify_of_ignores (hkind : Writes a.kind) (h : Ignores a.kind notification e)
    (c : Carrier σ) (f : Effects σ) : a.notify c now notification e f = (a, f) := by
  unfold notify
  split
  · next hlistens =>
    rcases h with hreplayed | hdeleted | ⟨hinflux, hnative⟩
    · exact absurd (.inl hreplayed) ((listens_iff hkind).mp hlistens)
    · exact absurd (.inr hdeleted) ((listens_iff hkind).mp hlistens)
    · cases a with
      | timeSeries sink => simp [handle, TimeSeries.write, hnative]
      | log | alert sink | webhook sink | searchIndex sink | messageBus sink => cases hinflux
  · rfl

theorem notify_of_not_ignores (hkind : Writes a.kind) (hready : a.Ready)
    (h : ¬ Ignores a.kind notification e) (c : Carrier σ) (f : Effects σ) :
    ∃ earlier last f',
      a.notify c now notification e f = (a.afterAttempts (earlier.length + 1), f') ∧
      Wrote c a.kind (a.requestAt now e) f f' earlier last := by
  -- what is left of the reasons to ignore a notification concerns the time series alone
  have hlistens : a.listens notification = true :=
    (listens_iff hkind).mpr fun hdeaf => h (hdeaf.imp_right .inl)
  rw [notify, if_pos hlistens]
  cases a with
  | log | alert sink => simp [Writes, kind] at hkind
  | webhook sink =>
    obtain ⟨earlier, last, hwrote⟩ := sink.notify_wrote c e f
    exact ⟨earlier, last, _, rfl, hwrote⟩
  | searchIndex sink =>
    obtain ⟨earlier, last, hwrote, hturn⟩ := sink.store_wrote c e f
    refine ⟨earlier, last, (sink.store c e f).2, ?_, hwrote⟩
    rw [handle, afterAttempts, ← hturn]
  | timeSeries sink =>
    have hnative : e.isNative = true := by
      by_contra hnative
      exact h (.inr (.inr ⟨rfl, Bool.eq_false_iff.mpr hnative⟩))
    obtain ⟨earlier, last, hwrote⟩ := sink.write_wrote c now hnative f
    exact ⟨earlier, last, _, rfl, hwrote⟩
  | messageBus sink =>
    obtain ⟨earlier, last, hwrote⟩ := MessageBus.publish_wrote hready c e f
    exact ⟨earlier, last, _, rfl, hwrote⟩

/-- **A write is tried until it is settled, and its failure is counted once.** A sink that got ready
does nothing about a notification that it ignores. About another one it makes requests until the
client reports an answer that settles the write, or as often as the policy allows, and the failures
grow by one if the last report was none of a success. Whoever tells the sink gets the sink back and
no word about the write. The requests are posts of the event to the addresses of the sink, and if
these can be used, there is one for each attempt. An answer of a bus that holds a tree tells by the
only truth value of that name whether the message was routed. -/
theorem notify_accounted {carrier : Carrier τ} {environment : Option String} {t t' : τ}
    (hkind : Writes kind)
    (hprepared : (ofConfig config kind).prepare carrier environment t = (.ok fresh, t'))
    (hused : Used fresh a) (c : Carrier σ) (now : Instant) (notification : Notification) (e : Event)
    (f : Effects σ) :
    (Ignores kind notification e → a.notify c now notification e f = (a, f)) ∧
      (¬ Ignores kind notification e → ∃ earlier last f',
        a.notify c now notification e f = (a.afterAttempts (earlier.length + 1), f') ∧
        Wrote c kind (a.requestAt now e) f f' earlier last) ∧
      (∀ k r, a.requestAt now e k = some r ↔ Posts now e k a r) ∧
      (a.Usable → ∀ k, ∃ r, a.requestAt now e k = some r) ∧
      (∀ reply v, Json.read reply.body = .ok v →
        MessageBus.routed? reply = (Json.single? "routed" v).bind Value.bool?) := by
  obtain ⟨hfresh, hready⟩ := prepare_ready hprepared
  obtain ⟨hsame, hready⟩ := hused.ready hready
  obtain rfl : a.kind = kind := (hsame.trans hfresh).trans (kind_ofConfig config kind)
  refine ⟨fun h => notify_of_ignores hkind h c f, fun h => notify_of_not_ignores hkind hready h c f,
    fun k r => requestAt_eq_some_iff hkind hready, fun h k => ?_,
    fun reply v => MessageBus.routed?_of_read⟩
  exact exists_requestAt hkind hready h now e k

/-- Three servers that serve whatever is asked of them. The web service gets the message of an
event, the index its document and the time series its point, each in one request. -/
theorem notify_accounted_posted :
    let config : Config :=
      { sinks :=
          { webhook := { url := "http://hook/x" }
            searchIndex := { servers := ["http://es/"] }
            timeSeries := { server := "http://ts:8086", user := "w", database := "k8s" } } }
    let recording : Carrier (List Request) :=
      { network := fun r sent => (some ⟨⟨201⟩, ""⟩, sent ++ [r]) }
    let service := webhook ⟨"http://hook/x"⟩
    let index := searchIndex ⟨["http://es"], "k8swatch", 0⟩
    let series := timeSeries ⟨"http://ts:8086", "w", "", "k8s"⟩
    let e : Event := { kind := "events", message := "Back-off" }
    (ofConfig config .webhook).prepare recording none [] = (.ok service, []) ∧
      (ofConfig config .elasticsearch).prepare recording none [] = (.ok index, []) ∧
      (ofConfig config .influxDb).prepare recording none [] = (.ok series, []) ∧
      ∀ now,
        service.notify recording now .created e ⟨[], {}, []⟩ =
          (service, ⟨[{ method := .post,
                        url := { scheme := "http", host := some (.domain "hook"),
                                 path := .segments ["x"] },
                        contentType := some "application/json",
                        body := "\x7b\"text\":\"Back-off\"\x7d" }], {}, []⟩) ∧
        index.notify recording now .created e ⟨[], {}, []⟩ =
          (index.afterAttempts 1,
            ⟨[{ method := .post,
                url := { scheme := "http", host := some (.domain "es"),
                         path := .segments ["k8swatch", "_doc"],
                         query := some "refresh=wait_for" },
                contentType := some "application/json", body := e.toJson.text }], {}, []⟩) ∧
        series.notify recording now .created e ⟨[], {}, []⟩ =
          (series, ⟨[{ method := .post,
                       url := { scheme := "http", host := some (.domain "ts"), port := some 8086,
                                path := .segments ["write"],
                                query := some "db=k8s&precision=s" },
                       authorization := some "Basic dzo=",
                       body := (LinePoint.ofEvent e now).text }], {}, []⟩) := by
  intro config recording service index series e
  have hservice : (ofConfig config .webhook).prepare recording none [] = (.ok service, []) := rfl
  have hindex : (ofConfig config .elasticsearch).prepare recording none [] = (.ok index, []) := by
    have hserver : withoutSlashes "http://es/" = "http://es" := by decide +kernel
    have hconfig : ofConfig config .elasticsearch = index :=
      congrArg (fun server => searchIndex ⟨[server], "k8swatch", 0⟩) hserver
    have hcheck : SearchIndex.check ⟨["http://es"], "k8swatch", 0⟩ = .ok () := rfl
    simp only [hconfig, index, prepare, hcheck]
    rfl
  have hseries : (ofConfig config .influxDb).prepare recording none [] = (.ok series, []) := by
    have hserver : withoutSlashes "http://ts:8086" = "http://ts:8086" := by decide +kernel
    have hconfig : ofConfig config .influxDb = series :=
      congrArg (fun server => timeSeries ⟨server, "w", "", "k8s"⟩) hserver
    have hcheck : TimeSeries.check ⟨"http://ts:8086", "w", "", "k8s"⟩ = .ok () := rfl
    simp only [hconfig, series, prepare, hcheck]
    rfl
  have hposted : ∀ {kind : Kind} {a : Adapter} {r : Request} {now : Instant}, Writes kind →
      kind ≠ .rabbitMq → (ofConfig config kind).prepare recording none [] = (.ok a, []) →
      Posts now e 0 a r →
      a.notify recording now .created e ⟨[], {}, []⟩ = (a.afterAttempts 1, ⟨[r], {}, []⟩) := by
    intro kind a r now hkind hbus hprepared hposts
    obtain ⟨-, hwrites, hrequests, -⟩ :=
      notify_accounted hkind hprepared .fresh recording now .created e ⟨[], {}, []⟩
    have hhears : ¬ Ignores kind .created e := by
      have hnative : e.isNative = true := by decide
      simp [Ignores, hnative]
    obtain ⟨earlier, last, ⟨network, metrics, records⟩, hnotify, ⟨hreports, hcourse, hnetwork⟩,
      haccounted⟩ := hwrites hhears
    have hfirst : a.requestAt now e 0 = some r := (hrequests 0 r).mpr hposts
    rw [List.range_succ_eq_map, List.map_cons, hfirst] at hreports hnetwork
    have hserved : Served kind (some ⟨⟨201⟩, ""⟩) := served_some_iff.mpr (by simp [hbus])
    cases earlier with
    | nil =>
      obtain ⟨rfl, -⟩ := List.cons.inj hreports
      have hmetrics : metrics = {} := haccounted.succeeded hserved
      have hrecords : records = [] := haccounted.records
      have hnetwork : network = [r] :=
        hnetwork.trans (Carrier.noteAll_of_quiet (fun _ _ => rfl) _ _)
      rw [hnotify, hmetrics, hrecords, hnetwork]
      rfl
    | cons first rest =>
      -- the first answer would not have been retried
      obtain ⟨rfl, -⟩ := List.cons.inj hreports
      exact absurd (.served (by decide) (by decide) (absurd · hbus))
        (hcourse.retried _ List.mem_cons_self)
  refine ⟨hservice, hindex, hseries, fun now => ⟨?_, ?_, ?_⟩⟩
  · have hurl : Url.parse "http://hook/x" =
        .ok { scheme := "http", host := some (.domain "hook"), path := .segments ["x"] } :=
      Url.parse_eq_ok_iff.mpr (by decide +kernel)
    have hbody : (Value.object [("text", .string "Back-off")]).text =
        "\x7b\"text\":\"Back-off\"\x7d" := by decide +kernel
    have hposts : Posts now e 0 service _ := .webhook hurl rfl
    rw [hbody] at hposts
    exact hposted (.inl rfl) (by decide) hservice hposts
  · have hurl : Url.parse ("http://es" ++ "/" ++ "k8swatch" ++ "/_doc") =
        .ok { scheme := "http", host := some (.domain "es"),
              path := .segments ["k8swatch", "_doc"] } :=
      Url.parse_eq_ok_iff.mpr (by decide +kernel)
    have hposts : Posts now e 0 index _ := .searchIndex rfl hurl rfl
    exact hposted (.inr (.inl rfl)) (by decide) hindex hposts
  · have hurl : Url.parse ("http://ts:8086" ++ "/write") =
        .ok { scheme := "http", host := some (.domain "ts"), port := some 8086,
              path := .segments ["write"] } :=
      Url.parse_eq_ok_iff.mpr (by decide +kernel)
    have huser : (if "w" = "" then none
        else some ("Basic " ++ Text.Base64.encode ("w" ++ ":" ++ ""))) = some "Basic dzo=" := by
      decide +kernel
    have hposts : Posts now e 0 series _ := .timeSeries hurl rfl
    rw [huser] at hposts
    exact hposted (.inr (.inr (.inl rfl))) (by decide) hseries hposts

/-- A bus is short of time, then garbles its answer, then finds no queue for the message: three
requests and one failure. The fourth answer would have been a success, but nobody asks for it. -/
theorem notify_unrouted :
    let config : Config :=
      { sinks := { messageBus := { servers := ["http://bus"], exchange := "k8s" } } }
    let obliging : Carrier Unit := { network := fun _ t => (some ⟨⟨201⟩, ""⟩, t) }
    let reciting : Carrier (List Reply) :=
      { network := fun _ replies => (replies.head?, replies.tail) }
    let unrouted : Reply := ⟨⟨200⟩, "\x7b\"routed\":false\x7d"⟩
    let routed : Reply := ⟨⟨200⟩, "\x7b\"routed\":true\x7d"⟩
    let replies : List Reply := [⟨⟨408⟩, ""⟩, ⟨⟨200⟩, "OK"⟩, unrouted, routed]
    ∃ fresh, (ofConfig config .rabbitMq).prepare obliging none () = (.ok fresh, ()) ∧
      ∀ now e, fresh.notify reciting now .deleted e ⟨replies, {}, []⟩ =
        (fresh, ⟨[routed], { sinkFailures := 1 }, []⟩) := by
  intro config obliging reciting unrouted routed replies
  have hok : ((ofConfig config .rabbitMq).prepare obliging none ()).1.isOk = true := by
    decide +kernel
  obtain ⟨fresh, hprepared⟩ :
      ∃ fresh, (ofConfig config .rabbitMq).prepare obliging none () = (.ok fresh, ()) := by
    rcases hprepare : (ofConfig config .rabbitMq).prepare obliging none () with ⟨_ | fresh, _⟩
    · rw [hprepare] at hok
      cases hok
    · exact ⟨fresh, rfl⟩
  refine ⟨fresh, hprepared, fun now e => ?_⟩
  obtain ⟨hkind, hready⟩ := prepare_ready hprepared
  have hkind : fresh.kind = .rabbitMq := hkind
  have hhears : ¬ Ignores fresh.kind .deleted e := by simp [Ignores, hkind]
  obtain ⟨earlier, last, ⟨network, metrics, records⟩, hnotify, hdelivery, haccounted⟩ :=
    notify_of_not_ignores (.inr (.inr (.inr hkind))) hready hhears reciting ⟨replies, {}, []⟩
  cases fresh with
  | log | alert sink | webhook sink | searchIndex sink | timeSeries sink => cases hkind
  | messageBus sink =>
    obtain ⟨r, hr⟩ := exists_requestAt (.inr (.inr (.inr rfl))) hready trivial now e 0
    have hrequest : (fun k => requestAt now e k (messageBus sink)) = fun _ => some r :=
      funext fun _ => hr
    have hlate : ¬ Settles .rabbitMq (some ⟨⟨408⟩, ""⟩) :=
      not_settles_of_retried (by decide) (by decide)
    have hgarbled : ¬ Settles .rabbitMq (some ⟨⟨200⟩, "OK"⟩) := by
      rintro (⟨-, -, hrouted⟩ | ⟨hlow, -⟩)
      · exact absurd (hrouted rfl) (by decide +kernel)
      · exact absurd hlow (by decide)
    have hunrouted : Settles .rabbitMq (some unrouted) :=
      .served (by decide) (by decide) fun _ => by decide +kernel
    have hfailed : ¬ Served .rabbitMq (some unrouted) := by
      rw [served_some_iff]
      exact fun h => absurd (h.2.2 rfl) (by decide +kernel)
    obtain ⟨hreports, ⟨hretried, hover, -⟩, hnetwork⟩ := hdelivery
    rw [hrequest, List.map_const', List.length_range] at hreports hnetwork
    rw [Carrier.noteAll_of_quiet fun _ _ => rfl] at hnetwork
    -- the reports are the answers in turn, so their number alone has to be found
    rcases earlier with _ | ⟨first, _ | ⟨second, _ | ⟨third, rest⟩⟩⟩ <;>
      simp only [List.length_cons, List.length_nil, List.replicate_succ, List.replicate_zero,
        Carrier.exchange, Carrier.ask, List.head?_cons, List.tail_cons, List.nil_append,
        List.cons_append, List.cons.injEq, and_true, reciting, replies] at hreports hnetwork
    · subst hreports
      exact hover.elim (absurd · hlate) fun hlimit => by cases hlimit
    · obtain ⟨-, rfl⟩ := hreports
      exact hover.elim (absurd · hgarbled) fun hlimit => by cases hlimit
    · obtain ⟨-, -, rfl⟩ := hreports
      have hmetrics := haccounted.failed hfailed
      have hrecords := haccounted.records
      rw [hnotify]
      simp only at hnetwork hmetrics hrecords
      rw [hnetwork, hmetrics, hrecords]
      rfl
    · obtain ⟨-, -, rfl, -⟩ := hreports
      exact absurd hunrouted (hretried _ (by simp))

end Adapter

end ClusterWatch.Sink
