import ClusterWatch.Api.Query
import ClusterWatch.Proofs.Sink.Writes
/-!
# Which events raise an alert

An event raises an alert if it is a native one, happened just now and concerns somebody who wants to
know. What is asked of the alert server, what becomes of the event and what is counted follows from
that and the reports of the client.

- `Alert.Raises`: the events that raise an alert.
- `Alert.Asks`: what an alert asks of its server.
- `Outcome.counts`: what is counted for an outcome.
- `Alert.Gated`: what becomes of an event.

Main result: `Alert.process_gated`.
-/

namespace ClusterWatch

open Http (Reply Request Url)
open Json (Value)
open Time (Instant)

/-! ### Requests -/

theorem Api.fields_append (before after : List Char) :
    Api.fields (before ++ '&' :: after) = Api.fields before ++ Api.fields after := by
  rw [Api.fields, Text.split_append, List.filter_append, List.map_append]
  rfl

/-- A form field that is added to an address comes last. -/
theorem Api.fields_appendQuery (url : Url) (name value : String) :
    Api.fields (((url.appendQuery [(name, value)]).query.getD "").toList) =
      Api.fields ((url.query.getD "").toList) ++
        Api.fields (Url.formText [(name, value)]).toList := by
  by_cases hbefore : url.query.getD "" = ""
  · have hnone : Api.fields [] = [] := by simp [Api.fields, Text.split]
    simp only [Url.appendQuery, hbefore, if_true, Option.getD_some, String.toList_empty, hnone,
      List.nil_append]
  · simp only [Url.appendQuery, hbefore, if_false, Option.getD_some, String.toList_append]
    rw [List.append_assoc]
    exact Api.fields_append _ _

/-- Names of tiers need no escapes. -/
theorem Api.fields_receiver (tier : Tier) :
    Api.fields (Url.formText [("receivertype", tier.name)]).toList =
      [("receivertype", tier.name)] := by
  cases tier <;> decide +kernel

/-! ### Gates -/

namespace Sink

variable {σ : Type}

/-- What is counted for an outcome. -/
def Alert.Outcome.counts : Alert.Outcome → Metrics
  | ignored => {}
  | stale => { staleSuppressed := 1 }
  | suppressed _ => {}
  | sent _ => { alertsSent := 1 }
  | failed _ => { sinkFailures := 1 }

namespace Alert

/-- An event that raises an alert: it is a native one, is not stale, and concerns administrators or
owners of applications who are to be told. -/
structure Raises (a : Alert) (now : Instant) (e : Event) : Prop where
  native : e.isNative = true
  recent : e.isStale now = false
  wanted : (a.tables.classify e).tier = .admin ∧ a.toAdmin = true ∨
    (a.tables.classify e).tier = .appOwner ∧ a.toAppOwner = true

/-- What an alert asks of the server, whose address has to name a machine: the form fields of the
address are followed by the tier, and the members of the event by the subject. -/
structure Asks (a : Alert) (e : Event) (request : Option Request) : Prop where
  sendable : request.isSome = true ↔
    ∃ url, Url.parse a.server = .ok url ∧ url.host.isSome = true
  address : ∀ url r, Url.parse a.server = .ok url → request = some r →
    r.method = .post ∧ r.url = { url with query := r.url.query } ∧
      Api.fields (r.url.query.getD "").toList =
        Api.fields (url.query.getD "").toList ++
          [("receivertype", (a.tables.classify e).tier.name)]
  body : ∀ r, request = some r → ∃ members, e.toJson = .object members ∧
    r.body = (Value.object (members ++ [("subject", .string (a.clusterName ++ " " ++
      (a.tables.classify e).description ++ " " ++ e.namespaceName ++ "/" ++ e.service))])).text

/-- What becomes of an event that the sink is told of. -/
structure Gated (a : Alert) (c : Carrier σ) (now : Instant) (e : Event) (f : Effects σ)
    (outcome : Outcome) (f' : Effects σ) : Prop where
  ignored : outcome = .ignored ↔ e.isNative = false
  stale : outcome = .stale ↔ e.isNative = true ∧ e.isStale now = true
  suppressed : ∀ tier, outcome = .suppressed tier ↔ e.isNative = true ∧ e.isStale now = false ∧
    tier = (a.tables.classify e).tier ∧ ¬ a.Raises now e
  /-- Nothing happens on the network. -/
  quiet : ¬ a.Raises now e → f'.network = f.network
  /-- Attempts are made, and the last of them decides. -/
  raised : a.Raises now e → ∃ request earlier last, a.Asks e request ∧
    Delivery c .alert (fun _ => request) f.network f'.network earlier last ∧
    (outcome = .sent (a.tables.classify e).tier ∧ Served .alert last ∨
      outcome = .failed (a.tables.classify e).tier ∧ ¬ Served .alert last)
  metrics : f'.metrics = f.metrics + outcome.counts
  records : f'.records = f.records

variable {a : Alert} {c : Carrier σ} {now : Instant} {e : Event} {f : Effects σ}

theorem forwards_iff {tier : Tier} :
    a.forwards tier = true ↔
      tier = .admin ∧ a.toAdmin = true ∨ tier = .appOwner ∧ a.toAppOwner = true := by
  cases tier <;> simp [forwards]

theorem asks_request? (a : Alert) (e : Event) : a.Asks e (a.request? e (a.tables.classify e)) where
  sendable := by
    rw [request?, Option.isSome_map, Option.isSome_iff_exists]
    simp only [Request.to?_eq_some_iff]
    constructor
    · rintro ⟨r, url, hurl, hhost, -⟩
      exact ⟨url, hurl, hhost⟩
    · rintro ⟨url, hurl, hhost⟩
      exact ⟨_, url, hurl, hhost, rfl⟩
  address := by
    intro url r hurl hr
    obtain ⟨r', hr', rfl⟩ := Option.map_eq_some_iff.mp hr
    obtain ⟨url', hurl', -, rfl⟩ := Request.to?_eq_some_iff.mp hr'
    obtain rfl := Except.ok.inj (hurl.symm.trans hurl')
    refine ⟨rfl, rfl, (Api.fields_appendQuery url _ _).trans ?_⟩
    rw [Api.fields_receiver]
  body := by
    intro r hr
    obtain ⟨r', -, rfl⟩ := Option.map_eq_some_iff.mp hr
    exact ⟨_, rfl, rfl⟩

theorem process_of_ignored (h : e.isNative = false) (c : Carrier σ) (f : Effects σ) :
    a.process c now e f = (.ignored, f) := by
  simp [process, h]

theorem process_of_stale (hnative : e.isNative = true) (h : e.isStale now = true) (c : Carrier σ)
    (f : Effects σ) : a.process c now e f = (.stale, f.count .stale) := by
  simp [process, hnative, h]

theorem process_of_suppressed (hnative : e.isNative = true) (hrecent : e.isStale now = false)
    (h : ¬ a.Raises now e) (c : Carrier σ) (f : Effects σ) :
    a.process c now e f = (.suppressed (a.tables.classify e).tier, f) := by
  have hforwards : a.forwards (a.tables.classify e).tier = false :=
    Bool.eq_false_iff.mpr fun hforwards => h ⟨hnative, hrecent, forwards_iff.mp hforwards⟩
  simp [process, hnative, hrecent, hforwards]

theorem process_of_raises (h : a.Raises now e) (c : Carrier σ) (f : Effects σ) :
    ∃ request earlier last s', a.Asks e request ∧
      Delivery c .alert (fun _ => request) f.network s' earlier last ∧
      (a.process c now e f = (.sent (a.tables.classify e).tier,
          { f with network := s' }.count .alert) ∧ Served .alert last ∨
        a.process c now e f = (.failed (a.tables.classify e).tier,
          { f with network := s' }.count .sinkFailure) ∧ ¬ Served .alert last) := by
  have hkind : Kind.alert ≠ .rabbitMq := by decide
  obtain ⟨earlier, last, s', hdelivery, hdeliver⟩ :=
    deliverSame_delivery hkind c (a.request? e (a.tables.classify e)) f.network
  refine ⟨_, earlier, last, s', asks_request? a e, hdelivery, ?_⟩
  -- past the three gates, the last report decides
  simp only [process, h.native, h.recent, forwards_iff.mpr h.wanted, hdeliver, Bool.not_true,
    Bool.false_eq_true, if_false]
  have hok := isOk_judge hkind last
  cases hjudge : (judge .alert last).outcome with
  | ok reply =>
    rw [hjudge] at hok
    exact .inl ⟨rfl, hok.mp rfl⟩
  | error fault =>
    rw [hjudge] at hok
    exact .inr ⟨rfl, fun hserved => by cases hok.mpr hserved⟩

/-- An event that raises no alert is held back for one of three reasons. -/
theorem gated_of_not_raises (h : ¬ a.Raises now e) (c : Carrier σ) (f : Effects σ) :
    a.Gated c now e f (a.process c now e f).1 (a.process c now e f).2 := by
  -- the checks in the order in which they are made: the first one that holds back the event is
  -- counted, and the others do not apply to it
  cases hnative : e.isNative with
  | false =>
    rw [process_of_ignored hnative]
    exact
      { ignored := iff_of_true rfl hnative
        stale := iff_of_false nofun fun hstale => by simp [hnative] at hstale
        suppressed := fun _ => iff_of_false nofun fun hsuppressed => by
          simp [hnative] at hsuppressed
        quiet := fun _ => rfl
        raised := fun hraises => absurd hraises h
        metrics := rfl
        records := rfl }
  | true =>
    cases hstale : e.isStale now with
    | true =>
      rw [process_of_stale hnative hstale]
      exact
        { ignored := iff_of_false nofun fun hforeign => by simp [hnative] at hforeign
          stale := iff_of_true rfl ⟨hnative, hstale⟩
          suppressed := fun _ => iff_of_false nofun fun hsuppressed => by
            simp [hstale] at hsuppressed
          quiet := fun _ => rfl
          raised := fun hraises => absurd hraises h
          metrics := rfl
          records := rfl }
    | false =>
      rw [process_of_suppressed hnative hstale h]
      exact
        { ignored := iff_of_false nofun fun hforeign => by simp [hnative] at hforeign
          stale := iff_of_false nofun fun hold => by simp [hstale] at hold
          suppressed := fun tier => by simp [hnative, hstale, h, eq_comm]
          quiet := fun _ => rfl
          raised := fun hraises => absurd hraises h
          metrics := rfl
          records := rfl }

/-- An event that raises an alert is sent or fails. -/
theorem gated_of_raises (h : a.Raises now e) (c : Carrier σ) (f : Effects σ) :
    a.Gated c now e f (a.process c now e f).1 (a.process c now e f).2 := by
  have hforeign : ¬ e.isNative = false := by simp [h.native]
  have hold : ¬ (e.isNative = true ∧ e.isStale now = true) := by simp [h.recent]
  obtain ⟨request, earlier, last, s', hasks, hdelivery, hprocess⟩ := process_of_raises h c f
  rcases hprocess with ⟨hprocess, hserved⟩ | ⟨hprocess, hserved⟩
  · rw [hprocess]
    exact
      { ignored := iff_of_false nofun hforeign
        stale := iff_of_false nofun hold
        suppressed := fun _ => iff_of_false nofun fun hsuppressed => hsuppressed.2.2.2 h
        quiet := fun hquiet => absurd h hquiet
        raised := fun _ => ⟨request, earlier, last, hasks, hdelivery, .inl ⟨rfl, hserved⟩⟩
        metrics := rfl
        records := rfl }
  · rw [hprocess]
    exact
      { ignored := iff_of_false nofun hforeign
        stale := iff_of_false nofun hold
        suppressed := fun _ => iff_of_false nofun fun hsuppressed => hsuppressed.2.2.2 h
        quiet := fun hquiet => absurd h hquiet
        raised := fun _ => ⟨request, earlier, last, hasks, hdelivery, .inr ⟨rfl, hserved⟩⟩
        metrics := rfl
        records := rfl }

/-- **Alerts are raised by fresh native events of wanted tiers, and by nothing else.** Attempts to
send an alert are made for exactly the events that raise one, with the tier and the subject in each
request; each event has one outcome, which alone decides what is counted. Of deletions and replays
the sink takes no notice. -/
theorem process_gated (a : Alert) (c : Carrier σ) (now : Instant) (e : Event) (f : Effects σ) :
    a.Gated c now e f (a.process c now e f).1 (a.process c now e f).2 ∧
      (Adapter.alert a).notify c now .created e f = (.alert a, (a.process c now e f).2) ∧
      (Adapter.alert a).notify c now .updated e f = (.alert a, (a.process c now e f).2) ∧
      (Adapter.alert a).notify c now .deleted e f = (.alert a, f) ∧
      (Adapter.alert a).notify c now .replayed e f = (.alert a, f) := by
  refine ⟨?_, rfl, rfl, rfl, rfl⟩
  by_cases h : a.Raises now e
  · exact gated_of_raises h c f
  · exact gated_of_not_raises h c f

/-- The tier follows from the namespace, and an unreadable time stamp counts as fresh. -/
example (now : Instant) :
    Raises ⟨"http://alerts", "north", true, false, .builtin⟩ now
      { kind := "events", reason := "BackOff", namespaceName := "kube-system", last := "soon" } :=
  ⟨by decide, by rfl, .inl ⟨by decide, rfl⟩⟩

end Alert

end Sink

end ClusterWatch
