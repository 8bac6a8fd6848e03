import ClusterWatch.Event.Normalize
/-!
# What the record of an object holds

Objects have one of twenty known shapes, are gone, or have an unknown shape. What the record of a
change takes from each of them is told here member by member: first by tables of what an object has
to tell, then by what the record makes of that.

- `Resource.occurrence?`, `Resource.hostName?`, `Resource.componentName?`, `Resource.conditions`,
  `Resource.changeTime?`: what an object has to tell beside its kind and its metadata.
- `Event.Tells`: a member that tells a time.
- `Event.Reports`, `Event.Unreported`: the members that native events fill, and that nothing else
  does.
- `Event.Summarizes`: a message that says what has become of which object.
- `Event.Records`: the record of a change of an object.
- `Event.ofResource_eq`: the two ways in which a record is made, by a native event and by all else.

Main result: `Event.ofResource_records`.
-/

namespace ClusterWatch

open Time (Instant)

/-! ### What objects have to tell -/

namespace Resource

/-- What a native event reports. Nothing else reports anything. -/
def occurrence? : Resource → Option Occurrence
  | live _ (.event occurrence) => some occurrence
  | _ => none

/-- The node of a pod, the name of a node, and the host at which a native event happened. -/
def hostName? : Resource → Option String
  | live _ (.pod nodeName _) => nodeName
  | live metadata (.node _) => metadata.name
  | live _ (.event occurrence) => occurrence.host
  | _ => none

/-- The type of a service, and the component that reports a native event. -/
def componentName? : Resource → Option String
  | live _ (.service type) => type
  | live _ (.event occurrence) => occurrence.component
  | _ => none

/-- The conditions, for the seven shapes that have some. -/
def conditions : Resource → List Condition
  | live _ (.pod _ conditions) | live _ (.node conditions) | live _ (.deployment conditions)
  | live _ (.replicaSet conditions) | live _ (.replicationController conditions)
  | live _ (.job conditions) | live _ (.persistentVolumeClaim conditions) => conditions
  | _ => []

/-- The time of a condition. The heartbeat of a node comes before its transition. -/
def changeTime? (r : Resource) (c : Condition) : Option Instant :=
  match r with
  | live _ (.node _) => c.heartbeat <|> c.transition
  | _ => c.transition

end Resource

namespace Event

open Resource (Metadata Occurrence Shape)

/-- A member that tells a time by its stamp, and is empty without one. -/
structure Tells (member : String) (time : Option Instant) : Prop where
  stamped : ∀ t, time = some t → member = t.stamp
  untold : time = none → member = ""

/-- A record that holds what a native event reports. -/
structure Reports (e : Event) (o : Occurrence) : Prop where
  reason : e.reason = o.reason.getD ""
  type : e.type = o.type.getD ""
  count : e.count = o.count.getD 0
  first : Tells e.first o.first
  last : Tells e.last (o.last <|> o.time)
  service : e.service =
    ((containerName? (o.involved.fieldPath.getD "").toList).map String.ofList).getD ""
  involvedKind : e.involvedKind = o.involved.kind.getD ""
  involvedName : e.involvedName = o.involved.name.getD ""
  involvedNamespace : e.involvedNamespace = o.involved.namespaceName.getD ""
  involvedVersion : e.involvedVersion = o.involved.version.getD ""

/-- A record without what only native events report. -/
structure Unreported (e : Event) : Prop where
  reason : e.reason = ""
  type : e.type = ""
  count : e.count = 0
  first : e.first = ""
  service : e.service = ""
  involvedKind : e.involvedKind = ""
  involvedName : e.involvedName = ""
  involvedNamespace : e.involvedNamespace = ""
  involvedVersion : e.involvedVersion = ""

/-- A record with the metadata of an object. -/
structure Identifies (e : Event) (m : Metadata) : Prop where
  namespaceName : e.namespaceName = m.namespaceName.getD ""
  name : e.name = m.name.getD ""
  version : e.version = m.version.getD ""
  created : Tells e.created m.created

/-- What has become of an object. -/
def fate : Action → String
  | .create => "CREATED"
  | .update => "UPDATED"
  | .delete => "DELETED"

/-- A message that says what has become of an object of a kind. Namespaces and nodes are in no
namespace, and of native events nothing is said. -/
structure Summarizes (message kind name namespaceName : String) (action : Action) : Prop where
  clusterWide : kind = "namespaces" ∨ kind = "nodes" →
    message = kind ++ ":" ++ name ++ " has been " ++ fate action
  native : kind = "events" → message = ""
  namespaced : kind ≠ "namespaces" → kind ≠ "nodes" → kind ≠ "events" →
    message = kind ++ ":" ++ name ++ " in namespace " ++ namespaceName ++ " has been " ++
      fate action

/-- The record of a change of an object. -/
structure Records (e : Event) (r : Resource) (action : Action) : Prop where
  kind : e.kind = r.kindName
  change : e.action = action
  status : e.status = ""
  host_ne_empty : e.host ≠ ""
  host_named : ∀ host, r.hostName? = some host → host ≠ "" → e.host = host
  host_unnamed : (∀ host, r.hostName? = some host → host = "") → e.host = "Empty"
  component : e.component = r.componentName?.getD ""
  reports : ∀ o, r.occurrence? = some o → e.Reports o
  unreported : r.occurrence? = none → e.Unreported
  /-- Conditions count in updates only, and of them the last. -/
  last_updated : r.occurrence? = none → action = .update →
    Tells e.last (r.conditions.getLast?.bind r.changeTime?)
  last_otherwise : r.occurrence? = none → action ≠ .update → e.last = ""
  identifies : ∀ m, r.metadata? = some m → e.Identifies m
  /-- Of an object that is gone, only the key is known. -/
  gone : ∀ kind key, r = .deleted kind key →
    e.namespaceName = (Resource.splitKey key).1.getD "" ∧ e.name = (Resource.splitKey key).2 ∧
      e.version = "" ∧ e.created = ""
  message_own : ∀ o message, r.occurrence? = some o → o.message = some message → message ≠ "" →
    e.message = message
  message_summary : (∀ o message, r.occurrence? = some o → o.message = some message →
    message = "") → Summarizes e.message r.kindName e.name e.namespaceName action

/-! ### How a record is made -/

/-- The part of a record that says which object has changed and how. -/
def heading (r : Resource) (action : Action) : Event :=
  match r with
  | .live metadata shape => ofMetadata shape.kind.name action metadata
  | .deleted kind key =>
    { kind, action, namespaceName := (Resource.splitKey key).1.getD "",
      name := (Resource.splitKey key).2 }
  | .unrecognized kind metadata => ofMetadata kind action metadata

/-- What the shape of an object adds to the heading. -/
def body (r : Resource) (action : Action) : Event :=
  match r.occurrence? with
  | some o => (heading r action).withOccurrence o
  | none =>
    { heading r action with
      component := r.componentName?.getD ""
      last := if action = .update then stampOf (r.conditions.getLast?.bind r.changeTime?) else "" }

variable {r : Resource} {action : Action}

/-- The shapes that neither report anything nor name a component. -/
theorem withShape_of_plain {shape : Shape} (hservice : ∀ type, shape ≠ .service type)
    (hevent : ∀ o, shape ≠ .event o) (e : Event) (action : Action) :
    e.withShape action shape =
      if action = .update then { e with last := conditionTime shape } else e := by
  cases shape with
  | service type => exact absurd rfl (hservice type)
  | event o => exact absurd rfl (hevent o)
  | _ => rfl

/-- The last of the conditions of an object, where there are any. -/
theorem conditionTime_eq (m : Metadata) (shape : Shape) :
    conditionTime shape = stampOf ((Resource.conditions (.live m shape)).getLast?.bind
      (Resource.changeTime? (.live m shape))) := by
  cases shape <;> rfl

theorem hostOf_eq (m : Metadata) (shape : Shape) :
    hostOf m shape = Resource.hostName? (.live m shape) := by
  cases shape <;> rfl

theorem withShape_eq_body (m : Metadata) (shape : Shape) (action : Action) :
    (ofMetadata shape.kind.name action m).withShape action shape =
      body (.live m shape) action := by
  cases shape with
  | event o => rfl
  | service type => cases action <;> rfl
  | _ =>
    rw [withShape_of_plain (by simp) (by simp), conditionTime_eq m]
    cases action <;> rfl

/-- The record has heading and body, and then a host and a message whatever these say. -/
theorem ofResource_eq (r : Resource) (action : Action) :
    ofResource r action = ((body r action).withHost r.hostName?).withMessage := by
  cases r with
  | live m shape => rw [ofResource, withShape_eq_body, hostOf_eq]
  | deleted kind key => cases action <;> rfl
  | unrecognized kind m => cases action <;> rfl

theorem withMessage_eq (e : Event) :
    e.withMessage = { e with message := if e.message = "" then e.summary else e.message } := by
  unfold withMessage
  by_cases h : e.message = "" <;> simp [h]

/-! ### The members of a record -/

theorem tells_stampOf (time : Option Instant) : Tells (stampOf time) time := by
  constructor
  · rintro t rfl
    rfl
  · rintro rfl
    rfl

theorem name_append_D (action : Action) : action.name ++ "D" = fate action := by
  cases action <;> rfl

theorem summarizes_summary (e : Event) :
    Summarizes e.summary e.kind e.name e.namespaceName e.action where
  clusterWide := by
    intro h
    rw [summary, if_pos h, String.append_assoc, name_append_D]
  native := by
    intro h
    rw [summary, h]
    rfl
  namespaced := by
    intro hnamespaces hnodes hevents
    rw [summary, if_neg (not_or.mpr ⟨hnamespaces, hnodes⟩), if_neg hevents, String.append_assoc,
      name_append_D]

theorem heading_unreported (r : Resource) (action : Action) : (heading r action).Unreported := by
  cases r <;> exact ⟨rfl, rfl, rfl, rfl, rfl, rfl, rfl, rfl, rfl⟩

theorem heading_identifies {m : Metadata} (h : r.metadata? = some m) (action : Action) :
    (heading r action).Identifies m := by
  cases r with
  | live m' shape =>
    obtain rfl := Option.some.inj h
    exact ⟨rfl, rfl, rfl, tells_stampOf _⟩
  | deleted kind key => cases h
  | unrecognized kind m' =>
    obtain rfl := Option.some.inj h
    exact ⟨rfl, rfl, rfl, tells_stampOf _⟩

/-- The body leaves the heading as it is. -/
theorem body_heading (r : Resource) (action : Action) :
    (body r action).kind = r.kindName ∧ (body r action).action = action ∧
      (body r action).status = "" ∧
      (body r action).namespaceName = (heading r action).namespaceName ∧
      (body r action).name = (heading r action).name ∧
      (body r action).version = (heading r action).version ∧
      (body r action).created = (heading r action).created := by
  have hheading : (heading r action).kind = r.kindName ∧ (heading r action).action = action ∧
      (heading r action).status = "" := by
    cases r <;> exact ⟨rfl, rfl, rfl⟩
  obtain ⟨hkind, haction, hstatus⟩ := hheading
  unfold body
  cases r.occurrence? <;> exact ⟨hkind, haction, hstatus, rfl, rfl, rfl, rfl⟩

/-- The record has the heading. -/
theorem ofResource_heading (r : Resource) (action : Action) :
    (ofResource r action).kind = r.kindName ∧
      (ofResource r action).namespaceName = (heading r action).namespaceName ∧
      (ofResource r action).name = (heading r action).name := by
  obtain ⟨hkind, -, -, hnamespace, hname, -, -⟩ := body_heading r action
  rw [ofResource_eq, withMessage_eq]
  exact ⟨hkind, hnamespace, hname⟩

theorem body_of_occurrence {o : Occurrence} (h : r.occurrence? = some o) (action : Action) :
    body r action = (heading r action).withOccurrence o := by
  simp only [body, h]

theorem body_of_foreign (h : r.occurrence? = none) (action : Action) :
    body r action =
      { heading r action with
        component := r.componentName?.getD ""
        last := if action = .update then stampOf (r.conditions.getLast?.bind r.changeTime?)
          else "" } := by
  simp only [body, h]

/-- A native event names its component itself. -/
theorem component_body (r : Resource) (action : Action) :
    (body r action).component = r.componentName?.getD "" := by
  cases h : r.occurrence? with
  | none => rw [body_of_foreign h]
  | some o =>
    rw [body_of_occurrence h]
    unfold Resource.occurrence? at h
    split at h
    · obtain rfl := Option.some.inj h
      rfl
    · cases h

theorem body_reports {o : Occurrence} (h : r.occurrence? = some o) (action : Action) :
    (body r action).Reports o := by
  rw [body_of_occurrence h]
  exact ⟨rfl, rfl, rfl, tells_stampOf _, tells_stampOf _, rfl, rfl, rfl, rfl, rfl⟩

theorem body_unreported (h : r.occurrence? = none) (action : Action) :
    (body r action).Unreported := by
  rw [body_of_foreign h]
  exact { heading_unreported r action with }

/-- Conditions have a say in updates only. -/
theorem last_body (h : r.occurrence? = none) (action : Action) : (body r action).last =
    if action = .update then stampOf (r.conditions.getLast?.bind r.changeTime?) else "" := by
  rw [body_of_foreign h]

/-! ### Host and message -/

theorem host_withHost_ne_empty (e : Event) (host : Option String) :
    (e.withHost host).host ≠ "" := by
  cases hhost : host.filter fun h => !h.isEmpty with
  | none => simp [withHost, hhost, noHost]
  | some name =>
    have hname : name.isEmpty = false := by simpa using (Option.filter_eq_some_iff.mp hhost).2
    simpa [withHost, hhost] using hname

theorem host_withHost_named (e : Event) {name : String} (h : name ≠ "") :
    (e.withHost (some name)).host = name := by
  simp [withHost, Option.filter_some, h]

/-- An empty host is no host. -/
theorem host_withHost_unnamed (e : Event) {host : Option String}
    (h : ∀ name, host = some name → name = "") : (e.withHost host).host = "Empty" := by
  cases host with
  | none => rfl
  | some name =>
    obtain rfl := h name rfl
    rfl

theorem message_body_own {o : Occurrence} {message : String} (ho : r.occurrence? = some o)
    (hown : o.message = some message) (action : Action) : (body r action).message = message := by
  rw [body_of_occurrence ho]
  simp [withOccurrence, hown]

/-- Only native events bring a message. -/
theorem message_body_silent
    (h : ∀ o message, r.occurrence? = some o → o.message = some message → message = "")
    (action : Action) : (body r action).message = "" := by
  cases ho : r.occurrence? with
  | none =>
    rw [body_of_foreign ho]
    cases r <;> rfl
  | some o =>
    cases hown : o.message with
    | none =>
      rw [body_of_occurrence ho]
      simp [withOccurrence, hown]
    | some message => rw [message_body_own ho hown, h o message ho hown]

/-- **The record of a change says of each object what its shape has to tell, and nothing else.** -/
theorem ofResource_records (r : Resource) (action : Action) :
    (ofResource r action).Records r action := by
  obtain ⟨hkind, haction, hstatus, hnamespace, hname, hversion, hcreated⟩ := body_heading r action
  rw [ofResource_eq, withMessage_eq]
  exact
    { kind := hkind
      change := haction
      status := hstatus
      host_ne_empty := host_withHost_ne_empty (body r action) r.hostName?
      host_named := by
        intro host hnamed hne
        rw [hnamed]
        exact host_withHost_named (body r action) hne
      host_unnamed := host_withHost_unnamed (body r action)
      component := component_body r action
      reports := fun o ho => { body_reports ho action with }
      unreported := fun hforeign => { body_unreported hforeign action with }
      last_updated := by
        intro hforeign hupdate
        have hlast := (last_body hforeign action).trans (if_pos hupdate)
        exact hlast ▸ tells_stampOf _
      last_otherwise := fun hforeign hother => (last_body hforeign action).trans (if_neg hother)
      identifies := by
        intro m hm
        obtain ⟨hmnamespace, hmname, hmversion, hmcreated⟩ := heading_identifies hm action
        exact ⟨hnamespace.trans hmnamespace, hname.trans hmname, hversion.trans hmversion,
          hcreated ▸ hmcreated⟩
      gone := by
        rintro kind key rfl
        exact ⟨hnamespace, hname, hversion, hcreated⟩
      message_own := by
        intro o message ho hown hne
        have hbody := message_body_own ho hown action
        -- the summary stands in for an empty message only
        have hnonempty : ((body r action).withHost r.hostName?).message ≠ "" := by
          rw [← hbody] at hne
          exact hne
        exact (if_neg hnonempty).trans hbody
      message_summary := by
        intro hsilent
        have hsummary := summarizes_summary ((body r action).withHost r.hostName?)
        rw [show ((body r action).withHost r.hostName?).kind = r.kindName from hkind,
          show ((body r action).withHost r.hostName?).action = action from haction] at hsummary
        exact (if_pos (message_body_silent hsilent action)).symm ▸ hsummary }

/-- A node whose last condition has a heartbeat is updated, a pod is gone, and a native event has no
message of its own. -/
theorem ofResource_records_heartbeat :
    let born : Instant := ⟨1704164645, 0⟩
    let beat : Instant := ⟨1704173400, 0⟩
    let node : Resource := .live { name := some "n1", created := some born }
      (.node [{ heartbeat := some born }, { transition := some born, heartbeat := some beat }])
    let updated := ofResource node .update
    let gone := ofResource (.deleted "pods" "shop/web-1") .delete
    let reported := ofResource (.live {} (.event { last := some beat, time := some born })) .create
    (updated.host = "n1" ∧ updated.created = "2024-01-02 03:04:05" ∧
        updated.last = "2024-01-02 05:30:00" ∧ updated.message = "nodes:n1 has been UPDATED") ∧
      (gone.host = "Empty" ∧ gone.last = "" ∧
        gone.message = "pods:web-1 in namespace shop has been DELETED") ∧
      reported.last = "2024-01-02 05:30:00" ∧ reported.message = "" := by
  intro born beat node updated gone reported
  have hborn : born.stamp = "2024-01-02 03:04:05" := by decide +kernel
  have hbeat : beat.stamp = "2024-01-02 05:30:00" := by decide +kernel
  have hupdated : updated.Records node .update := ofResource_records node .update
  have hgone : gone.Records (.deleted "pods" "shop/web-1") .delete := ofResource_records _ _
  have hreported := ofResource_records
    (.live {} (.event { last := some beat, time := some born })) .create
  refine ⟨⟨?_, ?_, ?_, ?_⟩, ⟨?_, ?_, ?_⟩, ?_, ?_⟩
  · exact hupdated.host_named "n1" rfl (by decide)
  · exact ((hupdated.identifies _ rfl).created.stamped born rfl).trans hborn
  · exact ((hupdated.last_updated rfl rfl).stamped beat rfl).trans hbeat
  · exact (hupdated.message_summary (by rintro o message ⟨⟩)).clusterWide (.inr rfl)
  · exact hgone.host_unnamed (by rintro host ⟨⟩)
  · exact hgone.last_otherwise rfl (by decide)
  · exact (hgone.message_summary (by rintro o message ⟨⟩)).namespaced (by decide) (by decide)
      (by decide)
  · exact ((hreported.reports _ rfl).last.stamped beat rfl).trans hbeat
  · refine (hreported.message_summary ?_).native rfl
    rintro o message ⟨⟩ ⟨⟩

/-- An object of an unknown shape that calls itself a native event has no message at all. -/
example (m : Metadata) : (ofResource (.unrecognized "events" m) .update).message = "" := rfl

end Event

end ClusterWatch
