import ClusterWatch.Proofs.Config.Reading
/-!
# The sections of a configuration

Each section is read setting by setting, and so is the whole configuration.

- `Cluster.described` and so on: the sections.
- `Toggle.readable`: the entries about resources.
- `described`: the whole configuration.
-/

namespace ClusterWatch.Config

open Json (Format Value)
open Yaml (Node)

theorem readable_logFormat : Readable LogFormat.format (Choice LogFormat.name) := by
  refine readable_names (named?_eq_ok_iff (fun b => ?_) fun {b b'} => ?_)
  · cases b <;> decide
  · cases b <;> cases b' <;> decide

/-! ### Sections without others in them -/

theorem Cluster.described : Described Cluster.format Cluster.settings {} := by
  refine .leaves "K8sConfig" (by decide) ?_ ?_
  · have htext := readable_text
    have hpath := readable_optional readable_path nofun
    simp only [fields, settings, List.zipIdx, List.forall₂_cons, List.Forall₂.nil, and_true]
    and_intros
    all_goals exact .leaf (by assumption) (fun _ _ => rfl) (fun _ _ => rfl) fun _ => rfl
  · rintro ⟨⟩ ⟨⟩
    simp [settings, Setting.leaf]

theorem Retries.described : Described Retries.format Retries.settings {} := by
  refine .leaves "RetrySettings" (by decide) ?_ ?_
  · have hcount32 := readable_unsigned32
    have hcount64 := readable_unsigned64
    simp only [fields, settings, List.zipIdx, List.forall₂_cons, List.Forall₂.nil, and_true]
    and_intros
    all_goals exact .leaf (by assumption) (fun _ _ => rfl) (fun _ _ => rfl) fun _ => rfl
  · rintro ⟨⟩ ⟨⟩
    simp [settings, Setting.leaf]

theorem Toggle.described : Described Toggle.format Toggle.settings {} := by
  refine .leaves "ResourceToggle" (by decide) ?_ ?_
  · have htext := readable_text
    have hflag := readable_flag
    simp only [fields, settings, List.zipIdx, List.forall₂_cons, List.Forall₂.nil, and_true]
    and_intros
    all_goals exact .leaf (by assumption) (fun _ _ => rfl) (fun _ _ => rfl) fun _ => rfl
  · rintro ⟨⟩ ⟨⟩
    simp [settings, Setting.leaf]

theorem Alerting.described : Described Alerting.format Alerting.settings {} := by
  refine .leaves "AlertConfig" (by decide) ?_ ?_
  · have hflag := readable_flag
    have htext := readable_text
    have htexts := readable_optional (readable_list readable_text) nofun
    simp only [fields, settings, List.zipIdx, List.forall₂_cons, List.Forall₂.nil, and_true]
    and_intros
    all_goals exact .leaf (by assumption) (fun _ _ => rfl) (fun _ _ => rfl) fun _ => rfl
  · rintro ⟨⟩ ⟨⟩
    simp [settings, Setting.leaf]

theorem Webhook.described : Described Webhook.format Webhook.settings {} := by
  refine .leaves "WebhookConfig" (by decide) ?_ ?_
  · have hflag := readable_flag
    have htext := readable_text
    simp only [fields, settings, List.zipIdx, List.forall₂_cons, List.Forall₂.nil, and_true]
    and_intros
    all_goals exact .leaf (by assumption) (fun _ _ => rfl) (fun _ _ => rfl) fun _ => rfl
  · rintro ⟨⟩ ⟨⟩
    simp [settings, Setting.leaf]

theorem SearchIndex.described : Described SearchIndex.format SearchIndex.settings {} := by
  refine .leaves "ElasticsearchConfig" (by decide) ?_ ?_
  · have hflag := readable_flag
    have htexts := readable_list readable_text
    have htext := readable_text
    simp only [fields, settings, List.zipIdx, List.forall₂_cons, List.Forall₂.nil, and_true]
    and_intros
    all_goals exact .leaf (by assumption) (fun _ _ => rfl) (fun _ _ => rfl) fun _ => rfl
  · rintro ⟨⟩ ⟨⟩
    simp [settings, Setting.leaf]

theorem TimeSeries.described : Described TimeSeries.format TimeSeries.settings {} := by
  refine .leaves "InfluxDbConfig" (by decide) ?_ ?_
  · have hflag := readable_flag
    have htext := readable_text
    simp only [fields, settings, List.zipIdx, List.forall₂_cons, List.Forall₂.nil, and_true]
    and_intros
    all_goals exact .leaf (by assumption) (fun _ _ => rfl) (fun _ _ => rfl) fun _ => rfl
  · rintro ⟨⟩ ⟨⟩
    simp [settings, Setting.leaf]

theorem MessageBus.described : Described MessageBus.format MessageBus.settings {} := by
  refine .leaves "RabbitMqConfig" (by decide) ?_ ?_
  · have hflag := readable_flag
    have htexts := readable_list readable_text
    have htext := readable_text
    simp only [fields, settings, List.zipIdx, List.forall₂_cons, List.Forall₂.nil, and_true]
    and_intros
    all_goals exact .leaf (by assumption) (fun _ _ => rfl) (fun _ _ => rfl) fun _ => rfl
  · rintro ⟨⟩ ⟨⟩
    simp [settings, Setting.leaf]

/-! ### Sections with others in them -/

theorem Process.described : Described Process.format Process.settings {} := by
  refine .record "Settings"
    [[_], [_], [_], [_], [_], [_], [_], Retries.settings.map (.within "retry" (·.retries))] rfl
    (by decide) ?_ ?_
  · have htext := readable_text
    have hflag := readable_flag
    have hcount16 := readable_unsigned16
    have hcount64 := readable_unsigned64
    have hworkers := readable_count64
    have hformat := readable_logFormat
    have hperhaps := readable_optional readable_text nofun
    have hretries := Retries.described
    simp only [fields, List.zipIdx, List.forall₂_cons, List.Forall₂.nil, and_true]
    and_intros
    any_goals exact .leaf (by assumption) (fun _ _ => rfl) (fun _ _ => rfl) fun _ => rfl
    exact .section hretries ⟨_, .head _, nofun⟩ rfl (fun _ _ => rfl) (fun _ _ => rfl) fun _ => rfl
  · rintro ⟨⟩ ⟨⟩ h
    simp only [settings, List.forall_mem_append, List.forall_mem_map] at h
    obtain ⟨hleaves, hretries⟩ := h
    obtain rfl := Retries.described.ext hretries
    simpa [Setting.leaf] using hleaves

theorem Sinks.described : Described Sinks.format Sinks.settings {} := by
  refine .record "HandlersConfig"
    [Alerting.settings.map (.within "alert" (·.alert)),
      Webhook.settings.map (.within "webhook" (·.webhook)),
      SearchIndex.settings.map (.within "elasticsearch" (·.searchIndex)),
      TimeSeries.settings.map (.within "influxdb" (·.timeSeries)),
      MessageBus.settings.map (.within "rabbitmq" (·.messageBus))] rfl
    (by decide) ?_ ?_
  · have halert := Alerting.described
    have hwebhook := Webhook.described
    have hindex := SearchIndex.described
    have hseries := TimeSeries.described
    have hbus := MessageBus.described
    simp only [fields, List.zipIdx, List.forall₂_cons, List.Forall₂.nil, and_true]
    and_intros
    all_goals
      exact .section (by assumption) ⟨_, .head _, nofun⟩ rfl (fun _ _ => rfl) (fun _ _ => rfl)
        fun _ => rfl
  -- two values that agree in every setting agree in every section
  · rintro ⟨⟩ ⟨⟩ h
    simp only [settings, List.forall_mem_append, List.forall_mem_map] at h
    obtain ⟨⟨⟨⟨halert, hwebhook⟩, hindex⟩, hseries⟩, hbus⟩ := h
    obtain rfl := Alerting.described.ext halert
    obtain rfl := Webhook.described.ext hwebhook
    obtain rfl := SearchIndex.described.ext hindex
    obtain rfl := TimeSeries.described.ext hseries
    obtain rfl := MessageBus.described.ext hbus
    rfl

/-! ### Entries about resources -/

/-- Settings right in a record stand in the mapping of the record. -/
theorem sectioned_of_leaves {α : Type} {settings : List (Setting α)}
    (h : ∀ s ∈ settings, ∃ name, s.path = [name]) (members : List (Node × Node)) :
    Sectioned settings (.mapping members) := by
  intro s hs path hprefix hne w hw
  obtain ⟨name, hpath⟩ := h s hs
  rw [hpath] at hprefix hne
  cases path with
  | nil =>
    cases hw
    exact ⟨members, rfl⟩
  | cons first rest =>
    obtain ⟨rfl, hrest⟩ := List.cons_prefix_cons.mp hprefix
    rw [List.prefix_nil.mp hrest] at hne
    exact absurd rfl hne

/-- The items of an entry are its name and whether it is enabled. -/
theorem Toggle.read_items (values : List Value) (t : Toggle) :
    Toggle.format.read (.array values) = .ok t ↔ match values with
      | [] => t = {}
      | [v] => ∃ name, Format.text.read v = .ok name ∧ t = { name }
      | [v, w] => ∃ name enabled, Format.text.read v = .ok name ∧
          Format.boolean.read w = .ok enabled ∧ t = { name, enabled }
      | _ => False := by
  have hread : Toggle.format.read (.array values) =
      (Json.Field.setItems Toggle.fields values {}).bind fun t =>
        if values.length ≤ 2 then .ok t else .error (.tooManyItems values.length) := rfl
  rw [hread]
  match values with
  | [] =>
    show Except.ok {} = .ok t ↔ _
    simp [eq_comm]
  | [v] =>
    simp only [fields, Json.Field.setItems, Json.Field.of]
    cases Format.text.read v <;> simp [Except.map, Except.bind, eq_comm]
  | [v, w] =>
    simp only [fields, Json.Field.setItems, Json.Field.of]
    cases Format.text.read v <;> cases Format.boolean.read w <;>
      simp [Except.map, Except.bind, eq_comm]
  | v :: w :: u :: rest =>
    simp only [fields, Json.Field.setItems, Json.Field.of]
    cases Format.text.read v <;> cases Format.boolean.read w <;> simp [Except.map, Except.bind]

/-- An entry given by position. -/
theorem Toggle.read_array {items : List Node} {values : List Value}
    (h : List.Forall₂ Node.Becomes items values) {t : Toggle} :
    Toggle.format.read (.array values) = .ok t ↔ Toggle.Entry (.sequence items) t := by
  -- one case for each length that an entry may have, and one for those beyond
  rw [read_items]
  cases h with
  | nil =>
    constructor
    · rintro rfl
      exact .nothing
    · rintro ⟨⟩
      rfl
  | @cons n v _ _ hn h =>
    cases h with
    | nil =>
      simp only [readable_text.reads hn]
      constructor
      · rintro ⟨name, hname, rfl⟩
        exact .name n name hname
      · rintro ⟨⟩
        exact ⟨_, ‹_›, rfl⟩
    | @cons m w _ _ hm h =>
      cases h with
      | nil =>
        simp only [readable_text.reads hn, readable_flag.reads hm]
        constructor
        · rintro ⟨name, enabled, hname, henabled, rfl⟩
          exact .both n m name enabled hname henabled
        · rintro ⟨⟩
          exact ⟨_, _, ‹_›, ‹_›, rfl⟩
      | cons _ _ => exact ⟨nofun, nofun⟩

theorem Toggle.readable : Readable Toggle.format Toggle.Entry where
  back := Toggle.described.back
  steady := Toggle.described.steady
  reads := by
    intro n v hbecomes t
    cases n with
    | mapping members =>
      have hsectioned : Sectioned Toggle.settings (.mapping members) :=
        sectioned_of_leaves (by simp [settings, Setting.leaf]) members
      rw [Toggle.described.reads hbecomes hsectioned]
      exact ⟨.mapping members t, fun | .mapping _ _ h => h⟩
    | sequence items =>
      obtain ⟨values, rfl, hitems⟩ := hbecomes.items
      exact Toggle.read_array hitems
    | null | bool | integer | real | string | unsupported =>
      cases hbecomes.shows
      all_goals exact ⟨nofun, nofun⟩

/-! ### The whole configuration -/

theorem described : Described format settings {} := by
  refine .record "Config"
    [Cluster.settings.map (.within "k8s" (·.cluster)),
      Process.settings.map (.within "settings" (·.process)), [Toggle.entries],
      Sinks.settings.map (.within "handlers" (·.sinks))] rfl (by decide) ?_ ?_
  · have hcluster := Cluster.described
    have hprocess := Process.described
    have hsinks := Sinks.described
    simp only [fields, List.zipIdx, List.forall₂_cons, List.Forall₂.nil, and_true]
    and_intros
    any_goals
      exact .section (by assumption) ⟨_, .head _, nofun⟩ rfl (fun _ _ => rfl) (fun _ _ => rfl)
        fun _ => rfl
    exact .leaf (readable_list Toggle.readable) (fun _ _ => rfl) (fun _ _ => rfl) fun _ => rfl
  · rintro ⟨cluster, process, resources, sinks⟩ ⟨cluster', process', resources', sinks'⟩ h
    simp only [settings, List.forall_mem_append, List.forall_mem_map,
      List.forall_mem_singleton] at h
    obtain ⟨⟨⟨hcluster, hprocess⟩, hentries⟩, hsinks⟩ := h
    obtain rfl := Cluster.described.ext hcluster
    obtain rfl := Process.described.ext hprocess
    obtain rfl := Sinks.described.ext hsinks
    obtain rfl : resources = resources' := hentries
    rfl

end ClusterWatch.Config
