import ClusterWatch.Config.Document
import ClusterWatch.Proofs.Config.Sections
import ClusterWatch.Proofs.Json.RoundTrip
import Mathlib.Data.List.Infix
/-!
# Configurations from documents

A document is read as the configuration that has in each of its settings what stands in the place of
the setting, and its default where nothing does. A configuration that was written as JSON reads
back.

- `ofNode_eq_ok_iff`: the configuration of a node.
- `get_eq_of_agree`: a setting depends on its place only.
- `ofNode_of_agree`: only the places of settings matter.
- `number_of_ofNode`: numbers are neither rounded nor wrapped.
- `fits_write`: what is written as JSON can be read as JSON.

Main result: `decoding_exact`.
-/

namespace ClusterWatch.Config

open Json (Format Value)
open Yaml (Node)

variable {n n' : Node} {c c' : Config}

/-! ### Documents -/

/-- A node that can have settings in it: no key is twice in a mapping, and the sections are
mappings. -/
structure Document (n : Node) : Prop where
  distinct : n.Distinct
  sectioned : Sectioned settings n

theorem Document.mapping (h : Document n) : ∃ members, n = .mapping members :=
  h.sectioned (.within "k8s" (·.cluster) (.leaf "clusterName" Text (·.name))) (.head _) []
    List.nil_prefix nofun n rfl

/-- It is enough that the sections are mappings. -/
theorem sectioned_of_sections (h : ∀ path ∈ sections, ∀ w, n.under path = some w →
    ∃ members, w = .mapping members) : Sectioned settings n := by
  have hpaths : ∀ p ∈ settings.map Setting.path, ∀ q ∈ p.inits, q ≠ p → q ∈ sections := by
    decide
  intro s hs path hprefix hne
  exact h path (hpaths _ (List.mem_map_of_mem hs) path ((List.mem_inits ..).mpr hprefix) hne)

/-- A document is accepted if it can be a JSON tree and tells a value of each setting. -/
theorem ofNode_eq_ok_iff (h : Document n) :
    ofNode n = .ok c ↔ n.Convertible ∧ ∀ s ∈ settings, s.Told n {} c := by
  obtain ⟨members, rfl⟩ := h.mapping
  unfold ofNode
  rw [← Node.exists_toJson_iff]
  cases htree : (Node.mapping members).toJson with
  | error e =>
    constructor
    · intro heq
      cases heq
    · rintro ⟨⟨_, hv⟩, -⟩
      cases hv
  | ok v =>
    have hbecomes : (Node.mapping members).Becomes v.sorted := ⟨h.distinct, v, htree, rfl⟩
    -- the tree of a mapping is not null, which would stand for an empty object
    have hread : ofTree v = format.read v.sorted := by
      have hshows := hbecomes.shows
      unfold ofTree
      generalize v.sorted = u at hshows
      cases hshows
      rfl
    rw [← described.reads hbecomes h.sectioned, ← hread]
    show (ofTree v).mapError _ = .ok c ↔ _
    cases ofTree v <;> simp [Except.mapError]

/-! ### Places of settings -/

/-- Each setting has a format. -/
theorem readable_of_mem_settings :
    ∀ s ∈ settings, ∃ format : Format s.type, Readable format s.Means := by
  have htext := readable_text
  have hflag := readable_flag
  have hcount16 := readable_unsigned16
  have hcount32 := readable_unsigned32
  have hcount64 := readable_unsigned64
  have hlogFormat := readable_logFormat
  have hpath := readable_optional readable_path nofun
  have hperhaps := readable_optional readable_text nofun
  have htexts := readable_list readable_text
  have hnamespaces := readable_optional htexts nofun
  have hentries := readable_list Toggle.readable
  simp only [settings, Cluster.settings, Process.settings, Retries.settings, Sinks.settings,
    Alerting.settings, Webhook.settings, SearchIndex.settings, TimeSeries.settings,
    MessageBus.settings, List.forall_mem_append, List.forall_mem_map, List.forall_mem_cons,
    List.not_mem_nil, false_imp_iff, implies_true, and_true]
  and_intros
  all_goals exact ⟨_, by assumption⟩

section

variable {α : Type} {s : Setting α} {start a : α} {w : Node}

/-- What stands in the place of a setting means the setting. -/
theorem Setting.means_of_told (h : s.Told n start a) (hw : n.under s.path = some w) :
    s.Means w (s.get a) := by
  unfold Setting.Told at h
  rwa [hw] at h

/-- A setting without anything in its place is as it was. -/
theorem Setting.get_of_told (h : s.Told n start a) (hnone : n.under s.path = none) :
    s.get a = s.get start := by
  unfold Setting.Told at h
  rwa [hnone] at h

/-- Nodes that agree in the place of a setting tell the same about it. -/
theorem Setting.told_of_agree (hmeans : ∀ {w w' x}, s.Same w w' → s.Means w x → s.Means w' x)
    (hagree : s.Agree n n') (h : s.Told n start a) : s.Told n' start a := by
  unfold Setting.Agree at hagree
  unfold Setting.Told at h ⊢
  generalize n.under s.path = w at hagree h
  generalize n'.under s.path = w' at hagree
  cases hagree with
  | none => exact h
  | some hsame => exact hmeans hsame h

end

/-- Entries that are the same mean the same. -/
theorem entry_of_same {w w' : Node} {t : Toggle} (h : Toggle.Same w w') (hw : Toggle.Entry w t) :
    Toggle.Entry w' t := by
  cases h with
  | refl => exact hw
  | mapping members members' hagree =>
    cases hw with
    | mapping _ _ htold =>
      have heq : ∀ s ∈ Toggle.settings, s.Same = Eq := by
        simp [Toggle.settings, Setting.leaf]
      refine .mapping members' t fun s hs => ?_
      refine (s.told_of_agree fun {w w' x} hsame hmeans => ?_) (hagree s hs) (htold s hs)
      rw [heq s hs] at hsame
      exact hsame ▸ hmeans

theorem entries_of_same {items items' : List Node} {entries : List Toggle}
    (h : List.Forall₂ Toggle.Same items items')
    (hitems : List.Forall₂ Toggle.Entry items entries) :
    List.Forall₂ Toggle.Entry items' entries := by
  induction h generalizing entries with
  | nil =>
    cases hitems
    exact .nil
  | cons hhead _ ih =>
    cases hitems with
    | cons hentry hrest => exact .cons (entry_of_same hhead hentry) (ih hrest)

/-- What is the same to a setting means the same. -/
theorem means_of_same {s : Setting Config} (hs : s ∈ settings) {w w' : Node} {x : s.type}
    (h : s.Same w w') (hmeans : s.Means w x) : s.Means w' x := by
  have hsame : s.Same = Eq ∨ s = Toggle.entries := by
    revert s
    simp [settings, Cluster.settings, Process.settings, Retries.settings, Sinks.settings,
      Alerting.settings, Webhook.settings, SearchIndex.settings, TimeSeries.settings,
      MessageBus.settings, Setting.within, Setting.leaf]
  obtain heq | rfl := hsame
  · rw [heq] at h
    exact h ▸ hmeans
  · -- only about the entries is there something that need not be equal
    obtain rfl | ⟨items, items', rfl, rfl, hitems⟩ := h
    · exact hmeans
    · obtain ⟨_, heq, hentries⟩ := hmeans
      cases heq
      exact ⟨items', rfl, entries_of_same hitems hentries⟩

/-- Documents that agree in the places of all settings have the same configuration. -/
theorem ofNode_of_agree (h : Document n) (h' : Document n') (hconvertible : n'.Convertible)
    (hread : ofNode n = .ok c) (hagree : ∀ s ∈ settings, s.Agree n n') : ofNode n' = .ok c := by
  obtain ⟨-, htold⟩ := (ofNode_eq_ok_iff h).mp hread
  refine (ofNode_eq_ok_iff h').mpr ⟨hconvertible, fun s hs => ?_⟩
  exact Setting.told_of_agree (means_of_same hs) (hagree s hs) (htold s hs)

/-- What stands in a document means one thing only. -/
theorem means_unique (hdistinct : n.Distinct) (hconvertible : n.Convertible) {s : Setting Config}
    (hs : s ∈ settings) {w : Node} (hw : n.under s.path = some w) {x x' : s.type}
    (h : s.Means w x) (h' : s.Means w x') : x = x' := by
  obtain ⟨v, hv⟩ := Node.exists_toJson_iff.mpr hconvertible
  have hbecomes : n.Becomes v.sorted := ⟨hdistinct, v, hv, rfl⟩
  -- both are what the format of the setting reads of what the tree has there
  have hplace := hbecomes.at? (s.path.map .member)
  rw [show n.at? _ = some w from hw] at hplace
  generalize v.sorted.at? _ = u at hplace
  cases hplace with
  | some hinner =>
    obtain ⟨format, hformat⟩ := readable_of_mem_settings s hs
    have hread := (hformat.reads hinner).mpr h
    rw [(hformat.reads hinner).mpr h', Except.ok.injEq] at hread
    exact hread.symm

/-- A setting depends on its place only. -/
theorem get_eq_of_agree (h : Document n) (h' : Document n') (hread : ofNode n = .ok c)
    (hread' : ofNode n' = .ok c') {s : Setting Config} (hs : s ∈ settings)
    (hagree : s.Agree n n') : s.get c = s.get c' := by
  obtain ⟨-, htold⟩ := (ofNode_eq_ok_iff h).mp hread
  obtain ⟨hconvertible, htold'⟩ := (ofNode_eq_ok_iff h').mp hread'
  have hthere : s.Told n' {} c := Setting.told_of_agree (means_of_same hs) hagree (htold s hs)
  cases hplace : n'.under s.path with
  | none =>
    rw [Setting.get_of_told hthere hplace, Setting.get_of_told (htold' s hs) hplace]
  | some w =>
    have hmeans := Setting.means_of_told hthere hplace
    have hmeans' := Setting.means_of_told (htold' s hs) hplace
    exact means_unique h'.distinct hconvertible hs hplace hmeans hmeans'

/-! ### Numbers -/

/-- The number of a setting is the integer in its place, and lies in the bounds of its type. -/
theorem number_of_ofNode (h : Document n) (hread : ofNode n = .ok c) {p : Number}
    (hp : p ∈ numbers) {w : Node} (hw : n.under p.path = some w) :
    w = .integer (p.get c) ∧ p.get c < p.bound := by
  obtain ⟨-, htold⟩ := (ofNode_eq_ok_iff h).mp hread
  have hnumbers : ∀ p ∈ numbers, ∀ w, n.under p.path = some w →
      w = .integer (p.get c) ∧ p.get c < p.bound := by
    simp only [settings, Process.settings, Retries.settings, List.map_append, List.map_map,
      List.forall_mem_append, List.map_cons, List.forall_mem_cons] at htold
    obtain ⟨⟨⟨-, ⟨hport, hworkers, -, -, -, -, htimeout, -⟩, hattempts, hinitial, hlargest, -⟩, -⟩,
      -⟩ := htold
    simp only [numbers, List.forall_mem_cons, List.not_mem_nil, false_imp_iff, implies_true,
      and_true]
    and_intros
    · exact fun w hw => ⟨Setting.means_of_told hport hw, UInt16.toNat_lt _⟩
    · exact fun w hw => ⟨Setting.means_of_told hworkers hw, UInt64.toNat_lt _⟩
    · exact fun w hw => ⟨Setting.means_of_told htimeout hw, UInt64.toNat_lt _⟩
    · exact fun w hw => ⟨Setting.means_of_told hattempts hw, UInt32.toNat_lt _⟩
    · exact fun w hw => ⟨Setting.means_of_told hinitial hw, UInt64.toNat_lt _⟩
    · exact fun w hw => ⟨Setting.means_of_told hlargest hw, UInt64.toNat_lt _⟩
  exact hnumbers p hp w hw

/-! ### Written trees -/

section

variable {β : Type} {inner : Format β} {d : Nat}

theorem fits_text (s : String) : (Format.text.write s).Fits d := by
  simp [Format.text, Value.Fits]

theorem fits_path (s : String) : (pathFormat.write s).Fits d := by
  simp [pathFormat, Value.Fits]

theorem fits_flag (b : Bool) : (Format.boolean.write b).Fits d := by
  simp [Format.boolean, Value.Fits]

theorem fits_names {alternatives : List (String × β)} {name : β → String} (b : β) :
    ((Format.names alternatives name).write b).Fits d := by
  simp [Format.names, Value.Fits]

theorem fits_integer {range : String} {toNat : β → Nat} {ofInt? : Int → Option β}
    (h : ∀ b, toNat b < UInt64.size) (b : β) :
    ((Format.integer range (fun b => toNat b) ofInt?).write b).Fits d := by
  have hlt := h b
  show Value.Fits d (.number (.integer (toNat b)))
  unfold Value.Fits Json.IsInt64 Text.int64Min
  omega

theorem fits_optional (h : ∀ b, (inner.write b).Fits d) (o : Option β) :
    ((Format.optional inner).write o).Fits d := by
  cases o with
  | none =>
    show Value.Fits d .null
    simp [Value.Fits]
  | some b => exact h b

theorem fits_list (h : ∀ b, (inner.write b).Fits d) (bs : List β) :
    ((Format.list inner).write bs).Fits (d + 1) := by
  show Value.ItemsFit d (bs.map inner.write)
  rw [Value.itemsFit_iff, List.forall_mem_map]
  exact fun b _ => h b

theorem fits_record {title : String} {fields : List (Json.Field β)} {start : β}
    (h : ∀ f ∈ fields, ∀ b, (f.get b).Fits d) (b : β) :
    ((Format.record title fields start).write b).Fits (d + 1) := by
  show Value.MembersFit d (fields.map _)
  rw [Value.membersFit_iff, List.forall_mem_map]
  exact fun f hf => h f hf b

end

section

variable {d : Nat}

theorem Process.fits_write (p : Process) : (Process.format.write p).Fits (d + 2) := by
  have hcount16 (x : UInt16) : (Format.unsigned16.write x).Fits (d + 1) :=
    fits_integer (fun x => Nat.lt_trans x.toNat_lt_size (by decide)) x
  have hcount32 (x : UInt32) : (Format.unsigned32.write x).Fits d :=
    fits_integer (fun x => Nat.lt_trans x.toNat_lt_size (by decide)) x
  have hcount64 {k : Nat} (x : UInt64) : (Format.unsigned64.write x).Fits k :=
    fits_integer (fun x => x.toNat_lt_size) x
  have hworkers (x : UInt64) : (Format.count64.write x).Fits (d + 1) :=
    fits_integer (fun x => x.toNat_lt_size) x
  have hendpoint := fits_optional (fits_text (d := d + 1))
  have hretries : ∀ r, (Retries.format.write r).Fits (d + 1) :=
    fits_record (by simp [Retries.fields, Json.Field.of, hcount32, hcount64])
  refine fits_record ?_ p
  simp [Process.fields, Json.Field.of, LogFormat.format, fits_text, fits_flag, fits_names, hcount16,
    hcount64, hworkers, hendpoint, hretries]

theorem Sinks.fits_write (s : Sinks) : (Sinks.format.write s).Fits (d + 3) := by
  have htexts : ∀ texts, ((Format.list .text).write texts).Fits (d + 1) := fits_list fits_text
  have hnamespaces := fits_optional htexts
  have halert : ∀ a, (Alerting.format.write a).Fits (d + 2) :=
    fits_record (by simp [Alerting.fields, Json.Field.of, fits_text, fits_flag, hnamespaces])
  have hwebhook : ∀ w, (Webhook.format.write w).Fits (d + 2) :=
    fits_record (by simp [Webhook.fields, Json.Field.of, fits_text, fits_flag])
  have hindex : ∀ i, (SearchIndex.format.write i).Fits (d + 2) :=
    fits_record (by simp [SearchIndex.fields, Json.Field.of, fits_text, fits_flag, htexts])
  have hseries : ∀ t, (TimeSeries.format.write t).Fits (d + 2) :=
    fits_record (by simp [TimeSeries.fields, Json.Field.of, fits_text, fits_flag])
  have hbus : ∀ b, (MessageBus.format.write b).Fits (d + 2) :=
    fits_record (by simp [MessageBus.fields, Json.Field.of, fits_text, fits_flag, htexts])
  refine fits_record ?_ s
  simp [Sinks.fields, Json.Field.of, halert, hwebhook, hindex, hseries, hbus]

end

/-- A configuration is written without numbers that are not finite, and without going deep. -/
theorem fits_write (c : Config) : (format.write c).Fits Json.depthLimit := by
  have hpath := fits_optional (fits_path (d := 126))
  have hcluster : ∀ k, (Cluster.format.write k).Fits 127 :=
    fits_record (by simp [Cluster.fields, Json.Field.of, fits_text, hpath])
  have hentry : ∀ t, (Toggle.format.write t).Fits 126 :=
    fits_record (by simp [Toggle.fields, Json.Field.of, fits_text, fits_flag])
  have hentries := fits_list hentry
  refine fits_record (d := 127) ?_ c
  simp [fields, Json.Field.of, hcluster, hentries, Process.fits_write, Sinks.fits_write]

/-! ### Main result -/

/-- **A document sets what it says and nothing else.** It is accepted as the configuration in which
each setting is what stands in its place, and the default if nothing does; what stands elsewhere,
and the order of members, has no part in that, and a setting does not depend on the places of
others. There is no other setting. A number is the integer that is written; one outside of its type
is refused. What is written of a configuration as JSON, as a tree or as a text, reads back. -/
theorem decoding_exact :
    (∀ text nodes, Yaml.documents text = .ok nodes →
      ofYaml text = ofNode (nodes.headD .null) ∧ (nodes.headD .null).Distinct) ∧
    (ofNode .null = .ok {} ∧ ofNode (.mapping []) = .ok {}) ∧
    (∀ n c, Document n → (ofNode n = .ok c ↔ n.Convertible ∧ ∀ s ∈ settings, s.Told n {} c)) ∧
    (∀ c c' : Config, (∀ s ∈ settings, s.get c = s.get c') → c = c') ∧
    (∀ n n' c, Document n → Document n' → ofNode n = .ok c →
      (n'.Convertible → (∀ s ∈ settings, s.Agree n n') → ofNode n' = .ok c) ∧
      ∀ c', ofNode n' = .ok c' → ∀ s ∈ settings, s.Agree n n' → s.get c = s.get c') ∧
    (∀ n, Document n → ∀ p ∈ numbers, ∀ w, n.under p.path = some w →
      (∀ c, ofNode n = .ok c → w = .integer (p.get c) ∧ p.get c < p.bound) ∧
      ((∀ k < p.bound, w ≠ .integer k) → ∃ e, ofNode n = .error e)) ∧
    ∀ c : Config, format.read (format.write c) = .ok c ∧ ofTree (format.write c) = .ok c ∧
      Json.read (format.write c).text = .ok (format.write c) := by
  refine ⟨?_, ⟨rfl, rfl⟩, fun n c => ofNode_eq_ok_iff, fun c c' => described.ext, ?_, ?_, ?_⟩
  -- the document is the first one of the text, or an empty one
  · intro text nodes hnodes
    constructor
    · unfold ofYaml
      rw [hnodes]
    · cases nodes with
      | nil => exact Node.distinct_of_parts rfl nofun
      | cons n rest => exact Yaml.distinct_of_documents hnodes n List.mem_cons_self
  · intro n n' c h h' hread
    constructor
    · intro hconvertible hagree
      exact ofNode_of_agree h h' hconvertible hread hagree
    · intro c' hread' s hs hagree
      exact get_eq_of_agree h h' hread hread' hs hagree
  · intro n h p hp w hw
    constructor
    · intro c hread
      exact number_of_ofNode h hread hp hw
    · intro hrange
      -- were it read, the setting would hold a number within its bound
      cases hread : ofNode n with
      | error e => exact ⟨e, rfl⟩
      | ok c =>
        obtain ⟨hinteger, hbound⟩ := number_of_ofNode h hread hp hw
        exact absurd hinteger (hrange _ hbound)
  · intro c
    exact ⟨described.back c, described.steady c, Json.read_text (fits_write c)⟩

/-- A document that sets a port and a number of attempts, one that says the same in another order
and something else besides, and one with a port that is none. -/
theorem decoding_exact_port :
    let retry : Node := .mapping [(.string "maxAttempts", .integer 3)]
    let n : Node := .mapping [(.string "settings",
      .mapping [(.string "httpPort", .integer 9000), (.string "retry", retry)])]
    let n' : Node := .mapping [(.string "extra", .null), (.string "settings",
      .mapping [(.string "retry", retry), (.string "httpPort", .integer 9000)])]
    let beyond : Node := .mapping [(.string "settings",
      .mapping [(.string "httpPort", .integer 65536)])]
    let text := "settings:\n  httpPort: 9000\n  retry:\n    maxAttempts: 3\n"
    let c : Config := { process := { httpPort := 9000, retries := { maxAttempts := 3 } } }
    Yaml.documents text = .ok [n] ∧ Document n ∧ Document n' ∧ Document beyond ∧
      (∀ s ∈ settings, s.Agree n n') ∧ ofYaml text = .ok c ∧ ofNode n' = .ok c ∧
      ∃ e, ofNode beyond = .error e := by
  intro retry n n' beyond text c
  have hdocuments : Yaml.documents text = .ok [n] := Yaml.documents_of_same (by decide +kernel)
  have hscalar : ∀ s, (Node.string s).Distinct := fun s => Node.distinct_of_parts rfl nofun
  have hinteger : ∀ i, (Node.integer i).Distinct := fun i => Node.distinct_of_parts rfl nofun
  have hnull : Node.null.Distinct := Node.distinct_of_parts rfl nofun
  have hsame : ∀ s t, (Node.string s).same (.string t) = decide (s = t) := fun _ _ => rfl
  have hn : Document n := by
    refine ⟨?_, sectioned_of_sections ?_⟩
    · simp [n, retry, Node.distinct_mapping, hsame, hscalar, hinteger]
    · simp [sections, n, retry, Node.under, Node.at?, Node.child?, hsame]
  have hn' : Document n' := by
    refine ⟨?_, sectioned_of_sections ?_⟩
    · simp [n', retry, Node.distinct_mapping, hsame, hscalar, hinteger, hnull]
    · simp [sections, n', retry, Node.under, Node.at?, Node.child?, hsame]
  have hbeyond : Document beyond := by
    refine ⟨?_, sectioned_of_sections ?_⟩
    · simp [beyond, Node.distinct_mapping, hscalar, hinteger]
    · simp [sections, beyond, Node.under, Node.at?, Node.child?, hsame]
  -- the two documents differ in what no setting looks at
  have hagree : ∀ s ∈ settings, s.Agree n n' := by
    simp only [settings, Cluster.settings, Process.settings, Retries.settings, Sinks.settings,
      Alerting.settings, Webhook.settings, SearchIndex.settings, TimeSeries.settings,
      MessageBus.settings, List.forall_mem_append, List.forall_mem_map, List.forall_mem_cons,
      List.not_mem_nil, false_imp_iff, implies_true, and_true]
    and_intros
    all_goals first
      | exact .none
      | exact .some rfl
  obtain ⟨hyaml, -, -, -, hlocal, hnumbers, -⟩ := decoding_exact
  have hsets : ofNode n = .ok c := rfl
  refine ⟨hdocuments, hn, hn', hbeyond, hagree, ?_, ?_, ?_⟩
  · rw [(hyaml text _ hdocuments).1]
    exact hsets
  · exact (hlocal n n' c hn hn' hsets).1 (Node.exists_toJson_iff.mp ⟨_, rfl⟩) hagree
  · refine (hnumbers beyond hbeyond _ (.head _) (.integer 65536) rfl).2 fun k hk heq => ?_
    have hlt : k < 65536 := hk
    rw [Node.integer.injEq] at heq
    omega

end ClusterWatch.Config
