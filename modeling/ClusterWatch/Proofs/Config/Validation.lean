import ClusterWatch.Proofs.Controller.Steps
import ClusterWatch.Proofs.Fleet.Isolation
import ClusterWatch.Proofs.Sequencing
import ClusterWatch.Startup.Launch
import Mathlib.Data.List.Induction
/-!
# What valid settings guarantee

The kinds to watch are those of the enabled entries, each one where it is enabled first. They can be
told unless an enabled entry has an unknown name, and a configuration that is valid has no entry
with one. So a program that found its settings valid does not fail at its kinds, and its controllers
have workers.

- `Resource.Kind.named_cases`, `named_eq_ok_iff`: the names of kinds.
- `Config.Lists`: the kinds of entries without repetition, in the order of the entries.
- `Config.Misnamed`: the first enabled entry with an unknown name.
- `Config.lists_of_kindsOf`, `kindsOf_eq_error_iff`: what the kinds to watch are.
- `Config.Sustains`: what the start of the controllers relies on.
- `Startup.Outcome`: what comes out of a start.

Main result: `Startup.valid_settings_sustain`.
-/

namespace ClusterWatch

open Resource (Kind)

namespace Resource.Kind

variable {k l : Kind} {s : String}

theorem ofName?_name (k : Kind) : ofName? k.name = some k := by
  cases k <;> decide

theorem ofName?_eq_some_iff : ofName? s = some k ↔ k.name = s := by
  constructor
  · intro h
    simpa using List.find?_some h
  · rintro rfl
    exact ofName?_name k

/-- Kinds have names of their own. -/
theorem name_inj : k.name = l.name ↔ k = l := by
  constructor
  · intro h
    have hfound := ofName?_name k
    rw [h, ofName?_name] at hfound
    exact (Option.some.inj hfound).symm
  · rintro rfl
    rfl

/-- Whether a name is that of a kind. -/
def Known (name : String) : Prop :=
  ∃ k : Kind, k.name = name

/-- The complaint about an unknown name. -/
def complaint (name : String) : Fault :=
  .configuration ("unknown resource type: " ++ name)

/-- Whether a name is known shows in what is made of it. -/
theorem named_cases (name : String) :
    (∃ k, named name = .ok k ∧ k.name = name) ∨
      named name = .error (complaint name) ∧ ¬ Known name := by
  unfold named
  cases hfound : ofName? name with
  | some k => exact .inl ⟨k, rfl, ofName?_eq_some_iff.mp hfound⟩
  | none =>
    refine .inr ⟨rfl, ?_⟩
    rintro ⟨k, hk⟩
    rw [ofName?_eq_some_iff.mpr hk] at hfound
    cases hfound

theorem named_eq_ok_iff : named s = .ok k ↔ k.name = s := by
  obtain ⟨l, hl, rfl⟩ | ⟨hnone, hunknown⟩ := named_cases s
  · rw [hl, Except.ok.injEq, name_inj]
    exact eq_comm
  · rw [hnone]
    exact ⟨nofun, fun hk => absurd ⟨k, hk⟩ hunknown⟩

end Resource.Kind

namespace Config

open Resource.Kind (Known complaint)

variable {toggles : List Toggle} {t : Toggle} {kinds : List Kind} {k : Kind} {fault : Fault}
  {c : Config}

/-! ### The kinds of entries -/

/-- The kinds of the enabled entries. -/
def kindsOf (toggles : List Toggle) : Except Fault (List Kind) :=
  ((toggles.filter (·.enabled)).mapM fun t => Kind.named t.name).map withoutRepeats

theorem enabledKinds_eq (c : Config) : c.enabledKinds = kindsOf c.resources :=
  rfl

theorem withoutRepeats_concat (kinds : List Kind) (k : Kind) :
    withoutRepeats (kinds ++ [k]) =
      if k ∈ withoutRepeats kinds then withoutRepeats kinds else withoutRepeats kinds ++ [k] := by
  unfold withoutRepeats
  rw [List.foldl_append]
  rfl

/-- One more entry counts if it is enabled. -/
theorem kindsOf_concat (toggles : List Toggle) (t : Toggle) :
    kindsOf (toggles ++ [t]) =
      if t.enabled then
        (kindsOf toggles).bind fun kinds =>
          (Kind.named t.name).map fun k => if k ∈ kinds then kinds else kinds ++ [k]
      else kindsOf toggles := by
  unfold kindsOf
  rw [List.filter_append]
  cases henabled : t.enabled with
  | false => simp [henabled]
  | true =>
    rw [if_pos rfl, List.filter_cons_of_pos henabled, List.filter_nil, List.mapM_append]
    cases (toggles.filter (·.enabled)).mapM fun t => Kind.named t.name with
    | error e => rfl
    | ok kinds =>
      rw [List.mapM_cons, List.mapM_nil]
      cases Kind.named t.name with
      | error e => rfl
      | ok k => exact congrArg Except.ok (withoutRepeats_concat kinds k)

/-- Where a kind is enabled first. -/
def firstEntry (toggles : List Toggle) (k : Kind) : Nat :=
  toggles.findIdx fun t => t.enabled && t.name == k.name

/-- The kinds of the enabled entries, each of them once, in the order in which they are enabled
first. -/
structure Lists (toggles : List Toggle) (kinds : List Kind) : Prop where
  mem_iff : ∀ k, k ∈ kinds ↔ ∃ t ∈ toggles, t.enabled = true ∧ t.name = k.name
  ordered : kinds.Pairwise fun k l => firstEntry toggles k < firstEntry toggles l

/-- What comes earlier is not the same. -/
theorem Lists.nodup (h : Lists toggles kinds) : kinds.Nodup :=
  h.ordered.imp fun hless heq => by
    subst heq
    exact Nat.lt_irrefl _ hless

/-- The first entry of a kind is among the entries. -/
theorem Lists.firstEntry_lt (h : Lists toggles kinds) (hk : k ∈ kinds) :
    firstEntry toggles k < toggles.length := by
  obtain ⟨t, ht, henabled, hname⟩ := (h.mem_iff k).mp hk
  exact List.findIdx_lt_length_of_exists ⟨t, ht, by simp [henabled, hname]⟩

/-- A kind that is enabled somewhere is enabled there first, whatever entries follow. -/
theorem Lists.firstEntry_concat (h : Lists toggles kinds) (hk : k ∈ kinds) (t : Toggle) :
    firstEntry (toggles ++ [t]) k = firstEntry toggles k := by
  have hless := h.firstEntry_lt hk
  unfold firstEntry at hless ⊢
  rw [List.findIdx_append, if_pos hless]

/-- One more entry puts its kind behind the others, unless the kind is there already. -/
theorem Lists.concat (h : Lists toggles kinds) (henabled : t.enabled = true)
    (hname : k.name = t.name) :
    Lists (toggles ++ [t]) (if k ∈ kinds then kinds else kinds ++ [k]) := by
  have hmem : ∀ l, (∃ t' ∈ toggles ++ [t], t'.enabled = true ∧ t'.name = l.name) ↔
      l ∈ kinds ∨ l = k := by
    intro l
    have hlast : t.name = l.name ↔ l = k := by
      rw [← hname, Kind.name_inj]
      exact eq_comm
    simp only [List.mem_append, List.mem_singleton, or_and_right, exists_or, exists_eq_left,
      ← h.mem_iff, henabled, true_and, hlast]
  have hordered : kinds.Pairwise fun k l =>
      firstEntry (toggles ++ [t]) k < firstEntry (toggles ++ [t]) l :=
    h.ordered.imp_of_mem fun hk hl hless => by
      rw [h.firstEntry_concat hk, h.firstEntry_concat hl]
      exact hless
  split
  · next hk =>
    refine ⟨fun l => ?_, hordered⟩
    rw [hmem]
    exact ⟨.inl, fun hl => hl.elim id fun heq => heq ▸ hk⟩
  · next hk =>
    refine ⟨fun l => ?_, ?_⟩
    · rw [hmem, List.mem_append, List.mem_singleton]
    · rw [List.pairwise_append]
      refine ⟨hordered, List.pairwise_singleton .., fun l hl m hm => ?_⟩
      obtain rfl := List.mem_singleton.mp hm
      rw [h.firstEntry_concat hl]
      -- the kind is enabled nowhere before
      have hlate : toggles.length ≤ firstEntry (toggles ++ [t]) m := by
        unfold firstEntry
        rw [List.findIdx_append, if_neg]
        · exact Nat.le_add_left ..
        · intro hless
          obtain ⟨t', ht', hfound⟩ := List.findIdx_lt_length.mp hless
          simp only [Bool.and_eq_true, beq_iff_eq] at hfound
          exact hk ((h.mem_iff m).mpr ⟨t', ht', hfound⟩)
      exact Nat.lt_of_lt_of_le (h.firstEntry_lt hl) hlate

/-- An entry that is not enabled adds nothing. -/
theorem Lists.skip (h : Lists toggles kinds) (hdisabled : t.enabled = false) :
    Lists (toggles ++ [t]) kinds where
  mem_iff := by
    intro k
    simp [h.mem_iff k, or_and_right, exists_or, hdisabled]
  ordered := h.ordered.imp_of_mem fun hk hl hless => by
    rw [h.firstEntry_concat hk, h.firstEntry_concat hl]
    exact hless

theorem lists_of_kindsOf (h : kindsOf toggles = .ok kinds) : Lists toggles kinds := by
  -- the entries are looked at from the first to the last
  induction toggles using List.reverseRecOn generalizing kinds with
  | nil =>
    cases h
    exact ⟨by simp [withoutRepeats], .nil⟩
  | append_singleton toggles t ih =>
    rw [kindsOf_concat] at h
    cases henabled : t.enabled with
    | false =>
      rw [henabled, if_neg Bool.false_ne_true] at h
      exact (ih h).skip henabled
    | true =>
      rw [henabled, if_pos rfl] at h
      cases hbefore : kindsOf toggles with
      | error fault =>
        rw [hbefore] at h
        cases h
      | ok before =>
        cases hnamed : Kind.named t.name with
        | error fault =>
          rw [hbefore, hnamed] at h
          cases h
        | ok k =>
          rw [hbefore, hnamed] at h
          cases h
          exact (ih hbefore).concat henabled (Kind.named_eq_ok_iff.mp hnamed)

/-! ### Unknown names -/

/-- The first enabled entry with an unknown name. -/
def Misnamed (toggles : List Toggle) (t : Toggle) : Prop :=
  ∃ before after, toggles = before ++ t :: after ∧ t.enabled = true ∧ ¬ Known t.name ∧
    ∀ t' ∈ before, t'.enabled = true → Known t'.name

/-- The first one is the first entry, or comes after it. -/
theorem misnamed_cons {u : Toggle} : Misnamed (u :: toggles) t ↔
    (u = t ∧ t.enabled = true ∧ ¬ Known t.name) ∨
      ((u.enabled = true → Known u.name) ∧ Misnamed toggles t) := by
  constructor
  · rintro ⟨before, after, hsplit, henabled, hunknown, hbefore⟩
    cases before with
    | nil =>
      obtain ⟨rfl, -⟩ := List.cons.inj hsplit
      exact .inl ⟨rfl, henabled, hunknown⟩
    | cons u' before =>
      obtain ⟨rfl, rfl⟩ := List.cons.inj hsplit
      rw [List.forall_mem_cons] at hbefore
      exact .inr ⟨hbefore.1, before, after, rfl, henabled, hunknown, hbefore.2⟩
  · rintro (⟨rfl, henabled, hunknown⟩ | ⟨hfirst, before, after, rfl, henabled, hunknown, hbefore⟩)
    · exact ⟨[], toggles, rfl, henabled, hunknown, by simp⟩
    · refine ⟨u :: before, after, rfl, henabled, hunknown, ?_⟩
      rw [List.forall_mem_cons]
      exact ⟨hfirst, hbefore⟩

/-- What the kinds of a list and of its rest have to do with each other. -/
theorem kindsOf_cons_eq_error_iff {u : Toggle} : kindsOf (u :: toggles) = .error fault ↔
    (u.enabled = true ∧ ¬ Known u.name ∧ fault = complaint u.name) ∨
      ((u.enabled = true → Known u.name) ∧ kindsOf toggles = .error fault) := by
  unfold kindsOf
  cases henabled : u.enabled with
  | false => simp [henabled]
  | true =>
    rw [List.filter_cons_of_pos henabled, List.mapM_cons]
    obtain ⟨k, hnamed, hname⟩ | ⟨hnamed, hunknown⟩ := Kind.named_cases u.name
    · have hknown : Known u.name := ⟨k, hname⟩
      rw [hnamed]
      cases (toggles.filter (·.enabled)).mapM fun t => Kind.named t.name with
      | error e => simp [bind, Except.bind, Except.map, hknown]
      | ok kinds => simp [bind, Except.bind, Except.map, pure, Except.pure, hknown]
    · simp [hnamed, bind, Except.bind, Except.map, hunknown, eq_comm]

/-- The kinds cannot be told when an enabled entry has an unknown name; the first one is named. -/
theorem kindsOf_eq_error_iff :
    kindsOf toggles = .error fault ↔ ∃ t, Misnamed toggles t ∧ fault = complaint t.name := by
  induction toggles with
  | nil =>
    constructor
    · intro h
      cases h
    · rintro ⟨t, ⟨before, after, hsplit, -⟩, -⟩
      simp at hsplit
  | cons u toggles ih =>
    rw [kindsOf_cons_eq_error_iff, ih]
    constructor
    · rintro (⟨henabled, hunknown, hfault⟩ | ⟨hfirst, t, ht, hfault⟩)
      · exact ⟨u, misnamed_cons.mpr (.inl ⟨rfl, henabled, hunknown⟩), hfault⟩
      · exact ⟨t, misnamed_cons.mpr (.inr ⟨hfirst, ht⟩), hfault⟩
    · rintro ⟨t, ht, hfault⟩
      obtain ⟨rfl, henabled, hunknown⟩ | ⟨hfirst, ht⟩ := misnamed_cons.mp ht
      · exact .inl ⟨henabled, hunknown, hfault⟩
      · exact .inr ⟨hfirst, t, ht, hfault⟩

/-! ### Valid settings -/

/-- Valid settings name kinds only, and want workers. -/
theorem valid_cases (h : c.validate = .ok ()) :
    c.process.workers ≠ 0 ∧ ∀ t ∈ c.resources, Known t.name := by
  unfold validate at h
  split at h
  · cases h
  · next hworkers =>
    refine ⟨hworkers, fun t ht => ?_⟩
    split at h
    · cases h
    · next kinds hkinds =>
      obtain ⟨k, hk⟩ := exists_mapM_eq_ok_iff.mp ⟨kinds, hkinds⟩ t ht
      exact ⟨k, Kind.named_eq_ok_iff.mp hk⟩

/-- What the start of the controllers relies on: there are kinds to watch, and a controller whose
cache is complete gets as many workers as the settings want, which are not none. -/
structure Sustains (c : Config) (kinds : List Kind) : Prop where
  kinds_eq : c.enabledKinds = .ok kinds
  pos : 0 < c.process.workers.toNat
  crew : ∀ (d d' : Controller) (now : Nat) (effects : List Controller.Effect),
    d.tuning = c.tuning → d.step (.check now true) = some (d', effects) →
      d'.stage = .running ∧ d'.workers = List.replicate c.process.workers.toNat .idle

theorem exists_sustains (h : c.validate = .ok ()) : ∃ kinds, c.Sustains kinds := by
  obtain ⟨hworkers, hknown⟩ := valid_cases h
  have hpos : 0 < c.process.workers.toNat := by
    rw [Nat.pos_iff_ne_zero]
    intro hzero
    exact hworkers (UInt64.toNat_inj.mp hzero)
  cases hkinds : c.enabledKinds with
  | error fault =>
    rw [enabledKinds_eq, kindsOf_eq_error_iff] at hkinds
    obtain ⟨t, ⟨before, after, hsplit, -, hunknown, -⟩, -⟩ := hkinds
    exact absurd (hknown t (by simp [hsplit])) hunknown
  | ok kinds =>
    refine ⟨kinds, hkinds, hpos, fun d d' now effects htuning hstep => ?_⟩
    obtain ⟨deadline, -, ⟨-, -, rfl⟩ | ⟨hsynced, -⟩ | ⟨hsynced, -⟩⟩ :=
      Controller.stepCheck_cases hstep
    · refine ⟨rfl, ?_⟩
      show List.replicate (max d.tuning.workers 1) _ = _
      rw [htuning]
      show List.replicate (max c.process.workers.toNat 1) _ = _
      rw [Nat.max_eq_left hpos]
    · cases hsynced
    · cases hsynced

end Config

/-! ### The start of the program -/

namespace Startup

variable {s : Surroundings Id} {settings : CommandLine.Settings} {c : Config} {kinds : List Kind}

/-- A start goes on with a configuration that is valid under the settings of the command line. -/
theorem valid_of_configuration (h : s.configuration settings = .ok c) : c.validate = .ok () := by
  unfold Surroundings.configuration at h
  dsimp only [bind, pure] at h
  split at h
  · cases h
  · split at h
    · cases h
    · next hvalid =>
      split at h
      · cases h
      · cases h
        exact hvalid

/-- The controllers of the program are those of the kinds, with the tuning of the configuration. -/
theorem members_start (c : Config) (kinds : List Kind) (webhookUrl : Option String)
    (now : Time.Instant) (j : Log.Journal) :
    let members := (Service.start c kinds webhookUrl now j).fleet.members
    members.map (·.controller.kind) = kinds ∧ ∀ m ∈ members, m.controller.tuning = c.tuning := by
  obtain ⟨past, hpath⟩ := Runner.leads_launch c.tuning
    ((Sink.register (Service.carrier c) webhookUrl c j).1.map Service.receiver) now
    (kinds.map (·, {}))
  have hsound := Runner.sound_of_path hpath
  refine ⟨?_, fun m hm => (hsound.fits m hm).tuning_eq⟩
  have hkinds := hsound.kinds_eq
  rw [List.map_map] at hkinds
  exact hkinds.trans (List.map_id kinds)

/-- What comes out of a start. That the kinds cannot be told is not among it. -/
inductive Outcome (s : Surroundings Id) (settings : CommandLine.Settings) :
    Ending ⊕ Started → Prop
  /-- The configuration was refused. -/
  | refused (f : Failure) : s.configuration settings = .error f →
      Outcome s settings (.inl (f.ending .json []))
  /-- The cluster was not found. -/
  | lost (c : Config) (kinds : List Kind) (f : Failure) (lines : List Log.Line) :
      s.configuration settings = .ok c → c.Sustains kinds → s.cluster c = .error f →
      Outcome s settings (.inl (f.ending c.process.logFormat lines))
  /-- A controller for each kind was started, with the workers that the settings want. -/
  | started (c : Config) (kinds : List Kind) (p : Started) :
      s.configuration settings = .ok c → c.Sustains kinds →
      p.service.fleet.members.map (·.controller.kind) = kinds →
      (∀ m ∈ p.service.fleet.members, m.controller.tuning = c.tuning) →
      Outcome s settings (.inr p)

theorem outcome_watch (s : Surroundings Id) (settings : CommandLine.Settings) :
    Outcome s settings (watch s settings) := by
  cases hconfiguration : s.configuration settings with
  | error f =>
    unfold watch
    rw [hconfiguration]
    exact .refused f hconfiguration
  | ok c =>
    obtain ⟨kinds, hsustains⟩ := Config.exists_sustains (valid_of_configuration hconfiguration)
    unfold watch
    rw [hconfiguration]
    dsimp only [bind, pure]
    rw [hsustains.kinds_eq]
    dsimp only
    cases hcluster : s.cluster c with
    | error f => exact .lost c kinds f _ hconfiguration hsustains hcluster
    | ok address =>
      obtain ⟨hkinds, htuning⟩ := members_start c kinds (s.lookup Sink.Webhook.urlVariable) s.now _
      exact .started c kinds _ hconfiguration hsustains hkinds htuning

/-! ### Main result -/

open Config (Misnamed firstEntry)

/-- **Settings that were found valid do not fail the start.** If the settings under those of the
command line are valid, the kinds to watch can be told and the controllers get as many workers as
the settings want, which is at least one; and a start goes on with no other settings. The kinds to
watch are the kinds of the enabled entries, each of them once, in the order in which they are
enabled first, whatever other entries say about them. They can be told unless an enabled entry has
an unknown name, and then the first one is complained about. -/
theorem valid_settings_sustain (c : Config) (workers : Option UInt64) (port : Option UInt16) :
    ((c.withOverrides workers port).validate = .ok () →
      ∃ kinds, (c.withOverrides workers port).Sustains kinds) ∧
    (∀ kinds, c.enabledKinds = .ok kinds →
      kinds.Nodup ∧
      (∀ k, k ∈ kinds ↔ ∃ t ∈ c.resources, t.enabled = true ∧ t.name = k.name) ∧
      kinds.Pairwise fun k l => firstEntry c.resources k < firstEntry c.resources l) ∧
    (∀ fault, c.enabledKinds = .error fault ↔
      ∃ t, Misnamed c.resources t ∧ fault = Resource.Kind.complaint t.name) ∧
    ∀ (s : Surroundings Id) (settings : CommandLine.Settings),
      Outcome s settings (watch s settings) := by
  refine ⟨Config.exists_sustains, fun kinds hkinds => ?_, fun fault => ?_, outcome_watch⟩
  · have hlists := Config.lists_of_kindsOf hkinds
    exact ⟨hlists.nodup, hlists.mem_iff, hlists.ordered⟩
  · exact Config.kindsOf_eq_error_iff

/-- Pods and nodes are enabled and disabled several times; the file wants no workers and the command
line three. -/
theorem valid_settings_sustain_repeats :
    let c : Config :=
      { process := { workers := 0 }
        resources := [⟨"nodes", false⟩, ⟨"pods", true⟩, ⟨"nodes", true⟩, ⟨"pods", false⟩,
          ⟨"pods", true⟩] }
    (c.withOverrides (some 3) none).validate = .ok () ∧
    (∃ kinds, (c.withOverrides (some 3) none).Sustains kinds) ∧
    c.enabledKinds = .ok [.pods, .nodes] ∧
    [Kind.pods, .nodes].Pairwise fun k l =>
      firstEntry c.resources k < firstEntry c.resources l := by
  intro c
  have hvalid : (c.withOverrides (some 3) none).validate = .ok () := by rfl
  have hkinds : c.enabledKinds = .ok [.pods, .nodes] := by rfl
  obtain ⟨hsustains, hlists, -⟩ := valid_settings_sustain c (some 3) none
  exact ⟨hvalid, hsustains hvalid, hkinds, (hlists _ hkinds).2.2⟩

end Startup

end ClusterWatch
