import ClusterWatch.Proofs.Controller.Visits
/-!
# Updates are told when the version has changed

A worker that finds an object under the key of an update compares its version with the one that was
kept of the key. What is kept is read off the visits made so far:

- `Visit.Repeats`: a visit that found the version which the sinks were told of its key last.
- `Kept`: the invariant. What is kept of a key is the version that was told last.

Main result: `Execution.updates_tell_changes`.
-/

namespace ClusterWatch.Controller

open Sink (Notification)

/-! ### Outcomes of updates -/

variable {c c' : Controller} {item : WorkItem} {found : Except Fault (Option Resource)}

/-- An update is skipped when the version of the object that is found was kept, and told
otherwise. -/
theorem outcome_update (c : Controller) (haction : item.action = .update) (r : Resource) :
    c.outcome item (.ok (some r)) =
      if c.isObserved item.key r then .skipped else .send .updated (.ofResource r .update) := by
  simp only [outcome, haction]

/-- Only an update is skipped, and only when the version of the object that is found was kept. -/
theorem outcome_eq_skipped_iff :
    c.outcome item found = .skipped ↔
      item.action = .update ∧ ∃ r, found = .ok (some r) ∧ c.isObserved item.key r = true := by
  constructor
  · intro houtcome
    cases found with
    | error fault => cases houtcome
    | ok object =>
      cases object with
      | none => cases houtcome
      | some r =>
        cases haction : item.action with
        | create | delete => simp [outcome, haction] at houtcome
        | update =>
          rw [c.outcome_update haction] at houtcome
          refine ⟨rfl, r, rfl, ?_⟩
          by_contra hnew
          rw [if_neg hnew] at houtcome
          cases houtcome
  · rintro ⟨haction, r, rfl, hobserved⟩
    rw [c.outcome_update haction, if_pos hobserved]

/-- The sinks are told of an update only when an object is found whose version was not kept. -/
theorem of_outcome_eq_updated {event : Event}
    (houtcome : c.outcome item found = .send .updated event) :
    ∃ r, found = .ok (some r) ∧ ¬ c.isObserved item.key r = true := by
  cases found with
  | error fault => cases houtcome
  | ok object =>
    cases object with
    | none => cases houtcome
    | some r =>
      refine ⟨r, rfl, fun hobserved => ?_⟩
      cases haction : item.action with
      | create =>
        simp only [outcome, haction] at houtcome
        split at houtcome <;> cases houtcome
      | delete =>
        simp only [outcome, haction] at houtcome
        cases houtcome
      | update =>
        rw [c.outcome_update haction, if_pos hobserved] at houtcome
        cases houtcome

/-! ### The notification before -/

namespace Visit

theorem found_of_object? {v : Visit} {r : Resource} (h : v.object? = some r) :
    v.found = .ok (some r) := by
  unfold object? at h
  split at h
  · next object heq => rw [heq, h]
  · cases h

theorem outcome_of_notification? {v : Visit} {notification : Notification}
    (h : v.notification? = some notification) :
    ∃ event, v.outcome = .send notification event := by
  unfold notification? told? at h
  split at h
  · next notification' event heq =>
    obtain rfl := Option.some.inj h
    exact ⟨event, heq⟩
  all_goals cases h

/-- The last visit for a key of which the sinks were told. -/
def previous? (key : String) (older : List Visit) : Option Visit :=
  older.find? fun u => u.item.key = key ∧ u.told?.isSome

/-- A visit that found an object with the version of the object that the sinks were told of last
under the same key, unless they were told since that it is gone. -/
def Repeats (v : Visit) (older : List Visit) : Prop :=
  ∃ u version, previous? v.item.key older = some u ∧
    (u.notification? = some .created ∨ u.notification? = some .replayed ∨
      u.notification? = some .updated) ∧
    u.version? = some version ∧ v.version? = some version

theorem previous?_cons_of_told {v : Visit} (h : v.told?.isSome) (key : String)
    (older : List Visit) :
    previous? key (v :: older) = if v.item.key = key then some v else previous? key older := by
  unfold previous?
  rw [List.find?_cons]
  by_cases hkey : v.item.key = key
  · simp [hkey, h]
  · simp [hkey]

theorem previous?_cons_of_quiet {v : Visit} (h : v.told? = none) (key : String)
    (older : List Visit) : previous? key (v :: older) = previous? key older := by
  unfold previous?
  rw [List.find?_cons]
  simp [h]

end Visit

/-! ### What is kept of a key -/

/-- What is kept of a key agrees with what the sinks were told of it last: nothing if they were told
of no object or that it is gone, and else the version of the object if it has one. -/
def Kept (observed : Option String) : Option Visit → Prop
  | none => observed = none
  | some u =>
    if u.notification? = some .deleted then observed = none
    else ∀ version, u.version? = some version → observed = some version

/-- Processing an item of which the sinks are told. -/
theorem kept_of_send {notification : Notification} {event : Event} {i : Nat} {seen : List Visit}
    (h : ∀ key : String, Kept c.observed[key]? (Visit.previous? key seen))
    (houtcome : c.outcome item found = .send notification event) (key : String) :
    Kept (c.keep item.key found (.send notification event)).observed[key]?
      (Visit.previous? key (⟨i, item, found, .send notification event⟩ :: seen)) := by
  cases found with
  | error fault => cases houtcome
  -- what is kept is the version that was told, and nothing after a deletion
  | ok object =>
    have htelling := c.telling item object
    rw [houtcome] at htelling
    rw [Visit.previous?_cons_of_told rfl]
    by_cases hkey : item.key = key
    · -- the visit itself is what was told last
      subst hkey
      rw [if_pos rfl]
      cases htelling with
      | deleted found c' hgone hobserved =>
        rw [hobserved]
        simp [Kept, Visit.notification?, Visit.told?]
      | live r notification c' haction hlive hobserved =>
        rw [hobserved]
        have hnotification : (⟨i, item, .ok (some r), .send notification
            (.ofResource r item.action)⟩ : Visit).notification? ≠ some .deleted := by
          simpa [Visit.notification?, Visit.told?] using hlive
        simp only [Kept]
        rw [if_neg hnotification]
        intro version hversion
        rw [observed_observe hversion]
        simp
    · rw [if_neg hkey, htelling.observed_of_ne hkey]
      exact h key

namespace Execution

variable {x x' : Execution} {past : List (Execution × Move)}

/-- On every path, what is kept of each key agrees with what the sinks were told of it last. -/
theorem kept_of_path (h : Path advance? { controller := c } past x)
    (hstart : ∀ key : String, c.observed[key]? = none) (key : String) :
    Kept x.controller.observed[key]? (Visit.previous? key (visits past)) := by
  induction h generalizing key with
  | start => exact hstart key
  | @move past x x' move hpath hmove ih =>
    rw [visits_cons]
    rcases advance?_cases hmove with ⟨call, rfl, rfl⟩ | ⟨step, c', effects, rfl, -, hdoes, rfl⟩ |
      ⟨position, retry, rfl, -, rfl⟩
    · rcases x.controller.notify_eq call with hsame | ⟨item, -, hadd⟩
      · rw [hsame]
        exact ih key
      · rw [hadd]
        exact ih key
    -- only a visit writes to what is kept
    · cases hdoes with
      | fail i found item fault hw houtcome =>
        simp only [visit?, hw, houtcome, Option.toList_some, List.singleton_append]
        rw [Visit.previous?_cons_of_quiet rfl]
        exact ih key
      | skip i found item hw houtcome =>
        simp only [visit?, hw, houtcome, Option.toList_some, List.singleton_append]
        rw [Visit.previous?_cons_of_quiet rfl]
        exact ih key
      | send i found item notification event hw houtcome =>
        simp only [visit?, hw, houtcome, Option.toList_some, List.singleton_append]
        exact kept_of_send ih houtcome key
      | _ => exact ih key
    · exact ih key

/-! ### Changes are told, and nothing else -/

/-- What was kept of the key of a visit decides whether an update is told. -/
theorem kept_of_visits_eq (h : Path advance? { controller := c } past x)
    (hstart : ∀ key : String, c.observed[key]? = none) {newer older : List Visit} {v : Visit}
    (hvisits : visits past = newer ++ v :: older) :
    ∃ y : Controller, v.outcome = y.outcome v.item v.found ∧
      Kept y.observed[v.item.key]? (Visit.previous? v.item.key older) := by
  obtain ⟨later, ⟨y, move⟩, earlier, rfl, hv, rfl⟩ := exists_of_visits_eq hvisits
  obtain ⟨i, found, item, -, -, rfl⟩ := visit?_eq_some_iff.mp hv
  exact ⟨y.controller, rfl, kept_of_path h.split.1 hstart item.key⟩

/-- A notification about an object that is there comes from a visit that found one. -/
theorem object?_of_notification {u : Visit} {notification : Notification}
    (hu : u ∈ visits past) (htold : u.notification? = some notification)
    (hlive : notification ≠ .deleted) : ∃ r, u.object? = some r := by
  obtain ⟨y, houtcome⟩ := outcome_of_mem_visits hu
  obtain ⟨i, item, found, outcome⟩ := u
  obtain rfl : outcome = y.outcome item found := houtcome
  cases found with
  | error fault => cases htold
  | ok object =>
    cases object with
    | some r => exact ⟨r, rfl⟩
    | none => exact absurd (Option.some.inj htold).symm hlive

/-- An object is found whose version is kept of its key when a visit repeats what was told. -/
theorem isObserved_of_repeats {y : Controller} {v : Visit} {older : List Visit}
    (hkept : Kept y.observed[v.item.key]? (Visit.previous? v.item.key older))
    (hrepeats : v.Repeats older) :
    ∃ r, v.found = .ok (some r) ∧ y.isObserved v.item.key r = true := by
  obtain ⟨u, version, hprevious, hlive, hu, hv⟩ := hrepeats
  obtain ⟨r, hobject, hr⟩ := Option.bind_eq_some_iff.mp hv
  have hnotification : u.notification? ≠ some .deleted := by
    rcases hlive with hlive | hlive | hlive <;> simp [hlive]
  rw [hprevious, Kept, if_neg hnotification] at hkept
  refine ⟨r, Visit.found_of_object? hobject, ?_⟩
  simp [isObserved, hkept version hu, hr]

/-- A visit repeats what was told when the version that it found is kept of its key. -/
theorem repeats_of_isObserved {y : Controller} {v : Visit} {older : List Visit} {r : Resource}
    (hkept : Kept y.observed[v.item.key]? (Visit.previous? v.item.key older))
    (htold : ∀ u notification, Visit.previous? v.item.key older = some u →
      u.notification? = some notification → notification ≠ .deleted → u.version?.isSome)
    (hfound : v.found = .ok (some r)) (hobserved : y.isObserved v.item.key r = true) :
    v.Repeats older := by
  obtain ⟨hsome, hsame⟩ : r.version?.isSome = true ∧ y.observed[v.item.key]? = r.version? := by
    simpa [isObserved] using hobserved
  obtain ⟨version, hversion⟩ := Option.isSome_iff_exists.mp hsome
  rw [hsame, hversion] at hkept
  have hv : v.version? = some version := by
    simp [Visit.version?, Visit.object?, hfound, hversion]
  cases hprevious : Visit.previous? v.item.key older with
  | none =>
    rw [hprevious] at hkept
    cases hkept
  | some u =>
    obtain ⟨-, htelling⟩ : u.item.key = v.item.key ∧ u.told?.isSome = true := by
      simpa using List.find?_some hprevious
    obtain ⟨notification, hnotification⟩ : ∃ notification, u.notification? = some notification := by
      obtain ⟨told, htold⟩ := Option.isSome_iff_exists.mp htelling
      exact ⟨told.1, by rw [Visit.notification?, htold]; rfl⟩
    rw [hprevious, Kept, hnotification] at hkept
    by_cases hdeleted : notification = .deleted
    · rw [if_pos (congrArg some hdeleted)] at hkept
      cases hkept
    · rw [if_neg fun h => hdeleted (Option.some.inj h)] at hkept
      -- with a version of its own, what was told last is what is kept
      obtain ⟨version', hu⟩ :=
        Option.isSome_iff_exists.mp (htold u notification hprevious hnotification hdeleted)
      obtain rfl := Option.some.inj (hkept version' hu)
      refine ⟨u, version, hprevious, ?_, hu, hv⟩
      cases notification with
      | deleted => exact absurd rfl hdeleted
      | created => exact .inl hnotification
      | replayed => exact .inr (.inl hnotification)
      | updated => exact .inr (.inr hnotification)

/-- **Changes are told, and nothing is told twice.** Whatever the workers do, and whatever the
cache answers them: the enabled sinks get the notifications of the visits, in their order. None
of those is of an update to the version that the sinks were told of the key last, unless that was
before they were told that the object is gone. If all objects that were found have a version, only
such an update is skipped, and every other one of an object that is there is told. -/
theorem updates_tell_changes {kind : Resource.Kind} {tuning : Tuning} {slots : List Sink.Slot}
    {start : Time.Instant}
    (h : Path advance? { controller := .new kind tuning slots start } past x) :
    (∀ (sink : Nat) (slot : Sink.Slot), slots[sink]? = some slot →
      received sink past =
        if slot.enabled then (visits past).filterMap Visit.told? else []) ∧
    ∀ (newer : List Visit) (v : Visit) (older : List Visit), visits past = newer ++ v :: older →
      (v.notification? = some .updated → ¬ v.Repeats older) ∧
      ((∀ u ∈ v :: older, ∀ r, u.object? = some r → r.version?.isSome) →
        (v.outcome = .skipped ↔ v.item.action = .update ∧ v.Repeats older) ∧
        (v.item.action = .update → ∀ r, v.object? = some r → ¬ v.Repeats older →
          v.outcome = .send .updated (.ofResource r .update))) := by
  constructor
  · intro sink slot hslot
    rw [received_eq h]
    congr 1
    simp [mem_enabledSinks, hslot, Controller.new]
  · intro newer v older hvisits
    obtain ⟨y, houtcome, hkept⟩ := kept_of_visits_eq h (fun key => by simp [Controller.new]) hvisits
    constructor
    · intro hupdated hrepeats
      obtain ⟨r, hfound, hobserved⟩ := isObserved_of_repeats hkept hrepeats
      obtain ⟨event, hsend⟩ := Visit.outcome_of_notification? hupdated
      obtain ⟨r', hfound', hnew⟩ := of_outcome_eq_updated (houtcome.symm.trans hsend)
      obtain rfl : r' = r := by simpa [hfound] using hfound'.symm
      exact hnew hobserved
    -- an object without a version cannot be told apart from the one before, so here all have one
    · intro hversions
      -- the visits that the record stems from carried objects
      have htold : ∀ u notification, Visit.previous? v.item.key older = some u →
          u.notification? = some notification → notification ≠ .deleted →
          u.version?.isSome := by
        intro u notification hprevious hnotification hlive
        have hmem := List.mem_of_find?_eq_some hprevious
        have hvisit : u ∈ visits past := by
          rw [hvisits]
          exact List.mem_append_right _ (List.mem_cons_of_mem _ hmem)
        obtain ⟨r, hr⟩ := object?_of_notification hvisit hnotification hlive
        rw [Visit.version?, hr]
        exact hversions u (List.mem_cons_of_mem _ hmem) r hr
      have hskip : v.outcome = .skipped ↔ v.item.action = .update ∧ v.Repeats older := by
        rw [houtcome, outcome_eq_skipped_iff]
        constructor
        · rintro ⟨haction, r, hfound, hobserved⟩
          exact ⟨haction, repeats_of_isObserved hkept htold hfound hobserved⟩
        · rintro ⟨haction, hrepeats⟩
          exact ⟨haction, isObserved_of_repeats hkept hrepeats⟩
      refine ⟨hskip, fun haction r hobject hnew => ?_⟩
      have hfound := Visit.found_of_object? hobject
      have hnot : ¬ v.outcome = .skipped := fun hskipped => hnew (hskip.mp hskipped).2
      rw [houtcome, hfound, y.outcome_update haction] at hnot ⊢
      split
      · next hobserved => exact absurd (if_pos hobserved) hnot
      · rfl

/-- A lookup fails before an object is told as updated. The same version once more is skipped, but
it is told again after the sinks were told that the object is gone. -/
theorem updates_tell_changes_again :
    let slots : List Sink.Slot := [⟨.elasticsearch, true⟩, ⟨.webhook, false⟩]
    ∃ past x,
      Path advance? { controller := .new .secrets { workers := 2 } slots (.ofSecond 0) } past x ∧
      (visits past).map (fun v => (v.worker, v.item.action, v.notification?)) =
        [(0, .update, some .updated), (0, .delete, some .deleted), (1, .update, none),
          (0, .update, some .updated), (1, .update, none), (0, .create, some .replayed)] ∧
      (received 0 past).map (·.1) = [.updated, .deleted, .updated, .replayed] ∧
      received 1 past = [] ∧
      (∀ v ∈ visits past, ∀ r, v.object? = some r → r.version?.isSome) ∧
      ∀ newer v older, visits past = newer ++ v :: older →
        (v.notification? = some .updated → ¬ v.Repeats older) ∧
        (v.outcome = .skipped ↔ v.item.action = .update ∧ v.Repeats older) := by
  intro slots
  let found (version : String) : Except Fault (Option Resource) :=
    .ok (some (.live { version } .secret))
  let moves : List Move := [.act (.start 0), .act (.check 0 true),
    .notify (.add "ns/x" (some "1")), .act (.take 0), .act (.begin 0 (found "1")),
    .act (.delivered 0 0), .act (.settle 0), .act (.release 0),
    .notify (.update "ns/x" (some "1") (some "2")), .act (.take 1),
    .act (.begin 1 (.error (.cache "ns/x" "down"))), .act (.settle 1), .act (.requeue 1),
    .act (.release 1), .mature 0, .act (.take 0), .act (.begin 0 (found "2")),
    .notify (.update "ns/x" (some "2") (some "3")), .act (.delivered 0 0), .act (.settle 0),
    .act (.release 0), .act (.take 1), .act (.begin 1 (found "2")), .act (.settle 1),
    .act (.release 1), .notify (.delete "ns/x" (some "2")), .act (.take 0),
    .act (.begin 0 (found "2")), .act (.delivered 0 0), .act (.settle 0), .act (.release 0),
    .notify (.update "ns/x" none (some "2")), .act (.take 0), .act (.begin 0 (found "2"))]
  have hmoves : (moves.foldlM (follow? advance?)
      ([], { controller := .new .secrets { workers := 2 } slots (.ofSecond 0) })).map (fun way =>
        ((visits way.1).map fun v => (v.worker, v.item.action, v.notification?),
          (received 0 way.1).map (·.1),
          (visits way.1).all fun v => v.object?.all (·.version?.isSome))) =
      some ([(0, .update, some .updated), (0, .delete, some .deleted), (1, .update, none),
          (0, .update, some .updated), (1, .update, none), (0, .create, some .replayed)],
        [.updated, .deleted, .updated, .replayed], true) := by decide
  obtain ⟨⟨past, x⟩, hway, hshown⟩ := Option.map_eq_some_iff.mp hmoves
  simp only [Prod.mk.injEq] at hshown
  obtain ⟨hvisits, hreceived, hall⟩ := hshown
  have hpath := path_of_follow? .start hway
  obtain ⟨hsinks, hlaw⟩ := updates_tell_changes hpath
  have hversions : ∀ v ∈ visits past, ∀ r, v.object? = some r → r.version?.isSome := by
    intro v hv r hr
    have hv := List.all_eq_true.mp hall v hv
    rw [hr] at hv
    exact hv
  refine ⟨past, x, hpath, hvisits, hreceived, hsinks 1 _ rfl, hversions,
    fun newer v older heq => ?_⟩
  obtain ⟨hnew, hskip⟩ := hlaw newer v older heq
  refine ⟨hnew, (hskip fun u hu => hversions u ?_).1⟩
  rw [heq]
  exact List.mem_append_right _ hu

end Execution

end ClusterWatch.Controller
