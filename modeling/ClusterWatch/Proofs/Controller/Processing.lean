import ClusterWatch.Controller.Process
/-!
# What processing an item comes to

- `Event.version_ofResource`: the record of an object carries its version.
- `Controller.Telling`: what the sinks are told of an item whose lookup succeeded, and what the
  controller keeps of it. `Controller.telling` says that there is nothing else.
-/

namespace ClusterWatch

open Std (TreeMap)

namespace Event

@[simp] theorem version_withShape (e : Event) (action : Action) (shape : Resource.Shape) :
    (e.withShape action shape).version = e.version := by
  unfold withShape
  split
  · rfl
  · rfl
  · split <;> rfl

@[simp] theorem version_withMessage (e : Event) : e.withMessage.version = e.version := by
  unfold withMessage
  split <;> rfl

/-- The record of an object carries its version. -/
theorem version_ofResource {r : Resource} {version : String} (h : r.version? = some version)
    (action : Action) : (ofResource r action).version = version := by
  cases r with
  | live metadata shape =>
    have hversion : metadata.version = some version := h
    simp [ofResource, withHost, ofMetadata, hversion]
  | deleted kind key => cases h
  | unrecognized kind metadata =>
    have hversion : metadata.version = some version := h
    simp [ofResource, withHost, ofMetadata, hversion]

end Event

namespace Controller

variable {c : Controller}

/-- What the sinks are told of an item when the lookup succeeded, and the versions that the
controller has kept afterwards. -/
inductive Telling (c : Controller) (item : WorkItem) : Option Resource → Outcome → Controller → Prop
  /-- The object is gone, or the item says so. -/
  | deleted (found : Option Resource) (c' : Controller) :
      found = none ∨ item.action = .delete → c'.observed = c.observed.erase item.key →
        Telling c item found (.send .deleted (c.goneEvent item.key)) c'
  /-- The version was told before. -/
  | skipped (r : Resource) (c' : Controller) :
      item.action = .update → r.version?.isSome → c.observed[item.key]? = r.version? →
        c'.observed = c.observed → Telling c item (some r) .skipped c'
  /-- The object is there. -/
  | live (r : Resource) (notification : Sink.Notification) (c' : Controller) :
      item.action ≠ .delete → notification ≠ .deleted →
        c'.observed = (c.observe item.key r).observed →
        Telling c item (some r) (.send notification (.ofResource r item.action)) c'

theorem observed_keep_live (c : Controller) (key : String) (r : Resource) {event : Event}
    {notification : Sink.Notification} (h : notification ≠ .deleted) :
    (c.keep key (.ok (some r)) (.send notification event)).observed =
      (c.observe key r).observed := by
  cases notification with
  | deleted => exact absurd rfl h
  | created => rfl
  | updated => rfl
  | replayed => rfl

/-- Processing an item whose lookup succeeded. -/
theorem telling (c : Controller) (item : WorkItem) (found : Option Resource) :
    c.Telling item found (c.outcome item (.ok found))
      (c.keep item.key (.ok found) (c.outcome item (.ok found))) := by
  cases found with
  | none => exact .deleted none _ (.inl rfl) rfl
  | some r =>
    cases haction : item.action with
    | create =>
      have houtcome : c.outcome item (.ok (some r)) =
          .send (if c.isNew r then .created else .replayed) (.ofResource r item.action) := by
        simp only [outcome, haction]
      rw [houtcome]
      have hlive : (if c.isNew r then Sink.Notification.created else .replayed) ≠ .deleted := by
        split <;> simp
      exact .live r _ _ (by simp [haction]) hlive (c.observed_keep_live item.key r hlive)
    -- an update is told unless it is the version that was told last
    | update =>
      by_cases hobserved : c.isObserved item.key r = true
      · have houtcome : c.outcome item (.ok (some r)) = .skipped := by
          simp only [outcome, haction, if_pos hobserved]
        rw [houtcome]
        obtain ⟨hsome, hsame⟩ : r.version?.isSome = true ∧ c.observed[item.key]? = r.version? := by
          simpa [isObserved] using hobserved
        exact .skipped r _ haction hsome hsame rfl
      · have houtcome : c.outcome item (.ok (some r)) =
            .send .updated (.ofResource r item.action) := by
          simp only [outcome, haction, if_neg hobserved]
        rw [houtcome]
        exact .live r _ _ (by simp [haction]) (by simp)
          (c.observed_keep_live item.key r (by simp))
    | delete =>
      have houtcome : c.outcome item (.ok (some r)) =
          .send .deleted (c.goneEvent item.key) := by
        simp only [outcome, haction]
      rw [houtcome]
      exact .deleted (some r) _ (.inr haction) rfl

/-- What is kept of the other keys stays. -/
theorem Telling.observed_of_ne {c' : Controller} {item : WorkItem} {found : Option Resource}
    {outcome : Outcome} (htelling : c.Telling item found outcome c') {key : String}
    (hkey : item.key ≠ key) : c'.observed[key]? = c.observed[key]? := by
  cases htelling with
  | skipped r c' _ _ _ hobserved => rw [hobserved]
  | deleted found c' _ hobserved =>
    rw [hobserved]
    simp [TreeMap.getElem?_erase, hkey]
  | live r notification c' _ _ hobserved =>
    rw [hobserved]
    unfold Controller.observe
    split
    · simp [TreeMap.getElem?_insert, hkey]
    · rfl

/-- The versions that were told, after an object with a version. -/
theorem observed_observe {r : Resource} {version : String} (h : r.version? = some version)
    (key : String) : (c.observe key r).observed = c.observed.insert key version := by
  simp only [observe, h]

end Controller

end ClusterWatch
