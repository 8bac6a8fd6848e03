import ClusterWatch.Controller.Step
import ClusterWatch.Proofs.Queue.Operations
/-!
# What the steps of a controller do

Each step is described once: when it can be taken, what it leaves and what it asks for.

- `Worker.item?`: the item that a worker has not finished with.
- `frame_keep`: what is kept of an outcome is the version that was delivered last, and counts.
- `Does`: everything that a step can come to; the lemmas before it, one for each kind of step, say
  when.

Main result: `does_of_step`.
-/

namespace ClusterWatch.Controller

open Sink (Notification)

variable {c c' : Controller} {i : Nat} {effects : List Effect}

/-- The item that a worker has not finished with. -/
def Worker.item? : Worker → Option WorkItem
  | holding item | delivering item _ | settling item _ | requeueing item _ => some item
  | idle | releasing _ | exited => none

@[simp] theorem item?_awaiting (item : WorkItem) (pending : List Nat) :
    (awaiting item pending).item? = some item := by
  cases pending <;> rfl

/-! ### Frames -/

/-- Two controllers that differ in what was delivered last and in counts only. -/
structure Frame (c c' : Controller) : Prop where
  kind : c'.kind = c.kind
  tuning : c'.tuning = c.tuning
  slots : c'.slots = c.slots
  start : c'.start = c.start
  queue : c'.queue = c.queue
  stage : c'.stage = c.stage
  workers : c'.workers = c.workers

theorem Frame.record (h : c.Frame c') (counter : Metrics.Counter) : c.Frame (c'.record counter) :=
  ⟨h.kind, h.tuning, h.slots, h.start, h.queue, h.stage, h.workers⟩

theorem frame_observe (c : Controller) (key : String) (r : Resource) :
    c.Frame (c.observe key r) := by
  unfold observe
  split
  · exact ⟨rfl, rfl, rfl, rfl, rfl, rfl, rfl⟩
  · exact ⟨rfl, rfl, rfl, rfl, rfl, rfl, rfl⟩

/-- What is kept of an outcome is the version that was delivered last, and counts. -/
theorem frame_keep (c : Controller) (key : String) (found : Except Fault (Option Resource))
    (outcome : Outcome) : c.Frame (c.keep key found outcome) := by
  have hsame : c.Frame c := ⟨rfl, rfl, rfl, rfl, rfl, rfl, rfl⟩
  unfold keep
  split
  · exact hsame
  · exact hsame.record _
  · exact ⟨rfl, rfl, rfl, rfl, rfl, rfl, rfl⟩
  · next notification event _ =>
    have hcounted : ∀ c', c.Frame c' → c.Frame
        ((if notification = .replayed then c'.record .replay else c').record .dispatch) := by
      intro c' hkept
      split
      · exact (hkept.record _).record _
      · exact hkept.record _
    cases found with
    | error fault => exact hcounted c hsame
    | ok object =>
      cases object with
      | none => exact hcounted c hsame
      | some r => exact hcounted _ (c.frame_observe key r)

/-! ### Steps of a worker -/

/-- A worker that looks for an item is idle. It exits when the queue is closed; it clears away
waiting keys that have no item; or an item is handed out to it. -/
theorem stepTake_cases (h : c.stepTake i = some (c', effects)) :
    c.workers[i]? = some .idle ∧ effects = [] ∧
    ((c.queue.closed = true ∧ c' = c.setWorker i .exited) ∨
    (c.queue.take = ({ c.queue with waiting := [] }, .empty) ∧
      c' = { c with queue := { c.queue with waiting := [] } }) ∨
    ∃ queue item, c.queue.take = (queue, .item item) ∧
      c' = { c with queue }.setWorker i (.holding item)) := by
  unfold stepTake at h
  split at h
  · next hidle =>
    refine ⟨hidle, ?_⟩
    split at h
    · next queue item htake =>
      obtain ⟨rfl, rfl⟩ := Prod.mk.inj (Option.some.inj h)
      exact ⟨rfl, .inr (.inr ⟨queue, item, htake, rfl⟩)⟩
    -- a queue answers that it is closed only when it is, and then it is not changed
    · next queue htake =>
      obtain ⟨rfl, rfl⟩ := Prod.mk.inj (Option.some.inj h)
      rcases WorkQueue.take_cases c.queue with ⟨hclosed, -⟩ | ⟨-, -, hempty⟩ |
        ⟨-, _, _, _, _, -, -, -, hfound⟩
      · exact ⟨rfl, .inl ⟨hclosed, rfl⟩⟩
      · cases htake.symm.trans hempty
      · cases htake.symm.trans hfound
    · next queue htake =>
      split at h
      · cases h
      · obtain ⟨rfl, rfl⟩ := Prod.mk.inj (Option.some.inj h)
        rcases WorkQueue.take_cases c.queue with ⟨-, hsame⟩ | ⟨-, -, hempty⟩ |
          ⟨-, _, _, _, _, -, -, -, hfound⟩
        · cases htake.symm.trans hsame
        · obtain rfl := (Prod.mk.inj (htake.symm.trans hempty)).1
          exact ⟨rfl, .inr (.inl ⟨htake, rfl⟩)⟩
        · cases htake.symm.trans hfound
  · cases h

/-- A worker that looks its item up holds it and has not before. -/
theorem stepBegin_cases {found : Except Fault (Option Resource)}
    (h : c.stepBegin i found = some (c', effects)) :
    ∃ item, c.workers[i]? = some (.holding item) ∧
    ((∃ fault, c.outcome item found = .failed fault ∧ effects = [] ∧
      c' = c.setWorker i (.settling item (some fault))) ∨
    (c.outcome item found = .skipped ∧ effects = [] ∧
      c' = (c.record .updateSkipped).setWorker i (.settling item none)) ∨
    ∃ notification event, c.outcome item found = .send notification event ∧
      effects = c.enabledSinks.map (fun sink => .deliver i sink notification event) ∧
      c' = (c.keep item.key found (.send notification event)).setWorker i
        (awaiting item c.enabledSinks)) := by
  unfold stepBegin process at h
  split at h
  · next item hholding =>
    refine ⟨item, hholding, ?_⟩
    have hframe := c.frame_keep item.key found (c.outcome item found)
    cases houtcome : c.outcome item found with
    | failed fault =>
      simp only [houtcome] at h
      obtain ⟨rfl, rfl⟩ := Prod.mk.inj (Option.some.inj h)
      exact .inl ⟨fault, rfl, rfl, rfl⟩
    | skipped =>
      simp only [houtcome] at h
      obtain ⟨rfl, rfl⟩ := Prod.mk.inj (Option.some.inj h)
      exact .inr (.inl ⟨rfl, rfl, rfl⟩)
    | send notification event =>
      simp only [houtcome] at h hframe
      obtain ⟨rfl, rfl⟩ := Prod.mk.inj (Option.some.inj h)
      -- what is kept of an outcome does not enable a sink
      have hsinks : (c.keep item.key found (.send notification event)).enabledSinks =
          c.enabledSinks := by rw [enabledSinks, hframe.slots, enabledSinks]
      rw [hsinks]
      exact .inr (.inr ⟨notification, event, rfl, rfl, rfl⟩)
  · cases h

/-- A sink finishes with the record of an item that it was told. -/
theorem stepDelivered_cases {sink : Nat} (h : c.stepDelivered i sink = some (c', effects)) :
    ∃ item pending, c.workers[i]? = some (.delivering item pending) ∧ sink ∈ pending ∧
      effects = [] ∧ c' = c.setWorker i (awaiting item (pending.erase sink)) := by
  unfold stepDelivered at h
  split at h
  · next item pending hdelivering =>
    split at h
    · next hmem =>
      obtain ⟨rfl, rfl⟩ := Prod.mk.inj (Option.some.inj h)
      exact ⟨item, pending, hdelivering, hmem, rfl, rfl⟩
    · cases h
  · cases h

/-- A worker looks at the result of its item: a success clears the failures of the key, a failure is
to be counted. -/
theorem stepSettle_cases (h : c.stepSettle i = some (c', effects)) :
    ∃ item, (c.workers[i]? = some (.settling item none) ∧ effects = [] ∧
      c' = { c with queue := c.queue.forget item.key }.setWorker i (.releasing item.key)) ∨
    ∃ fault, c.workers[i]? = some (.settling item (some fault)) ∧ effects = [] ∧
      c' = c.setWorker i (.requeueing item (c.queue.failureCount item.key)) := by
  unfold stepSettle at h
  split at h
  · next item hsettling =>
    obtain ⟨rfl, rfl⟩ := Prod.mk.inj (Option.some.inj h)
    exact ⟨item, .inl ⟨hsettling, rfl, rfl⟩⟩
  · next item fault hsettling =>
    obtain ⟨rfl, rfl⟩ := Prod.mk.inj (Option.some.inj h)
    exact ⟨item, .inr ⟨fault, hsettling, rfl, rfl⟩⟩
  · cases h

/-- A worker queues a failed item again, or drops it after too many failures. -/
theorem stepRequeue_cases (h : c.stepRequeue i = some (c', effects)) :
    ∃ item failures, c.workers[i]? = some (.requeueing item failures) ∧
    ((failures < c.tuning.maxRetries.toNat ∧
      effects = [.matureAfter (c.queue.addRateLimited c.tuning.backoff item).2.2
        (c.queue.addRateLimited c.tuning.backoff item).2.1] ∧
      c' = ({ c with queue := (c.queue.addRateLimited c.tuning.backoff item).1 }.record
        .requeue).setWorker i (.releasing item.key)) ∨
    (c.tuning.maxRetries.toNat ≤ failures ∧ effects = [] ∧
      c' = ({ c with queue := c.queue.forget item.key }.record .drop).setWorker i
        (.releasing item.key))) := by
  unfold stepRequeue at h
  split at h
  · next item failures hrequeueing =>
    refine ⟨item, failures, hrequeueing, ?_⟩
    split at h
    · next hless =>
      obtain ⟨rfl, rfl⟩ := Prod.mk.inj (Option.some.inj h)
      exact .inl ⟨hless, rfl, rfl⟩
    · next hmany =>
      obtain ⟨rfl, rfl⟩ := Prod.mk.inj (Option.some.inj h)
      exact .inr ⟨Nat.not_lt.mp hmany, rfl, rfl⟩
  · cases h

/-- A worker releases its key and is idle again. -/
theorem stepRelease_cases (h : c.stepRelease i = some (c', effects)) :
    ∃ key, c.workers[i]? = some (.releasing key) ∧ effects = [] ∧
      c' = { c with queue := (c.queue.done key).1 }.setWorker i .idle := by
  unfold stepRelease at h
  split at h
  · next key hreleasing =>
    obtain ⟨rfl, rfl⟩ := Prod.mk.inj (Option.some.inj h)
    exact ⟨key, hreleasing, rfl, rfl⟩
  · cases h

/-! ### Steps of the run -/

/-- A run begins once, and only if the clock has a time for its deadline. -/
theorem stepStart_cases {now : Nat} (h : c.stepStart now = some (c', effects)) :
    c.stage = .initializing ∧ now + c.tuning.syncTimeout.total < clockEnd ∧ effects = [] ∧
      c' = { c with stage := .syncing (now + c.tuning.syncTimeout.total) false } := by
  unfold stepStart at h
  split at h
  · next hstage =>
    obtain ⟨hfits, heq⟩ := Option.ite_none_right_eq_some.mp h
    obtain ⟨rfl, rfl⟩ := Prod.mk.inj (Option.some.inj heq)
    exact ⟨hstage, hfits, rfl, rfl⟩
  · cases h

theorem stepStart_of_fits {now : Nat} (hstage : c.stage = .initializing)
    (hfits : now + c.tuning.syncTimeout.total < clockEnd) :
    c.stepStart now =
      some ({ c with stage := .syncing (now + c.tuning.syncTimeout.total) false }, []) := by
  unfold stepStart
  rw [hstage]
  exact if_pos hfits

theorem stepStart_of_beyond {now : Nat} (hbeyond : clockEnd ≤ now + c.tuning.syncTimeout.total) :
    c.stepStart now = none := by
  unfold stepStart
  split
  · exact if_neg (Nat.not_lt.mpr hbeyond)
  · rfl

/-- The cache is looked at while the run waits for it: the workers begin when it is complete; when
the time is over the run ends; else there will be another look. -/
theorem stepCheck_cases {now : Nat} {synced : Bool}
    (h : c.stepCheck now synced = some (c', effects)) :
    ∃ deadline, c.stage = .syncing deadline false ∧
    ((synced = true ∧ effects = [] ∧ c' = { c with
      stage := .running
      workers := List.replicate (max c.tuning.workers 1) .idle }) ∨
    (synced = false ∧ deadline ≤ now ∧ effects = [] ∧
      c' = c.stopWith (some (.cacheSync c.kind.name c.tuning.syncTimeout))) ∨
    (synced = false ∧ now < deadline ∧
      effects = [.checkAt (now + c.tuning.pollInterval.total)] ∧
      c' = { c with stage := .syncing deadline true })) := by
  unfold stepCheck at h
  split at h
  · next deadline hstage =>
    refine ⟨deadline, hstage, ?_⟩
    cases synced with
    | true =>
      rw [if_pos rfl] at h
      obtain ⟨rfl, rfl⟩ := Prod.mk.inj (Option.some.inj h)
      exact .inl ⟨rfl, rfl, rfl⟩
    | false =>
      rw [if_neg Bool.false_ne_true] at h
      split at h
      · next hover =>
        obtain ⟨rfl, rfl⟩ := Prod.mk.inj (Option.some.inj h)
        exact .inr (.inl ⟨rfl, hover, rfl, rfl⟩)
      · next hearly =>
        obtain ⟨rfl, rfl⟩ := Prod.mk.inj (Option.some.inj h)
        exact .inr (.inr ⟨rfl, Nat.not_le.mp hearly, rfl, rfl⟩)
  · cases h

/-- The next look at the cache is due. -/
theorem stepTick_cases (h : c.stepTick = some (c', effects)) :
    ∃ deadline, c.stage = .syncing deadline true ∧ effects = [] ∧
      c' = { c with stage := .syncing deadline false } := by
  unfold stepTick at h
  split at h
  · next deadline hstage =>
    obtain ⟨rfl, rfl⟩ := Prod.mk.inj (Option.some.inj h)
    exact ⟨deadline, hstage, rfl, rfl⟩
  · cases h

/-- A run that was asked to stop ends at once while it waits for the cache, and else when its
workers have finished. Either way the queue is shut down. -/
theorem stepHalt_cases (h : c.stepHalt = some (c', effects)) :
    c.stopRequested = true ∧ effects = [] ∧
    ((∃ deadline, c.stage = .syncing deadline true ∧ c' = c.stopWith none) ∨
    (c.stage = .running ∧ c' = { c with queue := c.queue.shutDown, stage := .draining })) := by
  unfold stepHalt at h
  split at h
  · next hstop =>
    refine ⟨hstop, ?_⟩
    split at h
    · next deadline hstage =>
      obtain ⟨rfl, rfl⟩ := Prod.mk.inj (Option.some.inj h)
      exact ⟨rfl, .inl ⟨deadline, hstage, rfl⟩⟩
    · next hstage =>
      obtain ⟨rfl, rfl⟩ := Prod.mk.inj (Option.some.inj h)
      exact ⟨rfl, .inr ⟨hstage, rfl⟩⟩
    · cases h
  · cases h

/-- A run that drains is over when all workers have exited. -/
theorem stepFinish_cases (h : c.stepFinish = some (c', effects)) :
    c.stage = .draining ∧ (∀ w ∈ c.workers, w = .exited) ∧ effects = [] ∧
      c' = { c with stage := .stopped none } := by
  unfold stepFinish at h
  split at h
  · next hdone =>
    obtain ⟨rfl, rfl⟩ := Prod.mk.inj (Option.some.inj h)
    exact ⟨hdone.1, by simpa using hdone.2, rfl, rfl⟩
  · cases h

/-! ### All steps -/

/-- What a step comes to: the controller after it, and what it asks for. -/
inductive Does (c : Controller) : Step → Controller → List Effect → Prop
  /-- The run begins to wait for the cache. -/
  | start (now : Nat) : c.stage = .initializing →
      now + c.tuning.syncTimeout.total < clockEnd →
      Does c (.start now) { c with stage := .syncing (now + c.tuning.syncTimeout.total) false } []
  /-- The cache is complete and the workers begin. -/
  | begun (now deadline : Nat) : c.stage = .syncing deadline false →
      Does c (.check now true)
        { c with
          stage := .running
          workers := List.replicate (max c.tuning.workers 1) .idle } []
  /-- The cache is not complete in time. -/
  | late (now deadline : Nat) : c.stage = .syncing deadline false → deadline ≤ now →
      Does c (.check now false)
        (c.stopWith (some (.cacheSync c.kind.name c.tuning.syncTimeout))) []
  /-- There will be another look at the cache. -/
  | early (now deadline : Nat) : c.stage = .syncing deadline false → now < deadline →
      Does c (.check now false) { c with stage := .syncing deadline true }
        [.checkAt (now + c.tuning.pollInterval.total)]
  /-- The next look is due. -/
  | tick (deadline : Nat) : c.stage = .syncing deadline true →
      Does c .tick { c with stage := .syncing deadline false } []
  | stop : Does c .stop { c with stopRequested := true } []
  /-- The run ends while it waits for the cache. -/
  | abandon (deadline : Nat) : c.stopRequested = true → c.stage = .syncing deadline true →
      Does c .halt (c.stopWith none) []
  /-- The workers are to finish. -/
  | drain : c.stopRequested = true → c.stage = .running →
      Does c .halt { c with queue := c.queue.shutDown, stage := .draining } []
  | finish : c.stage = .draining → (∀ w ∈ c.workers, w = .exited) →
      Does c .finish { c with stage := .stopped none } []
  /-- A worker exits after the shutdown. -/
  | exit (i : Nat) : c.workers[i]? = some .idle → c.queue.closed = true →
      Does c (.take i) (c.setWorker i .exited) []
  /-- A worker clears away waiting keys that have no item. -/
  | clear (i : Nat) : c.workers[i]? = some .idle →
      c.queue.take = ({ c.queue with waiting := [] }, .empty) →
      Does c (.take i) { c with queue := { c.queue with waiting := [] } } []
  /-- An item is handed out to a worker. -/
  | take (i : Nat) (queue : WorkQueue) (item : WorkItem) : c.workers[i]? = some .idle →
      c.queue.take = (queue, .item item) →
      Does c (.take i) ({ c with queue }.setWorker i (.holding item)) []
  /-- A lookup fails. -/
  | fail (i : Nat) (found : Except Fault (Option Resource)) (item : WorkItem) (fault : Fault) :
      c.workers[i]? = some (.holding item) → c.outcome item found = .failed fault →
      Does c (.begin i found) (c.setWorker i (.settling item (some fault))) []
  /-- What was found was told before. -/
  | skip (i : Nat) (found : Except Fault (Option Resource)) (item : WorkItem) :
      c.workers[i]? = some (.holding item) → c.outcome item found = .skipped →
      Does c (.begin i found) ((c.record .updateSkipped).setWorker i (.settling item none)) []
  /-- The sinks are told. -/
  | send (i : Nat) (found : Except Fault (Option Resource)) (item : WorkItem)
      (notification : Notification) (event : Event) :
      c.workers[i]? = some (.holding item) →
      c.outcome item found = .send notification event →
      Does c (.begin i found)
        ((c.keep item.key found (.send notification event)).setWorker i
          (awaiting item c.enabledSinks))
        (c.enabledSinks.map fun sink => .deliver i sink notification event)
  /-- A sink has finished. -/
  | delivered (i sink : Nat) (item : WorkItem) (pending : List Nat) :
      c.workers[i]? = some (.delivering item pending) → sink ∈ pending →
      Does c (.delivered i sink) (c.setWorker i (awaiting item (pending.erase sink))) []
  /-- A worker clears the failures of a key. -/
  | succeed (i : Nat) (item : WorkItem) : c.workers[i]? = some (.settling item none) →
      Does c (.settle i)
        ({ c with queue := c.queue.forget item.key }.setWorker i (.releasing item.key)) []
  /-- A worker reads how often a key has failed. -/
  | count (i : Nat) (item : WorkItem) (fault : Fault) :
      c.workers[i]? = some (.settling item (some fault)) →
      Does c (.settle i) (c.setWorker i (.requeueing item (c.queue.failureCount item.key))) []
  /-- A worker asks for a retry. -/
  | requeue (i : Nat) (item : WorkItem) (failures : Nat) :
      c.workers[i]? = some (.requeueing item failures) → failures < c.tuning.maxRetries.toNat →
      Does c (.requeue i)
        (({ c with queue := (c.queue.addRateLimited c.tuning.backoff item).1 }.record
          .requeue).setWorker i (.releasing item.key))
        [.matureAfter (c.queue.addRateLimited c.tuning.backoff item).2.2
          (c.queue.addRateLimited c.tuning.backoff item).2.1]
  /-- A worker drops an item that has failed too often. -/
  | drop (i : Nat) (item : WorkItem) (failures : Nat) :
      c.workers[i]? = some (.requeueing item failures) → c.tuning.maxRetries.toNat ≤ failures →
      Does c (.requeue i)
        (({ c with queue := c.queue.forget item.key }.record .drop).setWorker i
          (.releasing item.key)) []
  /-- A worker releases its key. -/
  | release (i : Nat) (key : String) : c.workers[i]? = some (.releasing key) →
      Does c (.release i) ({ c with queue := (c.queue.done key).1 }.setWorker i .idle) []
  /-- A backoff ends. -/
  | mature (retry : Retry) : Does c (.mature retry) { c with queue := (c.queue.mature retry).1 } []

/-- A step that can be taken does one of these things. -/
theorem does_of_step {step : Step} (h : c.step step = some (c', effects)) :
    c.Does step c' effects := by
  -- one case of the step function for each kind of step, in the order of its branches
  cases step with
  | start now =>
    obtain ⟨hstage, hfits, rfl, rfl⟩ := stepStart_cases h
    exact .start now hstage hfits
  | check now synced =>
    obtain ⟨deadline, hstage, ⟨rfl, rfl, rfl⟩ | ⟨rfl, hover, rfl, rfl⟩ | ⟨rfl, hless, rfl, rfl⟩⟩ :=
      stepCheck_cases h
    · exact .begun now deadline hstage
    · exact .late now deadline hstage hover
    · exact .early now deadline hstage hless
  | tick =>
    obtain ⟨deadline, hstage, rfl, rfl⟩ := stepTick_cases h
    exact .tick deadline hstage
  | stop =>
    obtain ⟨rfl, rfl⟩ := Prod.mk.inj (Option.some.inj h)
    exact .stop
  | halt =>
    obtain ⟨hstop, rfl, ⟨deadline, hstage, rfl⟩ | ⟨hstage, rfl⟩⟩ := stepHalt_cases h
    · exact .abandon deadline hstop hstage
    · exact .drain hstop hstage
  | finish =>
    obtain ⟨hstage, hexited, rfl, rfl⟩ := stepFinish_cases h
    exact .finish hstage hexited
  | take i =>
    obtain ⟨hidle, rfl, ⟨hclosed, rfl⟩ | ⟨htake, rfl⟩ | ⟨queue, item, htake, rfl⟩⟩ :=
      stepTake_cases h
    · exact .exit i hidle hclosed
    · exact .clear i hidle htake
    · exact .take i queue item hidle htake
  | begin i found =>
    obtain ⟨item, hw, ⟨fault, houtcome, rfl, rfl⟩ | ⟨houtcome, rfl, rfl⟩ |
      ⟨notification, event, houtcome, rfl, rfl⟩⟩ := stepBegin_cases h
    · exact .fail i found item fault hw houtcome
    · exact .skip i found item hw houtcome
    · exact .send i found item notification event hw houtcome
  | delivered i sink =>
    obtain ⟨item, pending, hw, hmem, rfl, rfl⟩ := stepDelivered_cases h
    exact .delivered i sink item pending hw hmem
  | settle i =>
    obtain ⟨item, ⟨hw, rfl, rfl⟩ | ⟨fault, hw, rfl, rfl⟩⟩ := stepSettle_cases h
    · exact .succeed i item hw
    · exact .count i item fault hw
  | requeue i =>
    obtain ⟨item, failures, hw, ⟨hless, rfl, rfl⟩ | ⟨hmany, rfl, rfl⟩⟩ := stepRequeue_cases h
    · exact .requeue i item failures hw hless
    · exact .drop i item failures hw hmany
  | release i =>
    obtain ⟨key, hw, rfl, rfl⟩ := stepRelease_cases h
    exact .release i key hw
  | mature retry =>
    obtain ⟨rfl, rfl⟩ := Prod.mk.inj (Option.some.inj h)
    exact .mature retry

end ClusterWatch.Controller
