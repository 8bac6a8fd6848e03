import ClusterWatch.Proofs.Controller.Visits
/-!
# What becomes of the items that were attempted

A worker handles the result of its visit: a success clears the failures of the key, a failure has
the item queued again or dropped. The verdicts of an execution are read off its path.

- `Verdict`, `Handling`, `Execution.handlings`: what became of the items.
- `failuresSince`: the failures of a key since its last success or drop.
- `Execution.Counted`: the invariant. A worker that is about to handle a failure has read how often
  the key has failed, and that is still the count.

Main results: `Execution.failureCount_eq`, `Execution.handled_cases`.
-/

namespace ClusterWatch

open Time (Span)

namespace Controller

/-! ### Verdicts -/

/-- What becomes of an item that was attempted. -/
inductive Verdict where
  | succeeded
  /-- It comes back after a while. -/
  | requeued (delay : Span)
  | dropped
  deriving DecidableEq, Repr

/-- A worker has handled the result of its item. -/
structure Handling where
  worker : Nat
  item : WorkItem
  verdict : Verdict
  deriving DecidableEq, Repr

namespace Handling

/-- The failures of a key since its last success or drop, after an item was handled. -/
def failures (a : Handling) (key : String) (before : Nat) : Nat :=
  if a.item.key = key then
    match a.verdict with
    | .requeued _ => before + 1
    | .succeeded | .dropped => 0
  else before

end Handling

/-- The failures of a key since its last success or drop, by the items that were handled, the last
first. -/
def failuresSince (key : String) : List Handling → Nat
  | [] => 0
  | a :: older => a.failures key (failuresSince key older)

namespace Execution

/-- The item that a move handles. -/
def handling? : Execution × Move → Option Handling
  | (x, .act (.settle i)) =>
    match x.controller.workers[i]? with
    | some (.settling item none) => some ⟨i, item, .succeeded⟩
    | _ => none
  | (x, .act (.requeue i)) =>
    match x.controller.workers[i]?, asks (x, .act (.requeue i)) with
    | some (.requeueing item _), [.matureAfter delay _] => some ⟨i, item, .requeued delay⟩
    | some (.requeueing item _), _ => some ⟨i, item, .dropped⟩
    | _, _ => none
  | _ => none

/-- The items that were handled on a path, the last first. -/
def handlings (past : List (Execution × Move)) : List Handling :=
  past.filterMap handling?

variable {c : Controller} {x x' : Execution} {past : List (Execution × Move)}
  {kind : Resource.Kind} {tuning : Tuning} {slots : List Sink.Slot} {start : Time.Instant}

/-- What a move does to the failures: it leaves them alone, or it handles the item of a worker. -/
inductive Handles (x x' : Execution) : Option Handling → Prop
  /-- A worker may have read how often its key has failed. -/
  | nothing :
      (∀ key, x'.controller.queue.failureCount key = x.controller.queue.failureCount key) →
      (∀ (i : Nat) (item : WorkItem) (n : Nat),
        x'.controller.workers[i]? = some (.requeueing item n) →
        x.controller.workers[i]? = some (.requeueing item n) ∨
          n = x.controller.queue.failureCount item.key) →
      Handles x x' none
  | succeeded (i : Nat) (item : WorkItem) :
      x.controller.workers[i]? = some (.settling item none) →
      x'.controller.queue = x.controller.queue.forget item.key →
      x'.controller.workers = x.controller.workers.set i (.releasing item.key) →
      x'.retries = x.retries →
      Handles x x' (some ⟨i, item, .succeeded⟩)
  | requeued (i : Nat) (item : WorkItem) (failures : Nat) :
      x.controller.workers[i]? = some (.requeueing item failures) →
      failures < x.controller.tuning.maxRetries.toNat →
      x'.controller.queue =
        (x.controller.queue.addRateLimited x.controller.tuning.backoff item).1 →
      x'.controller.workers = x.controller.workers.set i (.releasing item.key) →
      x'.retries = x.retries ++ [⟨item, x.controller.queue.added[item.key]?⟩] →
      Handles x x' (some ⟨i, item, .requeued
        (x.controller.tuning.backoff.delay (x.controller.queue.failureCount item.key))⟩)
  | dropped (i : Nat) (item : WorkItem) (failures : Nat) :
      x.controller.workers[i]? = some (.requeueing item failures) →
      x.controller.tuning.maxRetries.toNat ≤ failures →
      x'.controller.queue = x.controller.queue.forget item.key →
      x'.controller.workers = x.controller.workers.set i (.releasing item.key) →
      x'.retries = x.retries →
      Handles x x' (some ⟨i, item, .dropped⟩)

/-- A worker that is about to handle a failure was so before another worker went on. -/
theorem requeueing_of_set {workers : List Worker} {i j : Nat} {w : Worker}
    (hw : ∀ (item : WorkItem) (n : Nat), w ≠ .requeueing item n) {item : WorkItem} {n : Nat}
    (h : (workers.set i w)[j]? = some (.requeueing item n)) :
    i ≠ j ∧ workers[j]? = some (.requeueing item n) := by
  rw [List.getElem?_set] at h
  split at h
  · split at h
    · exact absurd (Option.some.inj h) (hw item n)
    · cases h
  · next hij => exact ⟨hij, h⟩

theorem awaiting_ne_requeueing (item : WorkItem) (pending : List Nat) (item' : WorkItem) (n : Nat) :
    awaiting item pending ≠ .requeueing item' n := by
  cases pending <;> simp [awaiting]

/-- Each step handles an item or leaves the failures alone. -/
theorem handles_of_does {step : Step} {c : Controller} {effects : List Effect}
    (hdoes : x.controller.Does step c effects) (heffects : asks (x, .act step) = effects) :
    x.Handles (x.after step (c, effects)) (handling? (x, .act step)) := by
  have hnil : x.retries ++ askedRetries [] = x.retries := List.append_nil _
  -- most steps leave the queue's failures alone, and put a worker where it reads nothing
  have hset : ∀ {i : Nat} {w : Worker}, (∀ item n, w ≠ .requeueing item n) →
      c.queue.failures = x.controller.queue.failures →
      c.workers = x.controller.workers.set i w →
      x.Handles (x.after step (c, effects)) none := by
    intro i w hw hfailures hworkers
    refine .nothing (fun key => WorkQueue.failureCount_congr hfailures key) fun j item n hj => ?_
    replace hj : c.workers[j]? = some (.requeueing item n) := hj
    rw [hworkers] at hj
    exact .inl (requeueing_of_set hw hj).2
  have hrest : c.queue.failures = x.controller.queue.failures →
      (∀ (i : Nat) item n, c.workers[i]? = some (.requeueing item n) →
        x.controller.workers[i]? = some (.requeueing item n)) →
      x.Handles (x.after step (c, effects)) none := by
    intro hfailures hworkers
    exact .nothing (fun key => WorkQueue.failureCount_congr hfailures key) fun j item n hj =>
      .inl (hworkers j item n hj)
  cases hdoes with
  | start | late | early | tick | stop | abandon | drain | finish | clear =>
    exact hrest rfl fun _ _ _ hw => hw
  | begun now deadline hstage =>
    refine hrest rfl fun i item n hw => ?_
    cases List.eq_of_mem_replicate (List.mem_of_getElem? hw)
  | mature retry => exact hrest (WorkQueue.failures_mature _ _) fun _ _ _ hw => hw
  | exit i hidle => exact hset (by simp) rfl rfl
  | take i queue item hidle htake => exact hset (by simp) (WorkQueue.failures_take htake) rfl
  | fail i found item fault hw => exact hset (by simp) rfl rfl
  | skip i found item hw => exact hset (by simp) rfl rfl
  | send i found item notification event hw =>
    have hframe := x.controller.frame_keep item.key found (.send notification event)
    exact hset (awaiting_ne_requeueing item _) (congrArg (·.failures) hframe.queue)
      (congrArg (List.set · i _) hframe.workers)
  | delivered i sink item pending hw => exact hset (awaiting_ne_requeueing item _) rfl rfl
  | release i key hw =>
    refine hset (by simp) ?_ rfl
    show (x.controller.queue.done key).1.failures = _
    rw [WorkQueue.done_fst]
  | succeed i item hw =>
    simp only [handling?, hw]
    exact .succeeded i item hw rfl rfl hnil
  | count i item fault hw =>
    simp only [handling?, hw]
    refine .nothing (fun _ => rfl) fun j item' n hj => ?_
    replace hj : (x.controller.workers.set i _)[j]? = some (.requeueing item' n) := hj
    rw [getElem?_setWorker hw] at hj
    split at hj
    · obtain ⟨rfl, rfl⟩ := Worker.requeueing.inj (Option.some.inj hj)
      exact .inr rfl
    · exact .inl hj
  | requeue i item failures hw hless =>
    simp only [handling?, hw, heffects]
    exact .requeued i item failures hw hless rfl rfl rfl
  | drop i item failures hw hmany =>
    simp only [handling?, hw, heffects]
    exact .dropped i item failures hw hmany rfl rfl hnil

/-- Each move handles an item or leaves the failures alone. -/
theorem handles {move : Move} (hmove : x.advance? move = some x') :
    x.Handles x' (handling? (x, move)) := by
  cases move with
  | notify call =>
    obtain rfl := Option.some.inj hmove
    have hsame : x.Handles { x with controller := call.notify x.controller } none := by
      rcases x.controller.notify_eq call with hsame | ⟨item, -, hadd⟩
      · rw [hsame]
        exact .nothing (fun _ => rfl) fun _ _ _ hw => .inl hw
      · rw [hadd]
        exact .nothing (fun key => WorkQueue.failureCount_congr (WorkQueue.failures_add _ item) key)
          fun _ _ _ hw => .inl hw
    exact hsame
  | mature position =>
    obtain ⟨_, h, -⟩ | ⟨_, _, _, h, -⟩ | ⟨_, retry, -, -, rfl⟩ := advance?_cases hmove
    · cases h
    · cases h
    · exact .nothing
        (fun key => WorkQueue.failureCount_congr (WorkQueue.failures_mature _ retry) key)
        fun _ _ _ hw => .inl hw
  | act step =>
    obtain ⟨c, hdoes, rfl⟩ := does_asks hmove
    exact handles_of_does hdoes rfl

/-! ### Counting failures -/

/-- A worker that is about to handle a failure has read how often its key has failed. -/
def Counted (x : Execution) : Prop :=
  ∀ (i : Nat) (item : WorkItem) (n : Nat), x.controller.workers[i]? = some (.requeueing item n) →
    n = x.controller.queue.failureCount item.key

/-- Another worker cannot be at work on the key whose failures have changed. -/
theorem Counted.settle (h : x.Counted) (hx : x.Reachable (.new kind tuning slots start)) {i : Nat}
    {w : Worker} {item : WorkItem} (hw : x.controller.workers[i]? = some w)
    (hitem : w.item? = some item)
    (hworkers : x'.controller.workers = x.controller.workers.set i (.releasing item.key))
    (hothers : ∀ key ≠ item.key,
      x'.controller.queue.failureCount key = x.controller.queue.failureCount key) : x'.Counted := by
  intro j item' n hj
  rw [hworkers] at hj
  obtain ⟨hij, hj⟩ := requeueing_of_set (by simp) hj
  have hne : item'.key ≠ item.key := by
    intro hkey
    exact hij (hx.worker_unique hw hj (Worker.key?_of_item? hitem) (congrArg some hkey))
  rw [hothers item'.key hne]
  exact h j item' n hj

theorem Reachable.counted (h : x.Reachable (.new kind tuning slots start)) : x.Counted := by
  induction h with
  | start =>
    intro i item n hw
    simp [Controller.new] at hw
  | @move x x' move hx hmove ih =>
    have hhandles := handles hmove
    generalize handling? (x, move) = a at hhandles
    cases hhandles with
    | nothing hfailures hworkers =>
      intro i item n hw
      rw [hfailures]
      rcases hworkers i item n hw with hold | hread
      · exact ih i item n hold
      · exact hread
    | succeeded i item hw hqueue hworkers =>
      refine ih.settle hx hw rfl hworkers fun key hkey => ?_
      rw [hqueue, WorkQueue.failureCount_forget, if_neg (Ne.symm hkey)]
    | requeued i item failures hw hless hqueue hworkers =>
      refine ih.settle hx hw rfl hworkers fun key hkey => ?_
      rw [hqueue, WorkQueue.failureCount_addRateLimited_other _ _ (Ne.symm hkey)]
    | dropped i item failures hw hmany hqueue hworkers =>
      refine ih.settle hx hw rfl hworkers fun key hkey => ?_
      rw [hqueue, WorkQueue.failureCount_forget, if_neg (Ne.symm hkey)]

/-- A key that may be queued again has failed less often than its count can tell. -/
theorem Counted.fits (h : x.Counted) {i : Nat} {item : WorkItem} {failures : Nat}
    (hw : x.controller.workers[i]? = some (.requeueing item failures))
    (hless : failures < x.controller.tuning.maxRetries.toNat) :
    x.controller.queue.failureCount item.key + 1 < UInt32.size := by
  rw [← h i item failures hw]
  exact Nat.lt_of_le_of_lt hless (UInt32.toNat_lt _)

/-- What handling an item does to the failures of each key. -/
theorem failureCount_of_handles {a : Handling} (hx : x.Counted) (h : x.Handles x' (some a))
    (key : String) :
    x'.controller.queue.failureCount key =
      a.failures key (x.controller.queue.failureCount key) := by
  cases h with
  | succeeded i item hw hqueue =>
    rw [hqueue, WorkQueue.failureCount_forget]
    rfl
  | requeued i item failures hw hless hqueue =>
    rw [hqueue, WorkQueue.failureCount_addRateLimited _ (hx.fits hw hless)]
    rfl
  | dropped i item failures hw hmany hqueue =>
    rw [hqueue, WorkQueue.failureCount_forget]
    rfl

theorem handlings_cons (p : Execution × Move) (past : List (Execution × Move)) :
    handlings (p :: past) = (handling? p).toList ++ handlings past := by
  unfold handlings
  rw [List.filterMap_cons]
  cases handling? p <;> rfl

/-- The count of a key's failures is the number of its failures since its last success or drop. -/
theorem failureCount_eq (h : Path advance? { controller := .new kind tuning slots start } past x)
    (key : String) : x.controller.queue.failureCount key = failuresSince key (handlings past) := by
  induction h with
  | start => rfl
  | @move past x x' move hpath hmove ih =>
    have hhandles := handles hmove
    rw [handlings_cons]
    cases ha : handling? (x, move) with
    | none =>
      rw [ha] at hhandles
      cases hhandles with
      | nothing hfailures => exact (hfailures key).trans ih
    | some a =>
      rw [ha] at hhandles
      show _ = a.failures key (failuresSince key (handlings past))
      rw [failureCount_of_handles (reachable_of_path hpath).counted hhandles, ih]

/-- No key has failed more often than items are queued again. -/
theorem Reachable.failureCount_le (h : x.Reachable (.new kind tuning slots start)) (key : String) :
    x.controller.queue.failureCount key ≤ tuning.maxRetries.toNat := by
  induction h with
  | start => exact Nat.zero_le _
  | @move x x' move hx hmove ih =>
    have hcounted := hx.counted
    have htuning : x.controller.tuning = tuning := hx.sameSettings.tuning
    have hhandles := handles hmove
    generalize handling? (x, move) = a at hhandles
    cases hhandles with
    | nothing hfailures => rw [hfailures]; exact ih
    | succeeded i item hw hqueue =>
      rw [hqueue, WorkQueue.failureCount_forget]
      split
      · exact Nat.zero_le _
      · exact ih
    -- the count that was read is the count of the queue, and it was below the limit
    | requeued i item failures hw hless hqueue =>
      rw [hqueue, WorkQueue.failureCount_addRateLimited _ (hcounted.fits hw hless)]
      split
      · next hkey =>
        rw [hcounted i item failures hw, hkey, htuning] at hless
        exact hless
      · exact ih
    | dropped i item failures hw hmany hqueue =>
      rw [hqueue, WorkQueue.failureCount_forget]
      split
      · exact Nat.zero_le _
      · exact ih

/-- The verdict on an item: a failed one is dropped when its key has failed as often as items are
queued again, and comes back otherwise. -/
def verdict (tuning : Tuning) (failures : Nat) : Option Fault → Verdict
  | none => .succeeded
  | some _ =>
    if failures = tuning.maxRetries.toNat then .dropped
    else .requeued (tuning.backoff.delay failures)

/-- A worker handles the item of its last visit, and the verdict is by the outcome of that visit and
by how often the key has failed. -/
theorem handled_cases
    (h : Path advance? { controller := .new kind tuning slots start } past x) {move : Move}
    (hmove : x.advance? move = some x') {a : Handling} (ha : handling? (x, move) = some a) :
    ∃ v, lastVisit? a.worker (visits past) = some v ∧ v.item = a.item ∧
      a.verdict = verdict tuning (x.controller.queue.failureCount a.item.key) v.failure? ∧
      (a.verdict = .dropped → a.item.key ∉ x'.controller.queue.failures) ∧
      ∀ delay, a.verdict = .requeued delay →
        ∃ seen, x'.retries = x.retries ++ [⟨a.item, seen⟩] := by
  have hx := reachable_of_path h
  have htuning : x.controller.tuning = tuning := hx.sameSettings.tuning
  have hhandles := handles hmove
  rw [ha] at hhandles
  cases hhandles with
  | succeeded i item hw hqueue =>
    obtain ⟨v, hv, hitem, hfailure⟩ := dealsWith_of_path h rfl hw
    refine ⟨v, hv, hitem, ?_, by simp, by simp⟩
    rw [hfailure]
    rfl
  -- what the worker deals with is what its last visit left, so the verdict is that of the visit
  | requeued i item failures hw hless hqueue hworkers hretries =>
    obtain ⟨v, hv, hitem, hfailure⟩ := dealsWith_of_path h rfl hw
    obtain ⟨fault, hfault⟩ := Option.isSome_iff_exists.mp hfailure
    rw [hx.counted i item failures hw, htuning] at hless
    refine ⟨v, hv, hitem, ?_, by simp, fun _ _ => ⟨_, hretries⟩⟩
    rw [hfault, htuning]
    exact (if_neg (Nat.ne_of_lt hless)).symm
  | dropped i item failures hw hmany hqueue =>
    obtain ⟨v, hv, hitem, hfailure⟩ := dealsWith_of_path h rfl hw
    obtain ⟨fault, hfault⟩ := Option.isSome_iff_exists.mp hfailure
    rw [hx.counted i item failures hw, htuning] at hmany
    refine ⟨v, hv, hitem, ?_, fun _ => ?_, by simp⟩
    · rw [hfault]
      exact (if_pos (Nat.le_antisymm (hx.failureCount_le item.key) hmany)).symm
    · rw [hqueue, WorkQueue.failures_forget]
      simp

end Execution

end Controller

end ClusterWatch
