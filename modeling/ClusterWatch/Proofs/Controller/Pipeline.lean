import ClusterWatch.Proofs.Controller.Execution
import ClusterWatch.Proofs.Controller.Processing
import ClusterWatch.Proofs.Watch.Replica
/-!
# A controller behind a watch

The whole way of an object: a watch reports it, the cache has it, the translator makes
notifications of it, and the workers of a controller look it up. The parts go at their own paces.
The cache changes with the watch, the notifications follow in the same order but at any later time,
and the workers see the cache as it is when they look.

- `Pipeline`, `Pipeline.Next`, `Pipeline.Reachable`: the way, and everything that can happen on it.
  Lookups never fail, and every object in the cache has a version.
- `Execution.Smooth`: without failing lookups nothing is ever queued again.
- `Execution.Quiet`: a step that changes nothing of what is pending, looked up or told;
  `Execution.Reachable.act_cases` says that all steps do but two.
-/

namespace ClusterWatch

open Controller (Execution Step Worker Effect)
open Watch (Replica Translator Call)

/-- A controller behind a watch. -/
structure Pipeline where
  execution : Execution
  /-- What the workers see. -/
  cache : Cache
  /-- What the watch has reported. -/
  replica : Replica := {}
  translator : Translator := {}
  /-- The notifications that are still to be made, the next first. -/
  calls : List Call := []

namespace Pipeline

/-- A worker finds what the cache holds. -/
def Answers (p : Pipeline) : Step → Prop
  | .begin i found => ∀ item, p.execution.controller.workers[i]? = some (.holding item) →
      found = p.cache.lookup item.key
  | _ => True

/-- Something happens on the way. -/
inductive Next (p : Pipeline) : Pipeline → Prop
  /-- The watch reports something. The cache changes, and notifications are to be made; those of one
  listing come in any order. -/
  | watch (e : Watch.Event) (cache : Cache) (calls : List Call) :
      (∀ key, cache.lookup key = .ok ((p.replica.apply e).objects key)) →
      (∀ key r, (p.replica.apply e).objects key = some r → r.version?.isSome) →
      calls.Perm (p.translator.handle e).2 →
      Next p { p with
        cache
        replica := p.replica.apply e
        translator := (p.translator.handle e).1
        calls := p.calls ++ calls }
  /-- The next notification is made. -/
  | notify (call : Call) (calls : List Call) (x : Execution) :
      p.calls = call :: calls → p.execution.advance? (.notify call) = some x →
      Next p { p with execution := x, calls }
  /-- The run or a worker takes a step. -/
  | act (step : Step) (x : Execution) :
      p.Answers step → p.execution.advance? (.act step) = some x → Next p { p with execution := x }
  /-- A backoff ends. -/
  | mature (position : Nat) (x : Execution) :
      p.execution.advance? (.mature position) = some x → Next p { p with execution := x }

/-- The states of all runs of a controller behind a watch. -/
inductive Reachable (c : Controller) : Pipeline → Prop
  | start (cache : Cache) :
      (∀ key, cache.lookup key = .ok none) → Reachable c { execution := { controller := c }, cache }
  | next {p p' : Pipeline} : Reachable c p → p.Next p' → Reachable c p'

theorem Reachable.execution {c : Controller} {p : Pipeline} (h : Reachable c p) :
    p.execution.Reachable c := by
  induction h with
  | start => exact .start
  | next _ hnext ih =>
    cases hnext with
    | watch => exact ih
    | notify _ _ _ _ hmove => exact .move ih hmove
    | act _ _ _ hmove => exact .move ih hmove
    | mature _ _ hmove => exact .move ih hmove

end Pipeline

/-! ### Steps without failing lookups -/

namespace Controller

/-- Whether a worker is about to deal with a failure. -/
def Worker.failing : Worker → Bool
  | settling _ (some _) | requeueing .. => true
  | _ => false

/-- The item that a worker has yet to look up. -/
def Worker.sought? : Worker → Option WorkItem
  | holding item => some item
  | _ => none

theorem Worker.sought?_eq_some_iff {w : Worker} {item : WorkItem} :
    w.sought? = some item ↔ w = .holding item := by
  cases w <;> simp [sought?]

theorem failing_awaiting (item : WorkItem) (pending : List Nat) :
    (awaiting item pending).failing = false := by
  cases pending <;> rfl

theorem sought?_awaiting (item : WorkItem) (pending : List Nat) :
    (awaiting item pending).sought? = none := by
  cases pending <;> rfl

namespace Execution

variable {x x' : Execution} {kind : Resource.Kind} {tuning : Tuning} {slots : List Sink.Slot}
  {start : Time.Instant}

/-- Nothing has failed: no retry was asked for, and no worker is about to ask for one. -/
structure Smooth (x : Execution) : Prop where
  retries : x.retries = []
  workers : ∀ (i : Nat) (w : Worker), x.controller.workers[i]? = some w → w.failing = false

/-- A worker that has not failed leaves the execution smooth. -/
theorem Smooth.setWorker (h : x.Smooth) {i : Nat} {w : Worker} (w' : Worker)
    (hw : x.controller.workers[i]? = some w) (hretries : x'.retries = x.retries)
    (hworkers : x'.controller.workers = x.controller.workers.set i w')
    (hfailing : w'.failing = false) : x'.Smooth where
  retries := hretries.trans h.retries
  workers := fun j w₁ hw₁ => by
    rw [hworkers, getElem?_setWorker hw] at hw₁
    split at hw₁
    · obtain rfl := Option.some.inj hw₁
      exact hfailing
    · exact h.workers j w₁ hw₁

/-- The items are the same, the same workers are yet to look theirs up, and nothing was told. -/
structure Quiet (x x' : Execution) : Prop where
  items : x'.controller.queue.items = x.controller.queue.items
  holding : ∀ (i : Nat) (item : WorkItem), x'.controller.workers[i]? = some (.holding item) ↔
    x.controller.workers[i]? = some (.holding item)
  observed : x'.controller.observed = x.controller.observed
  dispatched : x'.dispatched = x.dispatched

/-- A step that leaves the workers and the items as they are. -/
theorem Smooth.same (h : x.Smooth) (hworkers : x'.controller.workers = x.controller.workers)
    (hitems : x'.controller.queue.items = x.controller.queue.items)
    (hobserved : x'.controller.observed = x.controller.observed)
    (hdispatched : x'.dispatched = x.dispatched) (hretries : x'.retries = x.retries) :
    x.Quiet x' ∧ x'.Smooth := by
  refine ⟨⟨hitems, fun i item => ?_, hobserved, hdispatched⟩, hretries.trans h.retries, ?_⟩
  · rw [hworkers]
  · rw [hworkers]
    exact h.workers

/-- A step of a worker that neither has to look an item up nor has to afterwards. -/
theorem Smooth.busy (h : x.Smooth) {i : Nat} {w : Worker} (w' : Worker)
    (hw : x.controller.workers[i]? = some w) (hold : w.sought? = none) (hnew : w'.sought? = none)
    (hfailing : w'.failing = false)
    (hworkers : x'.controller.workers = x.controller.workers.set i w')
    (hitems : x'.controller.queue.items = x.controller.queue.items)
    (hobserved : x'.controller.observed = x.controller.observed)
    (hdispatched : x'.dispatched = x.dispatched) (hretries : x'.retries = x.retries) :
    x.Quiet x' ∧ x'.Smooth := by
  refine ⟨⟨hitems, fun j item => ?_, hobserved, hdispatched⟩,
    h.setWorker w' hw hretries hworkers hfailing⟩
  rw [hworkers, getElem?_setWorker hw]
  split
  · next heq =>
    subst heq
    rw [hw, Option.some.injEq, Option.some.injEq, ← Worker.sought?_eq_some_iff,
      ← Worker.sought?_eq_some_iff, hold, hnew]
  · rfl

/-- A step without a failing lookup is quiet, or an item is handed out, or a worker looks its item
up. -/
theorem Reachable.act_cases (h : x.Reachable (.new kind tuning slots start)) (hsmooth : x.Smooth)
    {step : Step} (hmove : x.advance? (.act step) = some x') :
    (x.Quiet x' ∧ x'.Smooth) ∨
    (∃ i queue item, x.controller.workers[i]? = some .idle ∧
      x.controller.queue.take = (queue, .item item) ∧ x'.Smooth ∧
      x' = { x with
        controller := { x.controller with queue }.setWorker i (.holding item) }) ∨
    ∃ i found, step = .begin i found := by
  have hnil : x.retries ++ askedRetries [] = x.retries := List.append_nil _
  obtain ⟨hstep, c, effects, hdoes, rfl⟩ := does_of_act hmove
  cases hdoes with
  | mature retry => exact absurd rfl (hstep retry)
  | begun now deadline hstage =>
    -- the workers begin idle, where there were none
    have hworkers := h.workers_eq_nil (.inr ⟨deadline, false, hstage⟩)
    have hidle : ∀ (i : Nat) (w : Worker),
        (List.replicate (max x.controller.tuning.workers 1) Worker.idle)[i]? = some w →
          w = .idle := fun i w hw => List.eq_of_mem_replicate (List.mem_of_getElem? hw)
    refine .inl ⟨⟨rfl, fun i item => ?_, rfl, rfl⟩, hnil.trans hsmooth.retries, fun i w hw => ?_⟩
    · rw [hworkers]
      exact iff_of_false (fun hw => by cases hidle i _ hw) (by simp)
    · obtain rfl := hidle i w hw
      rfl
  | start | late | early | tick | stop | abandon | drain | finish =>
    exact .inl (hsmooth.same rfl rfl rfl rfl hnil)
  | exit i hidle => exact .inl (hsmooth.busy .exited hidle rfl rfl rfl rfl rfl rfl rfl hnil)
  | clear => exact .inl (hsmooth.same rfl rfl rfl rfl hnil)
  | take i queue item hidle htake =>
    refine .inr (.inl ⟨i, queue, item, hidle, htake,
      hsmooth.setWorker (.holding item) hidle hnil rfl rfl, ?_⟩)
    simp [after, askedRetries, dispatch?]
  | fail i found | skip i found | send i found => exact .inr (.inr ⟨i, found, rfl⟩)
  | delivered i sink item pending hw =>
    exact .inl (hsmooth.busy _ hw rfl (sought?_awaiting item _) (failing_awaiting item _) rfl rfl
      rfl rfl hnil)
  | succeed i item hw =>
    exact .inl (hsmooth.busy (.releasing item.key) hw rfl rfl rfl rfl
      (WorkQueue.sameWork_forget x.controller.queue item.key).items rfl rfl hnil)
  -- no item has failed
  | count i item fault hw => cases hsmooth.workers i _ hw
  | requeue i item failures hw => cases hsmooth.workers i _ hw
  | drop i item failures hw => cases hsmooth.workers i _ hw
  | release i key hw =>
    refine .inl (hsmooth.busy .idle hw rfl rfl rfl rfl ?_ rfl rfl hnil)
    show (x.controller.queue.done key).1.items = _
    rw [WorkQueue.done_fst]

/-- A worker has looked its item up and found an object or none. -/
structure LookedUp (x x' : Execution) (i : Nat) (item : WorkItem) (found : Option Resource) :
    Prop where
  held : x.controller.workers[i]? = some (.holding item)
  others : ∀ (j : Nat) (other : WorkItem), x'.controller.workers[j]? = some (.holding other) ↔
    j ≠ i ∧ x.controller.workers[j]? = some (.holding other)
  queue : x'.controller.queue = x.controller.queue
  smooth : x'.Smooth
  observed : x'.controller.observed =
    (x.controller.keep item.key (.ok found) (x.controller.outcome item (.ok found))).observed
  dispatched : x'.dispatched =
    ((x.controller.outcome item (.ok found)).dispatch? item.key).toList ++ x.dispatched

/-- A worker that has an item looks it up; a lookup that succeeds is no failure. -/
theorem Smooth.begin (h : x.Smooth) {i : Nat} {found : Except Fault (Option Resource)}
    (hmove : x.advance? (.act (.begin i found)) = some x') :
    ∃ item, x.controller.workers[i]? = some (.holding item) ∧
      ∀ object, found = .ok object → x.LookedUp x' i item object := by
  obtain ⟨⟨c, effects⟩, hstep, rfl⟩ := Option.map_eq_some_iff.mp hmove
  obtain ⟨item, hw, hcases⟩ := stepBegin_cases hstep
  refine ⟨item, hw, ?_⟩
  rintro object rfl
  have hdispatch : x.controller.dispatch? (.begin i (.ok object)) =
      (x.controller.outcome item (.ok object)).dispatch? item.key := by
    simp only [Controller.dispatch?, hw]
  -- whatever the outcome, the worker has nothing to look up and has not failed
  have hbuild : ∀ w' : Worker, w'.sought? = none → w'.failing = false →
      c.workers = x.controller.workers.set i w' → c.queue = x.controller.queue →
      askedRetries effects = [] →
      c.observed = (x.controller.keep item.key (.ok object)
        (x.controller.outcome item (.ok object))).observed →
      x.LookedUp (x.after (.begin i (.ok object)) (c, effects)) i item object := by
    intro w' hsought hfailing hworkers hqueue hretries hobserved
    refine { held := hw, others := fun j other => ?_, queue := hqueue,
             smooth := h.setWorker w' hw (by simp [after, hretries]) hworkers hfailing,
             observed := hobserved, dispatched := by simp [after, hdispatch] }
    show c.workers[j]? = some (.holding other) ↔ _
    rw [hworkers, getElem?_setWorker hw]
    by_cases hij : i = j
    · rw [if_pos hij, Option.some.injEq, ← Worker.sought?_eq_some_iff, hsought]
      exact iff_of_false (by simp) fun hboth => hboth.1 hij.symm
    · rw [if_neg hij, and_iff_right (Ne.symm hij)]
  rcases hcases with ⟨fault, houtcome, -, -⟩ | ⟨houtcome, rfl, rfl⟩ |
    ⟨notification, event, houtcome, rfl, rfl⟩
  · have htelling := x.controller.telling item object
    rw [houtcome] at htelling
    cases htelling
  · refine hbuild (.settling item none) rfl rfl rfl rfl rfl ?_
    rw [houtcome]
    rfl
  · have hframe := x.controller.frame_keep item.key (.ok object) (.send notification event)
    refine hbuild (awaiting item x.controller.enabledSinks) (sought?_awaiting item _)
      (failing_awaiting item _) (congrArg (List.set · i _) hframe.workers) hframe.queue ?_ ?_
    · simp [askedRetries]
    · rw [houtcome]
      rfl

end Execution

end Controller

end ClusterWatch
