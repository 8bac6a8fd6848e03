import ClusterWatch.Proofs.Controller.Steps
import ClusterWatch.Proofs.Queue.Exclusivity
import ClusterWatch.Watch.Translator
import Mathlib.Data.List.InsertIdx
/-!
# Executions of a controller

A controller among the notifications that it gets and the retries that it asked for. In an
execution notifications, steps of the run and of any number of workers, and ends of backoffs come
in any order.

- `Controller.Dispatch`: something that the sinks were told.
- `Controller.Execution`, `Execution.Move`, `Execution.advance?`: a controller with the retries that
  are backing off and everything that the sinks were told, and what can happen to it.
- `Execution.Projects`: the session of the queue that goes with an execution.

Main result: `Execution.Reachable.exists_session`. The queue of a controller only sees the workers'
protocol, so that whatever holds of all sessions under that protocol holds of its queue.
-/

namespace ClusterWatch.Controller

open WorkQueue (Session Hold)

/-- Something that the sinks were told about a key. -/
structure Dispatch where
  key : String
  notification : Sink.Notification
  event : Event
  deriving DecidableEq, Repr

/-- What the sinks are told of a key for an outcome. -/
def Outcome.dispatch? (key : String) : Outcome → Option Dispatch
  | .send notification event => some ⟨key, notification, event⟩
  | .failed _ | .skipped => none

/-- What the sinks are told in a step. -/
def dispatch? (c : Controller) : Step → Option Dispatch
  | .begin i found =>
    match c.workers[i]? with
    | some (.holding item) => (c.outcome item found).dispatch? item.key
    | _ => none
  | _ => none

/-- The retries that a step asks for. -/
def askedRetries (effects : List Effect) : List Retry :=
  effects.filterMap fun
    | .matureAfter _ retry => some retry
    | _ => none

/-- A controller with what it has caused. -/
structure Execution where
  controller : Controller
  /-- The retries that are backing off. -/
  retries : List Retry := []
  /-- What the sinks were told, the last first. -/
  dispatched : List Dispatch := []

/-- What can happen to a controller. -/
inductive Execution.Move where
  /-- A notification comes in. -/
  | notify (call : Watch.Call)
  /-- A step is taken, other than the end of a backoff. -/
  | act (step : Step)
  /-- The backoff of the retry at a position is over. -/
  | mature (position : Nat)

namespace Execution

/-- The execution after a step that was taken. -/
def after (x : Execution) (step : Step) (result : Controller × List Effect) : Execution where
  controller := result.1
  retries := x.retries ++ askedRetries result.2
  dispatched := (x.controller.dispatch? step).toList ++ x.dispatched

/-- The execution after a move, none when it cannot be made. Only retries that were asked for come
to the end of a backoff. -/
def advance? (x : Execution) : Move → Option Execution
  | .notify call => some { x with controller := call.notify x.controller }
  | .act (.mature _) => none
  | .act step => (x.controller.step step).map (x.after step)
  | .mature position =>
    match x.retries[position]? with
    | some retry =>
      (x.controller.step (.mature retry)).map
        ({ x with retries := x.retries.eraseIdx position }.after (.mature retry))
    | none => none

/-- The states of all executions of a controller from its beginning on. -/
inductive Reachable (c : Controller) : Execution → Prop
  | start : Reachable c { controller := c }
  | move {x x' : Execution} {move : Move} :
      Reachable c x → x.advance? move = some x' → Reachable c x'

end Execution

/-! ### Workers and what they hold -/

namespace Worker

/-- The key that a worker has not released. -/
def key? : Worker → Option String
  | releasing key => some key
  | w => w.item?.map (·.key)

/-- Whether a worker is at work on an item that it holds: it has the item until it has dealt with
it, and from then on its key. -/
def Carries (w : Worker) (h : Hold) : Prop :=
  if h.settled then w = .releasing h.item.key else w.item? = some h.item

theorem key?_of_item? {w : Worker} {item : WorkItem} (h : w.item? = some item) :
    w.key? = some item.key := by
  cases w with
  | idle | releasing | exited => cases h
  | holding | delivering | settling | requeueing =>
    obtain rfl := Option.some.inj h
    rfl

theorem Carries.key? {w : Worker} {h : Hold} (hw : w.Carries h) : w.key? = some h.item.key := by
  unfold Carries at hw
  split at hw
  · rw [hw]
    rfl
  · exact key?_of_item? hw

/-- A worker with an item carries what it holds of it, and has not dealt with it. -/
theorem Carries.of_item? {w : Worker} {h : Hold} {item : WorkItem} (hw : w.Carries h)
    (hitem : w.item? = some item) : h.settled = false ∧ h.item = item := by
  unfold Carries at hw
  split at hw
  · rw [hw] at hitem
    cases hitem
  · next hopen => exact ⟨by simpa using hopen, Option.some.inj (hw.symm.trans hitem)⟩

end Worker

theorem getElem?_setWorker {c : Controller} {i : Nat} {w : Worker}
    (h : c.workers[i]? = some w) (w' : Worker) (j : Nat) :
    (c.workers.set i w')[j]? = if i = j then some w' else c.workers[j]? := by
  obtain ⟨hlt, -⟩ := List.getElem?_eq_some_iff.mp h
  rw [List.getElem?_set, if_pos hlt]

/-! ### The session of an execution -/

namespace Execution

variable {x x' : Execution} {s : Session}

/-- A session of the same queue, with the same retries backing off. -/
structure Agrees (x : Execution) (s : Session) : Prop where
  queue : s.queue = x.controller.queue
  backoff : s.backoff = x.controller.tuning.backoff
  timers : s.timers.map (·.retry) = x.retries

/-- A session of the queue of an execution, in which each worker holds what it is at work on. -/
structure Projects (x : Execution) (s : Session) : Prop extends Agrees x s where
  carried : ∀ h ∈ s.holds, ∃ w, x.controller.workers[h.worker]? = some w ∧ w.Carries h
  held : ∀ i w, x.controller.workers[i]? = some w → w.key?.isSome → ∃ h ∈ s.holds, h.worker = i
  /-- The workers begin when the run has waited for the cache. -/
  early : x.controller.stage = .initializing ∨
    (∃ deadline resting, x.controller.stage = .syncing deadline resting) →
      x.controller.workers = []

theorem projects_start (kind : Resource.Kind) (tuning : Tuning) (slots : List Sink.Slot)
    (start : Time.Instant) :
    Projects { controller := .new kind tuning slots start } { backoff := tuning.backoff } where
  queue := rfl
  backoff := rfl
  timers := rfl
  carried := fun _ hmem => nomatch hmem
  held := fun i w hw => by simp [Controller.new] at hw
  early := fun _ => rfl

/-- The item that a worker has not dealt with is held by it. -/
theorem Projects.hold_of_item? (h : x.Projects s) {i : Nat} {w : Worker} {item : WorkItem}
    (hw : x.controller.workers[i]? = some w) (hitem : w.item? = some item) :
    ∃ number, ⟨i, item, number, false⟩ ∈ s.holds := by
  obtain ⟨hold, hmem, rfl⟩ := h.held i w hw (by rw [Worker.key?_of_item? hitem]; rfl)
  obtain ⟨w', hw', hcarries⟩ := h.carried hold hmem
  obtain rfl := Option.some.inj (hw.symm.trans hw')
  obtain ⟨hsettled, rfl⟩ := hcarries.of_item? hitem
  exact ⟨hold.number, by rw [← hsettled]; exact hmem⟩

/-- Where there are no workers, none takes a step. -/
theorem Projects.early_set (h : x.Projects s) {i : Nat} {w : Worker}
    (hstage : x'.controller.stage = x.controller.stage)
    (hworkers : x'.controller.workers = x.controller.workers.set i w)
    (he : x'.controller.stage = .initializing ∨
      (∃ deadline resting, x'.controller.stage = .syncing deadline resting)) :
    x'.controller.workers = [] := by
  rw [hstage] at he
  rw [hworkers, h.early he]
  rfl

/-- A worker goes on with its item; the queue is not touched. -/
theorem Projects.goOn (h : x.Projects s) {i : Nat} {w w' : Worker} {item : WorkItem}
    (hw : x.controller.workers[i]? = some w) (hitem : w.item? = some item)
    (hitem' : w'.item? = some item) (hagrees : x'.Agrees s)
    (hstage : x'.controller.stage = x.controller.stage)
    (hworkers : x'.controller.workers = x.controller.workers.set i w') : x'.Projects s := by
  refine { toAgrees := hagrees, carried := fun hold hmem => ?_,
           held := fun j w₁ hw₁ hkey => ?_, early := h.early_set hstage hworkers }
  · obtain ⟨w₁, hw₁, hcarries⟩ := h.carried hold hmem
    rw [hworkers, getElem?_setWorker hw]
    split
    · next heq =>
      subst heq
      obtain rfl := Option.some.inj (hw.symm.trans hw₁)
      obtain ⟨hsettled, rfl⟩ := hcarries.of_item? hitem
      exact ⟨w', rfl, by simp [Worker.Carries, hsettled, hitem']⟩
    · exact ⟨w₁, hw₁, hcarries⟩
  · rw [hworkers, getElem?_setWorker hw] at hw₁
    split at hw₁
    · next heq =>
      subst heq
      exact h.held i w hw (by rw [Worker.key?_of_item? hitem]; rfl)
    · exact h.held j w₁ hw₁ hkey

/-- A worker has dealt with its item. -/
theorem Projects.settle (h : x.Projects s) {s' : Session} {i : Nat} {w : Worker}
    {item : WorkItem} (hw : x.controller.workers[i]? = some w) (hitem : w.item? = some item)
    (hagrees : x'.Agrees s')
    (hholds : s'.holds = Session.settle s.holds i item.key)
    (hstage : x'.controller.stage = x.controller.stage)
    (hworkers : x'.controller.workers = x.controller.workers.set i (.releasing item.key)) :
    x'.Projects s' := by
  refine { toAgrees := hagrees, carried := fun hold hmem => ?_,
           held := fun j w₁ hw₁ hkey => ?_, early := h.early_set hstage hworkers }
  · rw [hholds] at hmem
    obtain ⟨old, hold', rfl⟩ := List.mem_map.mp hmem
    obtain ⟨w₁, hw₁, hcarries⟩ := h.carried old hold'
    rw [hworkers]
    by_cases hown : old.worker = i
    · -- the worker holds nothing but its item
      subst hown
      obtain rfl := Option.some.inj (hw.symm.trans hw₁)
      obtain ⟨-, rfl⟩ := hcarries.of_item? hitem
      rw [if_pos ⟨rfl, rfl⟩, getElem?_setWorker hw, if_pos rfl]
      exact ⟨_, rfl, by simp [Worker.Carries]⟩
    · rw [if_neg fun hboth => hown hboth.1, getElem?_setWorker hw, if_neg (Ne.symm hown)]
      exact ⟨w₁, hw₁, hcarries⟩
  · rw [hworkers, getElem?_setWorker hw] at hw₁
    have hfound : ∃ hold ∈ s.holds, hold.worker = j := by
      split at hw₁
      · next heq =>
        subst heq
        exact h.held i w hw (by rw [Worker.key?_of_item? hitem]; rfl)
      · exact h.held j w₁ hw₁ hkey
    obtain ⟨hold, hmem, rfl⟩ := hfound
    rw [hholds]
    exact ⟨_, List.mem_map_of_mem hmem, by split <;> rfl⟩

/-- A worker releases its key. -/
theorem Projects.release (h : x.Projects s) {s' : Session} {i : Nat} {key : String}
    (hw : x.controller.workers[i]? = some (.releasing key))
    (hagrees : x'.Agrees s')
    (hholds : s'.holds = Session.release s.holds i key)
    (hstage : x'.controller.stage = x.controller.stage)
    (hworkers : x'.controller.workers = x.controller.workers.set i .idle) :
    x'.Projects s' := by
  refine { toAgrees := hagrees, carried := fun hold hmem => ?_,
           held := fun j w₁ hw₁ hkey => ?_, early := h.early_set hstage hworkers }
  · rw [hholds] at hmem
    obtain ⟨hold', hother⟩ := List.mem_filter.mp hmem
    obtain ⟨w₁, hw₁, hcarries⟩ := h.carried hold hold'
    -- what is left belongs to other workers: this one held its key and no more
    have hne : i ≠ hold.worker := fun heq => by
      subst heq
      obtain rfl := Option.some.inj (hw.symm.trans hw₁)
      have hkey := hcarries.key?
      simp_all [Worker.key?]
    rw [hworkers, getElem?_setWorker hw, if_neg hne]
    exact ⟨w₁, hw₁, hcarries⟩
  · rw [hworkers, getElem?_setWorker hw] at hw₁
    split at hw₁
    · obtain rfl := Option.some.inj hw₁
      cases hkey
    · next hne =>
      obtain ⟨hold, hmem, rfl⟩ := h.held j w₁ hw₁ hkey
      rw [hholds]
      exact ⟨hold, List.mem_filter.mpr ⟨hmem, by simp [Ne.symm hne]⟩, rfl⟩

/-- The run or the queue goes on without touching the workers. -/
theorem Projects.serve (h : x.Projects s) {s' : Session} (hagrees : x'.Agrees s')
    (hholds : s'.holds = s.holds)
    (hworkers : x'.controller.workers = x.controller.workers)
    (hearly : x'.controller.stage = .initializing ∨
      (∃ deadline resting, x'.controller.stage = .syncing deadline resting) →
        x.controller.workers = []) : x'.Projects s' where
  toAgrees := hagrees
  carried := by rw [hholds, hworkers]; exact h.carried
  held := by rw [hholds, hworkers]; exact h.held
  early := fun he => hworkers ▸ hearly he

/-- The queue is shut down. -/
theorem Projects.shutDown (h : x.Projects s)
    (hqueue : x'.controller.queue = x.controller.queue.shutDown)
    (htuning : x'.controller.tuning = x.controller.tuning)
    (hworkers : x'.controller.workers = x.controller.workers) (hretries : x'.retries = x.retries)
    (hlate : x'.controller.stage = .draining ∨ ∃ failure, x'.controller.stage = .stopped failure) :
    x'.Projects (s.apply .shutDown) := by
  refine h.serve ⟨?_, htuning ▸ h.backoff, hretries ▸ h.timers⟩ rfl hworkers fun he => ?_
  · rw [hqueue, ← h.queue]
    rfl
  · rcases hlate with hlate | ⟨failure, hlate⟩
    · simp [hlate] at he
    · simp [hlate] at he

/-- The workers begin, all of them idle. -/
theorem Projects.startWorkers (h : x.Projects s) (hworkers : x.controller.workers = [])
    {now : Nat} {synced : Bool} {count : Nat} :
    (x.after (.check now synced) ({ x.controller with
      stage := .running
      workers := List.replicate count .idle }, [])).Projects s := by
  have hholds : ∀ hold, hold ∉ s.holds := fun hold hmem => by
    obtain ⟨w, hw, -⟩ := h.carried hold hmem
    simp [hworkers] at hw
  refine { toAgrees := ⟨h.queue, h.backoff, h.timers.trans (List.append_nil _).symm⟩,
           carried := fun hold hmem => absurd hmem (hholds hold),
           held := fun i w hw hkey => ?_, early := fun he => by simp [after] at he }
  obtain rfl : w = .idle := List.eq_of_mem_replicate (List.mem_of_getElem? hw)
  cases hkey

/-- A notification is an item that is added, or none. -/
theorem Projects.notify (h : x.Projects s) (call : Watch.Call)
    (hmove : x.advance? (.notify call) = some x') :
    x'.Projects s ∨ ∃ item, x'.Projects (s.apply (.add item)) := by
  obtain rfl := Option.some.inj hmove
  have hadd : ∀ key action version,
      Projects { x with controller := x.controller.enqueue key action version }
        (s.apply (.add ⟨key, x.controller.kind, action, version⟩)) := fun key action version => by
    refine h.serve ⟨?_, h.backoff, h.timers⟩ rfl rfl h.early
    show (s.queue.add _).1 = _
    rw [h.queue]
    rfl
  cases call with
  | add key version => exact .inr ⟨_, hadd key .create version⟩
  | delete key version => exact .inr ⟨_, hadd key .delete version⟩
  | update key old new =>
    simp only [Watch.Call.notify, onUpdate]
    split
    · exact .inl (h.serve ⟨h.queue, h.backoff, h.timers⟩ rfl rfl h.early)
    · exact .inr ⟨_, hadd key .update new⟩

/-- A worker that held nothing holds what the session says it was handed, if anything. -/
theorem Projects.begin (h : x.Projects s) {s' : Session} {i : Nat} {w : Worker} (w' : Worker)
    (hw : x.controller.workers[i]? = some w) (hkey : w.key? = none)
    (hagrees : x'.Agrees s')
    (hstage : x'.controller.stage = x.controller.stage)
    (hworkers : x'.controller.workers = x.controller.workers.set i w')
    (hholds : (w'.key? = none ∧ s'.holds = s.holds) ∨
      ∃ hold, hold.worker = i ∧ w'.Carries hold ∧ s'.holds = hold :: s.holds) :
    x'.Projects s' := by
  -- a worker that holds nothing is none of those that carry a hold
  have hother : ∀ hold ∈ s.holds, ∃ w₁, x'.controller.workers[hold.worker]? = some w₁ ∧
      w₁.Carries hold := fun hold hmem => by
    obtain ⟨w₁, hw₁, hcarries⟩ := h.carried hold hmem
    have hne : i ≠ hold.worker := fun heq => by
      subst heq
      obtain rfl := Option.some.inj (hw.symm.trans hw₁)
      cases hkey.symm.trans hcarries.key?
    exact ⟨w₁, by rw [hworkers, getElem?_setWorker hw, if_neg hne, hw₁], hcarries⟩
  refine { toAgrees := hagrees, carried := fun hold hmem => ?_,
           held := fun j w₁ hw₁ hkey₁ => ?_, early := h.early_set hstage hworkers }
  · rcases hholds with ⟨-, hsame⟩ | ⟨new, rfl, hcarries, hnew⟩
    · exact hother hold (hsame ▸ hmem)
    · rcases List.mem_cons.mp (hnew ▸ hmem) with rfl | hmem
      · exact ⟨w', by rw [hworkers, getElem?_setWorker hw, if_pos rfl], hcarries⟩
      · exact hother hold hmem
  · rw [hworkers, getElem?_setWorker hw] at hw₁
    split at hw₁
    · next heq =>
      subst heq
      obtain rfl := Option.some.inj hw₁
      rcases hholds with ⟨hnone, -⟩ | ⟨new, rfl, -, hnew⟩
      · rw [hnone] at hkey₁
        cases hkey₁
      · exact ⟨new, hnew ▸ List.mem_cons_self, rfl⟩
    · obtain ⟨hold, hmem, rfl⟩ := h.held j w₁ hw₁ hkey₁
      refine ⟨hold, ?_, rfl⟩
      rcases hholds with ⟨-, hsame⟩ | ⟨new, -, -, hnew⟩
      · exact hsame ▸ hmem
      · exact hnew ▸ List.mem_cons_of_mem _ hmem

/-- A worker that is idle may ask for an item. -/
theorem Projects.protocol_take (h : x.Projects s) {i : Nat}
    (hidle : x.controller.workers[i]? = some .idle) : s.Protocol (.take i) := by
  intro hold hmem heq
  subst heq
  obtain ⟨w, hw, hcarries⟩ := h.carried hold hmem
  obtain rfl := Option.some.inj (hidle.symm.trans hw)
  cases hcarries.key?

/-- A worker that finds nothing to take clears the queue of waiting keys. -/
theorem Projects.clear (h : x.Projects s) {i : Nat}
    (htake : x.controller.queue.take = ({ x.controller.queue with waiting := [] }, .empty)) :
    (x.after (.take i) ({ x.controller with
      queue := { x.controller.queue with waiting := [] } }, [])).Projects (s.apply (.take i)) := by
  show Projects _ (s.applyTake i)
  unfold Session.applyTake
  rw [h.queue, htake]
  exact h.serve ⟨rfl, h.backoff, h.timers.trans (List.append_nil _).symm⟩ rfl rfl h.early

/-- The session takes from the same queue, so that it is handed the same item. -/
theorem Projects.take (h : x.Projects s) {i : Nat} {queue : WorkQueue} {item : WorkItem}
    (hidle : x.controller.workers[i]? = some .idle)
    (htake : x.controller.queue.take = (queue, .item item)) :
    (x.after (.take i) ({ x.controller with queue }.setWorker i (.holding item), [])).Projects
      (s.apply (.take i)) := by
  show Projects _ (s.applyTake i)
  unfold Session.applyTake
  rw [h.queue, htake]
  exact h.begin (.holding item) hidle rfl
    ⟨rfl, h.backoff, h.timers.trans (List.append_nil _).symm⟩ rfl rfl
    (.inr ⟨⟨i, item, s.pendingNumber item.key, false⟩, rfl, rfl, rfl⟩)

/-- A worker whose item failed asks for a retry. -/
theorem Projects.requeue (h : x.Projects s) {i failures number : Nat} {item : WorkItem}
    (hw : x.controller.workers[i]? = some (.requeueing item failures)) :
    (x.after (.requeue i)
      (({ x.controller with
          queue := (x.controller.queue.addRateLimited x.controller.tuning.backoff item).1 }.record
        .requeue).setWorker i (.releasing item.key),
        [.matureAfter (x.controller.queue.addRateLimited x.controller.tuning.backoff item).2.2
          (x.controller.queue.addRateLimited x.controller.tuning.backoff item).2.1])).Projects
      (s.apply (.retry i item number)) := by
  refine h.settle hw rfl ⟨?_, h.backoff, ?_⟩ rfl rfl rfl
  · show (s.queue.addRateLimited s.backoff item).1 = _
    rw [h.queue, h.backoff]
    rfl
  · show List.map _ (s.timers ++ _) = _
    rw [List.map_append, h.timers, h.queue, h.backoff]
    rfl

/-- A worker that releases its key has dealt with the item, as the protocol asks. -/
theorem Projects.protocol_done (h : x.Projects s) {i : Nat} {key : String}
    (hw : x.controller.workers[i]? = some (.releasing key)) : s.Protocol (.done i key) := by
  obtain ⟨hold, hmem, rfl⟩ := h.held i _ hw rfl
  obtain ⟨w, hw', hcarries⟩ := h.carried hold hmem
  obtain rfl := Option.some.inj (hw.symm.trans hw')
  have hkey : key = hold.item.key := Option.some.inj hcarries.key?
  have hsettled : hold.settled = true := by
    by_contra hopen
    simp [Worker.Carries, hopen, Worker.item?] at hcarries
  exact ⟨hold, hmem, rfl, hkey.symm, hsettled⟩

/-- The end of a backoff. -/
theorem Projects.mature (h : x.Projects s) {position : Nat}
    (hmove : x.advance? (.mature position) = some x') :
    x'.Projects (s.apply (.mature position)) := by
  simp only [advance?] at hmove
  split at hmove
  · next retry hretry =>
    obtain rfl := Option.some.inj hmove
    rw [← h.timers, List.getElem?_map, Option.map_eq_some_iff] at hretry
    obtain ⟨t, ht, rfl⟩ := hretry
    simp only [Session.apply, ht]
    refine h.serve ⟨congrArg (fun q => (q.mature t.retry).1) h.queue, h.backoff, ?_⟩ rfl rfl h.early
    show (s.timers.eraseIdx position).map (·.retry) = x.retries.eraseIdx position ++ _
    rw [← List.eraseIdx_map, h.timers]
    exact (List.append_nil _).symm
  · cases hmove

/-- A step that is taken in an execution is no end of a backoff. -/
theorem does_of_act {step : Step} (hmove : x.advance? (.act step) = some x') :
    (∀ retry, step ≠ .mature retry) ∧
      ∃ c effects, x.controller.Does step c effects ∧ x' = x.after step (c, effects) := by
  have hstep : (∀ retry, step ≠ .mature retry) ∧
      (x.controller.step step).map (x.after step) = some x' := by
    cases step with
    | mature retry => cases hmove
    | _ => exact ⟨by simp, hmove⟩
  obtain ⟨⟨c, effects⟩, htaken, rfl⟩ := Option.map_eq_some_iff.mp hstep.2
  exact ⟨hstep.1, c, effects, does_of_step htaken, rfl⟩

/-- A step is an operation of the session, or none. -/
theorem Projects.act (h : x.Projects s) {step : Step} {c : Controller} {effects : List Effect}
    (hdoes : x.controller.Does step c effects) (hstep : ∀ retry, step ≠ .mature retry) :
    (x.after step (c, effects)).Projects s ∨
      ∃ op, s.Protocol op ∧ (x.after step (c, effects)).Projects (s.apply op) := by
  have hnil : x.retries ++ askedRetries [] = x.retries := List.append_nil _
  -- most steps ask for no retry
  have htimers := h.timers.trans hnil.symm
  cases hdoes with
  | mature retry => exact absurd rfl (hstep retry)
  | start now hstage =>
    exact .inl (h.serve ⟨h.queue, h.backoff, htimers⟩ rfl rfl fun _ => h.early (.inl hstage))
  | begun now deadline hstage =>
    exact .inl (h.startWorkers (h.early (.inr ⟨deadline, false, hstage⟩)))
  | late => exact .inr ⟨.shutDown, trivial, h.shutDown rfl rfl rfl hnil (.inr ⟨_, rfl⟩)⟩
  | early now deadline hstage =>
    exact .inl (h.serve ⟨h.queue, h.backoff, htimers⟩ rfl rfl
      fun _ => h.early (.inr ⟨deadline, false, hstage⟩))
  | tick deadline hstage =>
    exact .inl (h.serve ⟨h.queue, h.backoff, htimers⟩ rfl rfl
      fun _ => h.early (.inr ⟨deadline, true, hstage⟩))
  | stop => exact .inl (h.serve ⟨h.queue, h.backoff, htimers⟩ rfl rfl h.early)
  | abandon => exact .inr ⟨.shutDown, trivial, h.shutDown rfl rfl rfl hnil (.inr ⟨_, rfl⟩)⟩
  | drain => exact .inr ⟨.shutDown, trivial, h.shutDown rfl rfl rfl hnil (.inl rfl)⟩
  | finish =>
    exact .inl (h.serve ⟨h.queue, h.backoff, htimers⟩ rfl rfl fun he => by simp [after] at he)
  | exit i hidle =>
    exact .inl (h.begin .exited hidle rfl ⟨h.queue, h.backoff, htimers⟩ rfl rfl (.inl ⟨rfl, rfl⟩))
  | clear i hidle htake => exact .inr ⟨.take i, h.protocol_take hidle, h.clear htake⟩
  | take i queue item hidle htake =>
    exact .inr ⟨.take i, h.protocol_take hidle, h.take hidle htake⟩
  | fail i found item fault hw =>
    exact .inl (h.goOn hw rfl rfl ⟨h.queue, h.backoff, htimers⟩ rfl rfl)
  | skip i found item hw =>
    exact .inl (h.goOn hw rfl rfl ⟨h.queue, h.backoff, htimers⟩ rfl rfl)
  | send i found item notification event hw =>
    have hframe := x.controller.frame_keep item.key found (.send notification event)
    have hnone : askedRetries (x.controller.enabledSinks.map fun sink =>
        .deliver i sink notification event) = [] := by simp [askedRetries]
    refine .inl (h.goOn hw rfl (item?_awaiting item x.controller.enabledSinks)
      ⟨h.queue.trans hframe.queue.symm, ?_, ?_⟩ hframe.stage
      (congrArg (List.set · i _) hframe.workers))
    · exact h.backoff.trans (congrArg (·.backoff) hframe.tuning.symm)
    · simp only [after, hnone, List.append_nil, h.timers]
  | delivered i sink item pending hw =>
    exact .inl (h.goOn hw rfl (item?_awaiting _ _) ⟨h.queue, h.backoff, htimers⟩ rfl rfl)
  | succeed i item hw =>
    obtain ⟨number, hhold⟩ := h.hold_of_item? hw rfl
    exact .inr ⟨.forget i item.key, ⟨_, hhold, rfl, rfl, rfl⟩, h.settle hw rfl
      ⟨congrArg (·.forget item.key) h.queue, h.backoff, htimers⟩ rfl rfl rfl⟩
  | count i item fault hw =>
    exact .inl (h.goOn hw rfl rfl ⟨h.queue, h.backoff, htimers⟩ rfl rfl)
  | requeue i item failures hw =>
    obtain ⟨number, hhold⟩ := h.hold_of_item? hw rfl
    exact .inr ⟨.retry i item number, hhold, h.requeue hw⟩
  | drop i item failures hw =>
    obtain ⟨number, hhold⟩ := h.hold_of_item? hw rfl
    exact .inr ⟨.forget i item.key, ⟨_, hhold, rfl, rfl, rfl⟩, h.settle hw rfl
      ⟨congrArg (·.forget item.key) h.queue, h.backoff, htimers⟩ rfl rfl rfl⟩
  | release i key hw =>
    exact .inr ⟨.done i key, h.protocol_done hw, h.release hw
      ⟨congrArg (fun q => (q.done key).1) h.queue, h.backoff, htimers⟩ rfl rfl rfl⟩

/-- A move of an execution is an operation of its session, or none. -/
theorem Projects.move (h : x.Projects s) {move : Move} (hmove : x.advance? move = some x') :
    x'.Projects s ∨ ∃ op, s.Protocol op ∧ x'.Projects (s.apply op) := by
  cases move with
  | notify call =>
    rcases h.notify call hmove with hsame | ⟨item, hadd⟩
    · exact .inl hsame
    · exact .inr ⟨.add item, trivial, hadd⟩
  | act step =>
    obtain ⟨hstep, c, effects, hdoes, rfl⟩ := does_of_act hmove
    exact h.act hdoes hstep
  | mature position => exact .inr ⟨.mature position, trivial, h.mature hmove⟩

/-- **The queue of a controller only sees the workers' protocol.** Every execution goes with a
session of its queue under that protocol, in which each worker holds what it is at work on and the
retries that back off are those that were asked for. -/
theorem Reachable.exists_session {kind : Resource.Kind} {tuning : Tuning}
    {slots : List Sink.Slot} {start : Time.Instant}
    (h : Reachable (.new kind tuning slots start) x) :
    ∃ s, Session.Reachable Session.Protocol tuning.backoff s ∧ x.Projects s := by
  induction h with
  | start => exact ⟨_, .start, projects_start kind tuning slots start⟩
  | move _ hmove ih =>
    obtain ⟨s, hrun, hproj⟩ := ih
    rcases hproj.move hmove with hsame | ⟨op, hop, hnext⟩
    · exact ⟨s, hrun, hsame⟩
    · exact ⟨_, .step hrun hop, hnext⟩

/-! ### What follows for the workers -/

section

variable {kind : Resource.Kind} {tuning : Tuning} {slots : List Sink.Slot} {start : Time.Instant}

theorem Reachable.consistent (h : Reachable (.new kind tuning slots start) x) :
    x.controller.queue.Consistent := by
  obtain ⟨s, hrun, hproj⟩ := h.exists_session
  exact hproj.queue ▸ (hrun.mono fun _ _ => Session.Protocol.exclusive).tidy.consistent

/-- A key is in process exactly when a worker has not released it. -/
theorem Reachable.processing_iff (h : Reachable (.new kind tuning slots start) x) (key : String) :
    key ∈ x.controller.queue.processing ↔
      ∃ (i : Nat) (w : Worker), x.controller.workers[i]? = some w ∧ w.key? = some key := by
  obtain ⟨s, hrun, hproj⟩ := h.exists_session
  have ht := (hrun.mono fun _ _ => Session.Protocol.exclusive).tidy
  rw [← hproj.queue, ht.held_iff]
  constructor
  · intro hheld
    obtain ⟨hold, hmem, rfl⟩ := List.mem_map.mp hheld
    obtain ⟨w, hw, hcarries⟩ := hproj.carried hold hmem
    exact ⟨hold.worker, w, hw, hcarries.key?⟩
  · rintro ⟨i, w, hw, hkey⟩
    obtain ⟨hold, hmem, rfl⟩ := hproj.held i w hw (by rw [hkey]; rfl)
    obtain ⟨w', hw', hcarries⟩ := hproj.carried hold hmem
    obtain rfl := Option.some.inj (hw.symm.trans hw')
    obtain rfl := Option.some.inj (hkey.symm.trans hcarries.key?)
    exact List.mem_map_of_mem hmem

/-- No two workers are at work on one key. -/
theorem Reachable.worker_unique (h : Reachable (.new kind tuning slots start) x) {i j : Nat}
    {w w' : Worker} {key : String} (hw : x.controller.workers[i]? = some w)
    (hw' : x.controller.workers[j]? = some w') (hkey : w.key? = some key)
    (hkey' : w'.key? = some key) : i = j := by
  obtain ⟨s, hrun, hproj⟩ := h.exists_session
  have ht := (hrun.mono fun _ _ => Session.Protocol.exclusive).tidy
  have hold_of : ∀ (k : Nat) (w : Worker), x.controller.workers[k]? = some w → w.key? = some key →
      ∃ hold ∈ s.holds, hold.worker = k ∧ hold.item.key = key := fun k w hw hkey => by
    obtain ⟨hold, hmem, rfl⟩ := hproj.held k w hw (by rw [hkey]; rfl)
    obtain ⟨w', hw', hcarries⟩ := hproj.carried hold hmem
    obtain rfl := Option.some.inj (hw.symm.trans hw')
    exact ⟨hold, hmem, rfl, Option.some.inj (hcarries.key?.symm.trans hkey)⟩
  obtain ⟨hold, hmem, rfl, hsame⟩ := hold_of i w hw hkey
  obtain ⟨hold', hmem', rfl, hsame'⟩ := hold_of j w' hw' hkey'
  exact congrArg Hold.worker
    (List.inj_on_of_nodup_map ht.held_once hmem hmem' (hsame.trans hsame'.symm))

/-- There are no workers before the run has waited for the cache. -/
theorem Reachable.workers_eq_nil (h : Reachable (.new kind tuning slots start) x)
    (hstage : x.controller.stage = .initializing ∨
      ∃ deadline resting, x.controller.stage = .syncing deadline resting) :
    x.controller.workers = [] := by
  obtain ⟨s, -, hproj⟩ := h.exists_session
  exact hproj.early hstage

/-- A queue that was shut down stays so. -/
theorem Reachable.closed_of_closed (h : Reachable (.new kind tuning slots start) x) {move : Move}
    (hmove : x.advance? move = some x') (hclosed : x.controller.queue.closed = true) :
    x'.controller.queue.closed = true := by
  obtain ⟨s, -, hproj⟩ := h.exists_session
  rcases hproj.move hmove with hsame | ⟨op, -, hnext⟩
  · rw [← hsame.queue, hproj.queue, hclosed]
  · rw [← hnext.queue]
    exact s.closed_apply (by rw [hproj.queue, hclosed]) op

end

end Execution

end ClusterWatch.Controller
