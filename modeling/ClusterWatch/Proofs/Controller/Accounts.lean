import ClusterWatch.Proofs.Controller.Requeues
import Mathlib.Data.List.Forall2
import Mathlib.Data.List.Perm.Basic
/-!
# Attempts are accounted for

Every item that is handed out is looked up once and handled once, by the worker that got it. What
the controller has counted is what these attempts have come to, and the notifications that brought
nothing new.

- `Handout`, `Execution.handouts`: the items that were handed out.
- `Execution.Enters`: what a move adds to the books, which are the items handed out, the visits and
  the handlings, and what it counts.
- `Balanced`: the books of a worker, by what it is doing. Those of a worker that is not at work on
  an item are balanced: each item was visited once and each visit was handled once.
- `Tallied`: the counts agree with the books.

Main result: `Execution.attempts_accounted`.
-/

namespace ClusterWatch.Controller

open Sink (Notification)

/-- An item was handed out to a worker. -/
structure Handout where
  worker : Nat
  item : WorkItem
  deriving DecidableEq, Repr

/-! ### Counts -/

/-- The counts after an outcome. -/
def Outcome.count (m : Metrics) : Outcome → Metrics
  | .failed _ => m
  | .skipped => m.record .updateSkipped
  | .send notification _ =>
    (if notification = .replayed then m.record .replay else m).record .dispatch

/-- The counts after a verdict. -/
def Verdict.count (m : Metrics) : Verdict → Metrics
  | .succeeded => m
  | .requeued _ => m.record .requeue
  | .dropped => m.record .drop

/-- Whether an item was queued again. -/
def Verdict.isRequeued : Verdict → Bool
  | .requeued _ => true
  | .succeeded | .dropped => false

theorem metrics_observe (c : Controller) (key : String) (r : Resource) :
    (c.observe key r).metrics = c.metrics := by
  unfold observe
  split <;> rfl

/-- What is kept of an outcome is counted as that outcome. -/
theorem metrics_keep (c : Controller) (key : String) (found : Except Fault (Option Resource))
    (outcome : Outcome) : (c.keep key found outcome).metrics = outcome.count c.metrics := by
  unfold keep
  split
  · rfl
  · rfl
  · rfl
  · next notification event _ =>
    have hcounted : ∀ c' : Controller, c'.metrics = c.metrics →
        ((if notification = .replayed then c'.record .replay else c').record .dispatch).metrics =
          Outcome.count c.metrics (.send notification event) := by
      intro c' hsame
      rw [← hsame]
      by_cases hreplayed : notification = .replayed
      · simp only [Outcome.count, if_pos hreplayed]
        rfl
      · simp only [Outcome.count, if_neg hreplayed]
        rfl
    cases found with
    | error fault => exact hcounted c rfl
    | ok object =>
      cases object with
      | none => exact hcounted c rfl
      | some r => exact hcounted _ (c.metrics_observe key r)

namespace Visit

/-- A visit that a sink is told of is neither skipped nor failed, and so on: every visit has one
outcome. -/
theorem length_eq (visits : List Visit) :
    visits.length = visits.countP (·.told?.isSome) + visits.countP (·.outcome = .skipped) +
      visits.countP (·.failure?.isSome) := by
  induction visits with
  | nil => rfl
  | cons v visits ih =>
    rw [List.length_cons, List.countP_cons, List.countP_cons, List.countP_cons, ih]
    cases houtcome : v.outcome with
    | failed fault => simp [told?, failure?, houtcome]; omega
    | skipped => simp [told?, failure?, houtcome]; omega
    | send notification event => simp [told?, failure?, houtcome]; omega

/-- A sink is not told of a failed visit. -/
theorem told?_of_failure? {v : Visit} (h : v.failure?.isSome) : v.told? = none := by
  unfold failure? at h
  unfold told?
  split at h
  · next heq => rw [heq]
  · cases h
  · cases h

end Visit

/-! ### The books of a worker -/

/-- The handling of a visit: its item is dealt with as failed exactly when the visit has failed. -/
def Resolves (v : Visit) (a : Handling) : Prop :=
  a.worker = v.worker ∧ a.item = v.item ∧ (a.verdict ≠ .succeeded ↔ v.failure?.isSome)

/-- Each item that was handed out was visited once, and each visit was handled once. -/
def Closed (items : List WorkItem) (visits : List Visit) (handled : List Handling) : Prop :=
  items = visits.map (·.item) ∧ List.Forall₂ Resolves visits handled

namespace Execution

/-- The books of a worker, the last entries first, by what it is doing: it may have an item that it
has not visited, or a visit that it has not handled. -/
def Balanced (items : List WorkItem) (visits : List Visit) (handled : List Handling) :
    Worker → Prop
  | .idle | .releasing _ | .exited => Closed items visits handled
  | .holding item => ∃ older, items = item :: older ∧ Closed older visits handled
  | w => ∃ v older, visits = v :: older ∧ DealsWith (some v) w ∧ items = visits.map (·.item) ∧
      List.Forall₂ Resolves older handled

/-- The item that a move hands out. -/
def handout? : Execution × Move → Option Handout
  | (x, .act (.take i)) =>
    match x.controller.workers[i]?, x.controller.queue.take.2 with
    | some .idle, .item item => some ⟨i, item⟩
    | _, _ => none
  | _ => none

/-- The items that were handed out on a path, the last first. -/
def handouts (past : List (Execution × Move)) : List Handout :=
  past.filterMap handout?

/-- Whether a move is the notification of an update that brings the version known before. -/
def Move.isResync : Move → Bool
  | .notify (.update _ old new) => old.isSome && old == new
  | .notify (.add ..) | .notify (.delete ..) | .act _ | .mature _ => false

variable {c : Controller} {x x' : Execution} {past : List (Execution × Move)}
  {kind : Resource.Kind} {tuning : Tuning} {slots : List Sink.Slot} {start : Time.Instant}

/-- What a step adds to the books, and what it counts. -/
inductive Enters (x x' : Execution) : Option Handout → Option Visit → Option Handling → Prop
  /-- No worker does anything, unless all of them begin. -/
  | aside :
      (x'.controller.workers = x.controller.workers ∨
        x.controller.workers = [] ∧ ∀ w ∈ x'.controller.workers, w = .idle) →
      x'.controller.metrics = x.controller.metrics → Enters x x' none none none
  /-- A worker goes on. -/
  | goesOn (i : Nat) (w w' : Worker) : x.controller.workers[i]? = some w →
      x'.controller.workers = x.controller.workers.set i w' →
      (∀ {items visits handled}, Balanced items visits handled w →
        Balanced items visits handled w') →
      x'.controller.metrics = x.controller.metrics → Enters x x' none none none
  | handed (i : Nat) (item : WorkItem) : x.controller.workers[i]? = some .idle →
      x'.controller.workers = x.controller.workers.set i (.holding item) →
      x'.controller.metrics = x.controller.metrics → Enters x x' (some ⟨i, item⟩) none none
  | visited (v : Visit) (w : Worker) :
      x.controller.workers[v.worker]? = some (.holding v.item) →
      x'.controller.workers = x.controller.workers.set v.worker w →
      (∀ {items visits handled}, Closed items visits handled →
        Balanced (v.item :: items) (v :: visits) handled w) →
      x'.controller.metrics = v.outcome.count x.controller.metrics →
      Enters x x' none (some v) none
  | handled (a : Handling) (w : Worker) : x.controller.workers[a.worker]? = some w →
      x'.controller.workers = x.controller.workers.set a.worker (.releasing a.item.key) →
      (∀ {items visits handled}, (∀ v ∈ visits, v.worker = a.worker) →
        Balanced items visits handled w → Closed items visits (a :: handled)) →
      x'.controller.metrics = a.verdict.count x.controller.metrics →
      Enters x x' none none (some a)

/-- A worker that has looked its item up without a failure. -/
theorem balanced_awaiting {v : Visit} (hfailure : v.failure? = none) (pending : List Nat)
    {items : List WorkItem} {visits : List Visit} {handled : List Handling}
    (h : Closed items visits handled) :
    Balanced (v.item :: items) (v :: visits) handled (awaiting v.item pending) := by
  obtain ⟨rfl, hresolved⟩ := h
  have hdeals := dealsWith_awaiting hfailure pending
  cases pending with
  | nil => exact ⟨v, visits, rfl, hdeals, rfl, hresolved⟩
  | cons sink pending => exact ⟨v, visits, rfl, hdeals, rfl, hresolved⟩

/-- A worker goes on with the sinks that it waits for. -/
theorem Balanced.delivered {items : List WorkItem} {visits : List Visit} {handled : List Handling}
    {item : WorkItem} {pending : List Nat}
    (h : Balanced items visits handled (.delivering item pending)) (rest : List Nat) :
    Balanced items visits handled (awaiting item rest) := by
  obtain ⟨v, older, rfl, ⟨v', hv, rfl, hfailure⟩, rfl, hresolved⟩ := h
  obtain rfl := Option.some.inj hv
  exact balanced_awaiting hfailure rest ⟨rfl, hresolved⟩

/-- A worker handles a visit that has not failed. -/
theorem Balanced.succeeded {items : List WorkItem} {visits : List Visit} {handled : List Handling}
    {i : Nat} {item : WorkItem} (h : Balanced items visits handled (.settling item none))
    (howner : ∀ v ∈ visits, v.worker = i) :
    Closed items visits (⟨i, item, .succeeded⟩ :: handled) := by
  obtain ⟨v, older, rfl, ⟨v', hv, rfl, hfailure⟩, rfl, hresolved⟩ := h
  obtain rfl := Option.some.inj hv
  refine ⟨rfl, .cons ⟨(howner v List.mem_cons_self).symm, rfl, ?_⟩ hresolved⟩
  simp [hfailure]

/-- A worker handles a visit that has failed. -/
theorem Balanced.failed {items : List WorkItem} {visits : List Visit} {handled : List Handling}
    {i n : Nat} {item : WorkItem} {verdict : Verdict}
    (h : Balanced items visits handled (.requeueing item n))
    (howner : ∀ v ∈ visits, v.worker = i) (hverdict : verdict ≠ .succeeded) :
    Closed items visits (⟨i, item, verdict⟩ :: handled) := by
  obtain ⟨v, older, rfl, ⟨v', hv, rfl, hfailure⟩, rfl, hresolved⟩ := h
  obtain rfl := Option.some.inj hv
  exact ⟨rfl, .cons ⟨(howner v List.mem_cons_self).symm, rfl, iff_of_true hverdict hfailure⟩
    hresolved⟩

/-- A worker reads how often the key of a failed visit has failed. -/
theorem Balanced.counted {items : List WorkItem} {visits : List Visit} {handled : List Handling}
    {item : WorkItem} {fault : Fault}
    (h : Balanced items visits handled (.settling item (some fault))) (n : Nat) :
    Balanced items visits handled (.requeueing item n) := by
  obtain ⟨v, older, rfl, ⟨v', hv, rfl, hfailure⟩, rfl, hresolved⟩ := h
  obtain rfl := Option.some.inj hv
  exact ⟨v, older, rfl, ⟨v, rfl, rfl, by rw [hfailure]; rfl⟩, rfl, hresolved⟩

/-- Each step enters what it does into the books. -/
theorem enters_of_does {step : Step} {c : Controller} {effects : List Effect}
    (hstaged : x.controller.Staged) (hdoes : x.controller.Does step c effects)
    (heffects : asks (x, .act step) = effects) :
    x.Enters (x.after step (c, effects)) (handout? (x, .act step)) (visit? (x, .act step))
      (handling? (x, .act step)) := by
  cases hdoes with
  | start | late | early | tick | stop | abandon | drain | finish =>
    exact .aside (.inl rfl) rfl
  | mature retry => exact .aside (.inl rfl) rfl
  -- the workers are there from now on, and all of them are idle
  | begun now deadline hstage =>
    exact .aside (.inr ⟨hstaged.early (.inr ⟨deadline, false, hstage⟩),
      fun w hw => List.eq_of_mem_replicate hw⟩) rfl
  | clear i hidle htake =>
    simp only [handout?, hidle, htake]
    exact .aside (.inl rfl) rfl
  -- the queue hands out nothing to a worker that leaves
  | exit i hidle hclosed =>
    have htake : x.controller.queue.take = (x.controller.queue, .closed) := if_pos hclosed
    simp only [handout?, hidle, htake]
    exact .goesOn i _ _ hidle rfl id rfl
  | take i queue item hidle htake =>
    simp only [handout?, hidle, htake]
    exact .handed i item hidle rfl rfl
  | fail i found item fault hw houtcome =>
    simp only [visit?, hw, houtcome]
    exact .visited ⟨i, item, found, .failed fault⟩ _ hw rfl
      (fun h => ⟨_, _, rfl, ⟨_, rfl, rfl, rfl⟩, congrArg _ h.1, h.2⟩) rfl
  | skip i found item hw houtcome =>
    simp only [visit?, hw, houtcome]
    exact .visited ⟨i, item, found, .skipped⟩ _ hw rfl
      (fun h => ⟨_, _, rfl, ⟨_, rfl, rfl, rfl⟩, congrArg _ h.1, h.2⟩) rfl
  | send i found item notification event hw houtcome =>
    have hframe := x.controller.frame_keep item.key found (.send notification event)
    simp only [visit?, hw, houtcome]
    exact .visited ⟨i, item, found, .send notification event⟩ _ hw
      (congrArg (List.set · i _) hframe.workers) (fun h => balanced_awaiting rfl _ h)
      (metrics_keep _ _ _ _)
  | delivered i sink item pending hw =>
    exact .goesOn i _ _ hw rfl (fun h => h.delivered _) rfl
  | succeed i item hw =>
    simp only [handling?, hw]
    exact .handled ⟨i, item, .succeeded⟩ _ hw rfl (fun howner h => h.succeeded howner) rfl
  | count i item fault hw =>
    simp only [handling?, hw]
    exact .goesOn i _ _ hw rfl (fun h => h.counted _) rfl
  | requeue i item failures hw hless =>
    simp only [handling?, hw, heffects]
    exact .handled ⟨i, item, .requeued _⟩ _ hw rfl (fun howner h => h.failed howner (by simp)) rfl
  | drop i item failures hw hmany =>
    simp only [handling?, hw, heffects]
    exact .handled ⟨i, item, .dropped⟩ _ hw rfl (fun howner h => h.failed howner (by simp)) rfl
  | release i key hw => exact .goesOn i _ _ hw rfl id rfl

/-- What a worker is doing. One that has not begun counts as idle. -/
def workerAt (x : Execution) (i : Nat) : Worker :=
  x.controller.workers[i]?.getD .idle

/-- The books of the worker at a position are balanced. -/
def BalancedAt (handouts : List Handout) (visits : List Visit) (handlings : List Handling) (i : Nat)
    (w : Worker) : Prop :=
  Balanced ((handouts.filter (·.worker = i)).map (·.item)) (visits.filter (·.worker = i))
    (handlings.filter (·.worker = i)) w

/-- A step keeps the books of all workers balanced: it enters something into those of the worker
that takes it, and leaves the others alone. -/
theorem Enters.balanced {handout : Option Handout} {visit : Option Visit}
    {handling : Option Handling} (h : x.Enters x' handout visit handling)
    {handouts : List Handout} {visits : List Visit} {handlings : List Handling}
    (hbalanced : ∀ i, BalancedAt handouts visits handlings i (x.workerAt i)) (i : Nat) :
    BalancedAt (handout.toList ++ handouts) (visit.toList ++ visits)
      (handling.toList ++ handlings) i (x'.workerAt i) := by
  -- a step that concerns one worker leaves the places of the others
  have hset : ∀ {j : Nat} {w : Worker}, x.controller.workers[j]? = some w → ∀ w',
      x'.controller.workers = x.controller.workers.set j w' →
      x'.workerAt i = if j = i then w' else x.workerAt i := by
    intro j w hw w' hworkers
    unfold workerAt
    rw [hworkers, getElem?_setWorker hw]
    split <;> rfl
  have hbefore : ∀ {j : Nat} {w : Worker}, x.controller.workers[j]? = some w →
      BalancedAt handouts visits handlings j w := by
    intro j w hw
    have hj := hbalanced j
    rwa [workerAt, hw] at hj
  cases h with
  -- where there was no worker yet, the new one is idle, which is what a missing one counts as
  | aside hworkers hmetrics =>
    have hsame : x'.workerAt i = x.workerAt i := by
      unfold workerAt
      rcases hworkers with hworkers | ⟨hnone, hidle⟩
      · rw [hworkers]
      · cases hi : x'.controller.workers[i]? with
        | none => simp [hnone]
        | some w => simp [hnone, hidle w (List.mem_of_getElem? hi)]
    rw [hsame]
    exact hbalanced i
  | goesOn j w w' hw hworkers hkept hmetrics =>
    rw [hset hw w' hworkers]
    split
    · next hij =>
      subst hij
      exact hkept (hbefore hw)
    · exact hbalanced i
  -- the worker takes up a new item, so its books were closed before
  | handed j item hw hworkers hmetrics =>
    rw [hset hw _ hworkers]
    by_cases hij : j = i
    · subst hij
      have hclosed := hbefore hw
      simpa [BalancedAt, Balanced] using hclosed
    · simpa [BalancedAt, hij] using hbalanced i
  | visited v w hw hworkers hkept hmetrics =>
    rw [hset hw _ hworkers]
    by_cases hij : v.worker = i
    · subst hij
      obtain ⟨older, hitems, hclosed⟩ := hbefore hw
      have hvisited := hkept hclosed
      rw [← hitems] at hvisited
      simpa [BalancedAt] using hvisited
    · simpa [BalancedAt, hij] using hbalanced i
  | handled a w hw hworkers hkept hmetrics =>
    rw [hset hw _ hworkers]
    by_cases hij : a.worker = i
    · subst hij
      have hclosed := hkept (fun v hv => by simpa using (List.mem_filter.mp hv).2) (hbefore hw)
      simpa [BalancedAt, Balanced] using hclosed
    · simpa [BalancedAt, hij] using hbalanced i

theorem handouts_cons (p : Execution × Move) (past : List (Execution × Move)) :
    handouts (p :: past) = (handout? p).toList ++ handouts past := by
  unfold handouts
  rw [List.filterMap_cons]
  cases handout? p <;> rfl

/-- On every path, the books of all workers are balanced. -/
theorem balanced_of_path (h : Path advance? { controller := .new kind tuning slots start } past x)
    (i : Nat) : BalancedAt (handouts past) (visits past) (handlings past) i (x.workerAt i) := by
  induction h generalizing i with
  | start => exact ⟨rfl, .nil⟩
  | @move past x x' move hpath hmove ih =>
    rw [handouts_cons, visits_cons, handlings_cons]
    cases move with
    | notify call =>
      obtain rfl := Option.some.inj hmove
      have hsame : workerAt { x with controller := call.notify x.controller } i = x.workerAt i := by
        unfold workerAt
        rcases x.controller.notify_eq call with hsame | ⟨item, -, hadd⟩
        · rw [hsame]
          rfl
        · rw [hadd]
      rw [hsame]
      exact ih i
    | mature position =>
      obtain ⟨_, hnotify, -⟩ | ⟨_, _, _, hact, -⟩ | ⟨_, retry, -, -, rfl⟩ := advance?_cases hmove
      · cases hnotify
      · cases hact
      · exact ih i
    | act step =>
      obtain ⟨c, hdoes, rfl⟩ := does_asks hmove
      exact (enters_of_does (reachable_of_path hpath).staged hdoes rfl).balanced ih i

/-! ### The counts -/

/-- The counts of a controller agree with the books, and with the notifications that brought nothing
new. -/
structure Tallied (m : Metrics) (visits : List Visit) (handlings : List Handling)
    (resyncs : Nat) : Prop where
  dispatched : m.dispatched = visits.countP (·.told?.isSome)
  replayed : m.replayed = visits.countP (·.notification? = some .replayed)
  updatesSkipped : m.updatesSkipped = visits.countP (·.outcome = .skipped) + resyncs
  requeued : m.requeued = handlings.countP (·.verdict.isRequeued)
  dropped : m.dropped = handlings.countP (·.verdict = .dropped)

variable {m : Metrics} {seen : List Visit} {done : List Handling} {resyncs : Nat}

theorem Tallied.visit (h : Tallied m seen done resyncs) (v : Visit) :
    Tallied (v.outcome.count m) (v :: seen) done resyncs := by
  cases houtcome : v.outcome with
  | failed fault =>
    constructor <;> simp [Outcome.count, Visit.told?, Visit.notification?, houtcome, h.dispatched,
      h.replayed, h.updatesSkipped, h.requeued, h.dropped]
  | skipped =>
    constructor <;> simp [Outcome.count, Metrics.record, Visit.told?, Visit.notification?, houtcome,
      h.dispatched, h.replayed, h.updatesSkipped, h.requeued, h.dropped, Nat.add_right_comm]
  | send notification event =>
    by_cases hreplayed : notification = .replayed
    · constructor <;> simp [Outcome.count, Metrics.record, Visit.told?, Visit.notification?,
        houtcome, hreplayed, h.dispatched, h.replayed, h.updatesSkipped, h.requeued, h.dropped]
    · constructor <;> simp [Outcome.count, Metrics.record, Visit.told?, Visit.notification?,
        houtcome, hreplayed, h.dispatched, h.replayed, h.updatesSkipped, h.requeued, h.dropped]

theorem Tallied.handling (h : Tallied m seen done resyncs) (a : Handling) :
    Tallied (a.verdict.count m) seen (a :: done) resyncs := by
  cases hverdict : a.verdict with
  | succeeded =>
    constructor <;> simp [Verdict.count, Verdict.isRequeued, hverdict, h.dispatched, h.replayed,
      h.updatesSkipped, h.requeued, h.dropped]
  | requeued delay =>
    constructor <;> simp [Verdict.count, Metrics.record, Verdict.isRequeued, hverdict, h.dispatched,
      h.replayed, h.updatesSkipped, h.requeued, h.dropped]
  | dropped =>
    constructor <;> simp [Verdict.count, Metrics.record, Verdict.isRequeued, hverdict, h.dispatched,
      h.replayed, h.updatesSkipped, h.requeued, h.dropped]

/-- A step counts what it enters. -/
theorem Enters.tallied {handout : Option Handout} {visit : Option Visit}
    {handling : Option Handling} (h : x.Enters x' handout visit handling)
    (htallied : Tallied x.controller.metrics seen done resyncs) :
    Tallied x'.controller.metrics (visit.toList ++ seen) (handling.toList ++ done) resyncs := by
  cases h with
  | aside _ hmetrics | goesOn _ _ _ _ _ _ hmetrics | handed _ _ _ _ hmetrics =>
    rw [hmetrics]
    exact htallied
  | visited v _ _ _ _ hmetrics =>
    rw [hmetrics]
    exact htallied.visit v
  | handled a _ _ _ _ hmetrics =>
    rw [hmetrics]
    exact htallied.handling a

/-- The notification of an update that brings the version known before is counted, and queues
nothing. -/
theorem notify_of_isResync {call : Watch.Call} (h : (Move.notify call).isResync = true)
    (c : Controller) : call.notify c = c.record .updateSkipped := by
  cases call with
  | add key version => cases h
  | delete key version => cases h
  | update key old new =>
    obtain ⟨hsome, hsame⟩ : old.isSome = true ∧ old = new := by simpa [Move.isResync] using h
    exact if_pos ⟨hsome, hsame⟩

/-- Every other notification queues something, and is not counted. -/
theorem notify_of_not_isResync {call : Watch.Call} (h : (Move.notify call).isResync = false)
    (c : Controller) : ∃ item, call.notify c = { c with queue := (c.queue.add item).1 } := by
  cases call with
  | add key version => exact ⟨_, rfl⟩
  | delete key version => exact ⟨_, rfl⟩
  | update key old new =>
    have hnews : ¬ (old.isSome = true ∧ old = new) := by simpa [Move.isResync] using h
    exact ⟨_, if_neg hnews⟩

/-- On every path, the counts agree with the books. -/
theorem tallied_of_path (h : Path advance? { controller := .new kind tuning slots start } past x) :
    Tallied x.controller.metrics (visits past) (handlings past)
      (past.countP fun p => p.2.isResync) := by
  induction h with
  | start => constructor <;> rfl
  | @move past x x' move hpath hmove ih =>
    rw [visits_cons, handlings_cons, List.countP_cons]
    cases move with
    | notify call =>
      obtain rfl := Option.some.inj hmove
      cases hresync : (Move.notify call).isResync with
      | true =>
        rw [notify_of_isResync hresync]
        exact { ih with updatesSkipped := congrArg (· + 1) ih.updatesSkipped }
      | false =>
        obtain ⟨item, hadd⟩ := notify_of_not_isResync hresync x.controller
        rw [hadd]
        exact ih
    | mature position =>
      obtain ⟨_, hnotify, -⟩ | ⟨_, _, _, hact, -⟩ | ⟨_, retry, -, -, rfl⟩ := advance?_cases hmove
      · cases hnotify
      · cases hact
      · exact ih
    | act step =>
      obtain ⟨c, hdoes, rfl⟩ := does_asks hmove
      exact (enters_of_does (reachable_of_path hpath).staged hdoes rfl).tallied ih

/-! ### When nothing is in process -/

/-- As many entries of two lists belong to each worker, so the lists have as many entries. -/
theorem length_eq_of_workers {α β : Type} (f : α → Nat) (g : β → Nat) {as : List α} {bs : List β}
    (h : ∀ i, (as.filter (f · = i)).length = (bs.filter (g · = i)).length) :
    as.length = bs.length := by
  have hperm : (as.map f).Perm (bs.map g) := by
    refine List.perm_iff_count.mpr fun i => ?_
    rw [List.count_eq_countP, List.count_eq_countP, List.countP_map, List.countP_map,
      List.countP_eq_length_filter, List.countP_eq_length_filter]
    exact h i
  simpa using hperm.length_eq

/-- Where no key is in process, all books are closed. -/
theorem closed_of_path (h : Path advance? { controller := .new kind tuning slots start } past x)
    (hidle : ∀ key, key ∉ x.controller.queue.processing) (i : Nat) :
    Closed (((handouts past).filter (·.worker = i)).map (·.item))
      ((visits past).filter (·.worker = i)) ((handlings past).filter (·.worker = i)) := by
  have hbalanced := balanced_of_path h i
  unfold workerAt at hbalanced
  have hfree : ∀ w, x.controller.workers[i]? = some w → w.key? = none := fun w hw => by
    by_contra hkey
    obtain ⟨key, hkey⟩ := Option.ne_none_iff_exists'.mp hkey
    exact hidle key (((reachable_of_path h).processing_iff key).mpr ⟨i, w, hw, hkey⟩)
  cases hw : x.controller.workers[i]? with
  | none =>
    rw [hw] at hbalanced
    exact hbalanced
  | some w =>
    have hkey := hfree w hw
    rw [hw] at hbalanced
    cases w with
    | idle | exited => exact hbalanced
    | holding | delivering | settling | requeueing | releasing => cases hkey

/-- As many visits have failed as items were queued again or dropped. -/
theorem failed_eq_of_closed {seen : List Visit} {done : List Handling}
    (h : ∀ i, List.Forall₂ Resolves (seen.filter (·.worker = i)) (done.filter (·.worker = i))) :
    seen.countP (·.failure?.isSome) = done.countP (·.verdict.isRequeued) +
      done.countP (·.verdict = .dropped) := by
  have hfailed : seen.countP (·.failure?.isSome) = done.countP (·.verdict ≠ .succeeded) := by
    rw [List.countP_eq_length_filter, List.countP_eq_length_filter]
    refine length_eq_of_workers (·.worker) (·.worker) fun i => ?_
    rw [List.filter_comm, List.filter_comm (fun a : Handling => decide (a.worker = i))]
    refine (List.rel_filter (R := Resolves) ?_ (h i)).length_eq
    intro v a hresolves
    simpa using hresolves.2.2.symm
  rw [hfailed]
  clear hfailed h
  induction done with
  | nil => rfl
  | cons a done ih =>
    rw [List.countP_cons, List.countP_cons, List.countP_cons, ih]
    cases hverdict : a.verdict with
    | succeeded => simp [Verdict.isRequeued]
    | requeued delay => simp [Verdict.isRequeued]; omega
    | dropped => simp [Verdict.isRequeued]; omega

/-- **Every attempt is accounted for exactly once.** Whatever comes in and whatever the workers do:
when no key is in process, the items that were handed out are those that the sinks were told of,
those that were skipped, those that were queued again and those that were dropped, by what the
controller has counted. Skipped besides were only the notifications of updates that bring the
version known before, which queue nothing. Each enabled sink was called as often as was counted, and
as often as was counted to say that the object was there before. One by one, each worker has looked
up the items that it got, and has handled what it looked up; what it queued again or dropped told
the sinks nothing. -/
theorem attempts_accounted
    (h : Path advance? { controller := .new kind tuning slots start } past x)
    (hidle : ∀ key, key ∉ x.controller.queue.processing) :
    let counts := x.controller.metrics
    let skipped := (visits past).countP (·.outcome = .skipped)
    (handouts past).length = counts.dispatched + skipped + counts.requeued + counts.dropped ∧
    counts.updatesSkipped = skipped + past.countP (fun p => p.2.isResync) ∧
    (∀ p ∈ past, p.2.isResync →
      p.1.advance? p.2 = some { p.1 with controller := p.1.controller.record .updateSkipped }) ∧
    (∀ (sink : Nat) (slot : Sink.Slot), slots[sink]? = some slot → slot.enabled →
      received sink past = (visits past).filterMap Visit.told? ∧
      (received sink past).length = counts.dispatched ∧
      (received sink past).countP (·.1 = .replayed) = counts.replayed) ∧
    ∀ worker,
      ((handouts past).filter (·.worker = worker)).map (·.item) =
        ((visits past).filter (·.worker = worker)).map (·.item) ∧
      List.Forall₂
        (fun v a => v.item = a.item ∧ (a.verdict ≠ .succeeded ↔ v.failure?.isSome) ∧
          (a.verdict ≠ .succeeded → v.told? = none))
        ((visits past).filter (·.worker = worker))
        ((handlings past).filter (·.worker = worker)) := by
  intro counts skipped
  -- the tallies hold at every time, the rest once no worker is in the middle of an item
  have htallied := tallied_of_path h
  have hclosed := closed_of_path h hidle
  refine ⟨?_, htallied.updatesSkipped, ?_, ?_, fun worker => ⟨(hclosed worker).1, ?_⟩⟩
  · have hlength : (handouts past).length = (visits past).length := by
      refine length_eq_of_workers (·.worker) (·.worker) fun i => ?_
      simpa using congrArg List.length (hclosed i).1
    have hfailed := failed_eq_of_closed fun i => (hclosed i).2
    rw [hlength, Visit.length_eq, hfailed, ← htallied.dispatched, ← htallied.requeued,
      ← htallied.dropped]
    exact (Nat.add_assoc ..).symm
  · rintro ⟨y, move⟩ - hresync
    cases move with
    | notify call =>
      show some { y with controller := call.notify y.controller } = _
      rw [notify_of_isResync hresync]
    | act step => cases hresync
    | mature position => cases hresync
  -- every sink that is enabled is told the same
  · intro sink slot hslot henabled
    have hreceived : received sink past = (visits past).filterMap Visit.told? := by
      rw [received_eq h, if_pos]
      exact mem_enabledSinks.mpr ⟨slot, hslot, henabled⟩
    refine ⟨hreceived, ?_, ?_⟩
    · rw [hreceived, List.length_filterMap_eq_countP]
      exact htallied.dispatched.symm
    · rw [hreceived, List.countP_filterMap]
      refine Eq.trans ?_ htallied.replayed.symm
      congr 1
      funext v
      cases hv : v.told? with
      | none => simp [Visit.notification?, hv]
      | some told => simp [Visit.notification?, hv]
  · refine (hclosed worker).2.imp fun v a hresolves => ?_
    obtain ⟨-, hitem, hverdict⟩ := hresolves
    exact ⟨hitem.symm, hverdict, fun hfailed => Visit.told?_of_failure? (hverdict.mp hfailed)⟩

/-- One of five items fails, comes back and is dropped; of the others one is skipped. Two sinks are
enabled, and a notification brings nothing new. -/
theorem attempts_accounted_five :
    let slots : List Sink.Slot := [⟨.elasticsearch, true⟩, ⟨.webhook, false⟩, ⟨.rabbitMq, true⟩]
    let tuning : Tuning := { workers := 2, maxRetries := 1 }
    ∃ past x, Path advance? { controller := .new .secrets tuning slots (.ofSecond 0) } past x ∧
      (∀ key, key ∉ x.controller.queue.processing) ∧
      (handouts past).map (fun a => (a.worker, a.item.key)) =
        [(0, "ns/x"), (1, "ns/y"), (0, "ns/x"), (1, "ns/y"), (0, "ns/x")] ∧
      x.controller.metrics =
        { dispatched := 2, replayed := 1, updatesSkipped := 2, requeued := 1, dropped := 1 } ∧
      (visits past).countP (·.outcome = .skipped) = 1 ∧
      (handouts past).length = x.controller.metrics.dispatched +
        (visits past).countP (·.outcome = .skipped) + x.controller.metrics.requeued +
        x.controller.metrics.dropped ∧
      (received 2 past).length = x.controller.metrics.dispatched ∧
      (received 2 past).map (·.1) = [.deleted, .replayed] ∧ received 1 past = [] := by
  intro slots tuning
  let found : Except Fault (Option Resource) :=
    .ok (some (.live { version := "1" } .secret))
  let down : Except Fault (Option Resource) := .error (.cache "ns/y" "down")
  let moves : List Move := [.act (.start 0), .act (.check 0 true),
    .notify (.add "ns/x" (some "1")), .notify (.add "ns/y" (some "1")), .act (.take 0),
    .act (.take 1), .act (.begin 0 found), .act (.begin 1 down), .act (.delivered 0 2),
    .act (.settle 1), .act (.delivered 0 0), .act (.settle 0), .act (.release 0),
    .act (.requeue 1), .act (.release 1), .notify (.update "ns/x" (some "1") (some "1")),
    .notify (.update "ns/x" none (some "1")), .act (.take 0), .act (.begin 0 found), .mature 0,
    .act (.settle 0), .act (.take 1), .act (.release 0), .act (.begin 1 down), .act (.settle 1),
    .act (.requeue 1), .act (.release 1), .notify (.delete "ns/x" (some "1")), .act (.take 0),
    .act (.begin 0 found), .act (.delivered 0 0), .act (.delivered 0 2), .act (.settle 0),
    .act (.release 0)]
  let run := moves.foldlM (follow? advance?)
    ([], { controller := .new .secrets tuning slots (.ofSecond 0) })
  -- what the counters and books show is computed by running the moves
  have hbooks : run.map (fun way => ((handouts way.1).map (fun a => (a.worker, a.item.key)),
      way.2.controller.metrics, way.2.controller.queue.processing.isEmpty)) =
    some ([(0, "ns/x"), (1, "ns/y"), (0, "ns/x"), (1, "ns/y"), (0, "ns/x")],
      { dispatched := 2, replayed := 1, updatesSkipped := 2, requeued := 1, dropped := 1 },
      true) := by decide
  have hcalls : run.map (fun way => ((visits way.1).countP (·.outcome = .skipped),
      (received 2 way.1).map (·.1), (received 1 way.1).isEmpty)) =
    some (1, [.deleted, .replayed], true) := by decide
  obtain ⟨⟨past, x⟩, hway, hshown⟩ := Option.map_eq_some_iff.mp hbooks
  rw [hway] at hcalls
  simp only [Option.map_some, Option.some.injEq, Prod.mk.injEq] at hshown hcalls
  obtain ⟨hhandouts, hmetrics, hnone⟩ := hshown
  obtain ⟨hskipped, htold, hsilent⟩ := hcalls
  have hpath := path_of_follow? .start hway
  have hidle : ∀ key, key ∉ x.controller.queue.processing :=
    Std.TreeSet.isEmpty_iff_forall_not_mem.mp hnone
  obtain ⟨hlength, -, -, hsinks, -⟩ := attempts_accounted hpath hidle
  exact ⟨past, x, hpath, hidle, hhandouts, hmetrics, hskipped, hlength, (hsinks 2 _ rfl rfl).2.1,
    htold, List.isEmpty_iff.mp hsilent⟩

end Execution

end ClusterWatch.Controller
