import ClusterWatch.Proofs.Controller.Attempts
/-!
# A failing item is done with

As long as the queue is open, an item that fails whenever it is attempted can go on: whatever the
workers are doing, one of them can come to it, and a retry that is backing off can come back. So it
can always come to an end, which is after the last attempt that it is allowed. Only a run that has
not begun must not have a deadline beyond the clock.

- `CanBegin`: nothing keeps the run of a controller from beginning.
- `Execution.Goes`: a way on which a key gets nothing new and its lookups fail.
- `Worker.work`, `goes_idle`: a worker can finish what it is doing.
- `goes_held`: a key that waits can be handed out.
- `goes_on`: a failing item can always come closer to its end.

Main result: `Execution.goes_end`.
-/

namespace ClusterWatch

namespace WorkQueue

variable {q : WorkQueue} {key : String}

/-- The front key of an open queue can be handed out. -/
theorem Consistent.take_front (h : q.Consistent) (hopen : q.closed = false) {rest : List String}
    (hwaiting : q.waiting = key :: rest) :
    ∃ item, item.key = key ∧ q.items[key]? = some item ∧ q.take =
      ({ q with
        waiting := rest
        items := q.items.erase key
        processing := q.processing.insert key }, .item item) := by
  have hmem : key ∈ q.items := h.has_item key (hwaiting ▸ List.mem_cons_self)
  obtain ⟨item, hitem⟩ := Option.isSome_iff_exists.mp (Std.TreeMap.mem_iff_isSome_getElem?.mp hmem)
  refine ⟨item, h.labelled key item hitem, hitem, ?_⟩
  rw [WorkQueue.take, if_neg (by simp [hopen]), hwaiting]
  simp only [takeFrom, hitem]

/-- No key waits in an open queue that has no item to hand out. -/
theorem Consistent.waiting_eq_nil (h : q.Consistent) (hopen : q.closed = false) {q' : WorkQueue}
    (htake : q.take = (q', .empty)) : q.waiting = [] := by
  cases hwaiting : q.waiting with
  | nil => rfl
  | cons front rest =>
    obtain ⟨item, -, -, hitem⟩ := h.take_front hopen hwaiting
    cases (Prod.mk.inj (htake.symm.trans hitem)).2

/-- What waits goes on waiting when a key is released. -/
theorem waiting_prefix_done (q : WorkQueue) (key : String) :
    q.waiting <+: (q.done key).1.waiting := by
  rw [done_fst]
  dsimp only
  split
  · exact List.prefix_append _ _
  · exact List.prefix_rfl

end WorkQueue

namespace Controller

/-- How much a worker has to do before it is idle, when it tells a number of sinks. -/
def Worker.work (sinks : Nat) : Worker → Nat
  | idle | exited => 0
  | releasing _ => 1
  | requeueing .. => 2
  | settling .. => 3
  | delivering _ pending => 3 + pending.length
  | holding _ => 4 + sinks

/-- A worker that has an item has something to do before it is to release its key. -/
theorem Worker.Attempts.work {w : Worker} {key : String} (h : w.Attempts key) (sinks : Nat) :
    1 < w.work sinks := by
  cases w with
  | idle | releasing | exited => cases h
  | holding | delivering | settling | requeueing =>
    simp only [Worker.work]
    omega

theorem work_awaiting (sinks : Nat) (item : WorkItem) (pending : List Nat) :
    (awaiting item pending).work sinks = 3 + pending.length := by
  cases pending <;> rfl

/-- A run has begun, or the clock has a time for its deadline. -/
def CanBegin (c : Controller) : Prop :=
  c.stage = .initializing → c.tuning.syncTimeout.total < clockEnd

theorem CanBegin.of_later {c c' : Controller} (h : c.CanBegin) (hsame : c.SameSettings c')
    (hbefore : c'.stage = .initializing → c.stage = .initializing) : c'.CanBegin := by
  intro hstage
  rw [hsame.tuning]
  exact h (hbefore hstage)

/-- A step does not take a run back to where it has not begun. -/
theorem Does.not_begun {c c' : Controller} {step : Step} {effects : List Effect}
    (h : c.Does step c' effects) (hstage : c'.stage = .initializing) : c.stage = .initializing := by
  rcases h.stage_cases with (hsame | ⟨deadline, resting, resting', -, hnew⟩) |
    ⟨hold, -⟩ | ⟨now, deadline, -, -, hnew⟩ | ⟨deadline, resting, failure, -, hnew, -⟩ |
    ⟨-, hnew⟩ | ⟨-, hnew⟩
  · exact hsame.symm.trans hstage
  · cases hnew.symm.trans hstage
  · exact hold
  · cases hnew.symm.trans hstage
  · cases hnew.symm.trans hstage
  · cases hnew.symm.trans hstage
  · cases hnew.symm.trans hstage

namespace Execution

variable {x x' y z : Execution} {key : String} {item : WorkItem} {i : Nat} {w : Worker}
  {kind : Resource.Kind} {tuning : Tuning} {slots : List Sink.Slot} {start : Time.Instant}

/-- A way on which the queue stays open, the key gets nothing new and its lookups fail. -/
def Goes (key : String) (x y : Execution) : Prop :=
  ∃ later, Path advance? x later y ∧ y.controller.queue.closed = false ∧ Doomed key later

theorem goes_refl (hopen : x.controller.queue.closed = false) : Goes key x x :=
  ⟨[], .start, hopen, fun _ hp => nomatch hp⟩

theorem Goes.trans (h : Goes key x y) (h' : Goes key y z) : Goes key x z := by
  obtain ⟨later, hpath, -, hdoomed⟩ := h
  obtain ⟨later', hpath', hopen, hdoomed'⟩ := h'
  refine ⟨later' ++ later, hpath.append hpath', hopen, fun p hp => ?_⟩
  rcases List.mem_append.mp hp with hp | hp
  · exact hdoomed' p hp
  · exact hdoomed p hp

theorem Goes.isOpen (h : Goes key x y) : y.controller.queue.closed = false := by
  obtain ⟨later, -, hopen, -⟩ := h
  exact hopen

theorem Goes.reachable (h : Goes key x y) (hx : x.Reachable (.new kind tuning slots start)) :
    y.Reachable (.new kind tuning slots start) := by
  obtain ⟨later, hpath, -, -⟩ := h
  exact hx.path hpath

/-- A move other than a lookup or a notification. -/
theorem goes_move (move : Move) (hmove : x.advance? move = some y)
    (hopen : y.controller.queue.closed = false) (hquiet : ∀ call, move ≠ .notify call)
    (hvisit : visit? (x, move) = none) : Goes key x y := by
  refine ⟨[(x, move)], .move .start hmove, hopen, fun p hp => ?_⟩
  obtain rfl := List.mem_singleton.mp hp
  refine ⟨fun call hcall => absurd hcall (hquiet call), fun v hv => ?_⟩
  cases hvisit.symm.trans hv

theorem canBegin_move {move : Move} (h : x.controller.CanBegin)
    (hmove : x.advance? move = some x') : x'.controller.CanBegin := by
  refine h.of_later (sameSettings hmove) ?_
  rcases advance?_cases hmove with ⟨call, -, rfl⟩ | ⟨step, c, effects, -, -, hdoes, rfl⟩ |
    ⟨position, retry, -, -, rfl⟩
  · obtain ⟨-, -, hstage⟩ := x.controller.notify_frame call
    exact fun hnew => hstage.symm.trans hnew
  · exact hdoes.not_begun
  · exact id

/-- On a way, a run that has begun or can begin goes on to be one. -/
theorem Goes.canBegin (h : Goes key x y) (hbegin : x.controller.CanBegin) :
    y.controller.CanBegin := by
  obtain ⟨later, hpath, -, -⟩ := h
  induction hpath with
  | start => exact hbegin
  | move _ hmove ih => exact canBegin_move ih hmove

/-! ### Steps that can be taken -/

section Ways

variable (key)

/-- A worker that holds an item can fail to look it up. -/
theorem goes_begin (hopen : x.controller.queue.closed = false)
    (hw : x.controller.workers[i]? = some (.holding item)) (fault : Fault) :
    ∃ y, Goes key x y ∧ y.controller.queue = x.controller.queue ∧
      y.controller.workers = x.controller.workers.set i (.settling item (some fault)) := by
  refine ⟨x.after (.begin i (.error fault))
      (x.controller.setWorker i (.settling item (some fault)), []),
    ⟨[(x, .act (.begin i (.error fault)))], .move .start ?_, hopen, fun p hp => ?_⟩, rfl, rfl⟩
  · simp [advance?, step, stepBegin, hw, process, outcome, keep]
  · obtain rfl := List.mem_singleton.mp hp
    refine ⟨fun call hcall => ?_, fun v hv _ => ?_⟩
    · cases hcall
    · obtain ⟨i', found, held, hstep, -, rfl⟩ := visit?_eq_some_iff.mp hv
      cases hstep
      exact ⟨fault, rfl⟩

/-- A worker can read how often a key has failed. -/
theorem goes_count (hopen : x.controller.queue.closed = false) {fault : Fault}
    (hw : x.controller.workers[i]? = some (.settling item (some fault))) :
    ∃ y, Goes key x y ∧ y.controller.queue = x.controller.queue ∧
      y.controller.workers = x.controller.workers.set i
        (.requeueing item (x.controller.queue.failureCount item.key)) := by
  refine ⟨x.after (.settle i)
      (x.controller.setWorker i (.requeueing item (x.controller.queue.failureCount item.key)), []),
    goes_move (.act (.settle i)) ?_ hopen (by simp) rfl, rfl, rfl⟩
  simp [advance?, step, stepSettle, hw]

/-- A worker can clear the failures of a key. -/
theorem goes_succeed (hopen : x.controller.queue.closed = false)
    (hw : x.controller.workers[i]? = some (.settling item none)) :
    ∃ y, Goes key x y ∧ y.controller.queue = x.controller.queue.forget item.key ∧
      y.controller.workers = x.controller.workers.set i (.releasing item.key) := by
  refine ⟨x.after (.settle i)
      ({ x.controller with queue := x.controller.queue.forget item.key }.setWorker i
        (.releasing item.key), []),
    goes_move (.act (.settle i)) ?_ ?_ (by simp) rfl, rfl, rfl⟩
  · simp [advance?, step, stepSettle, hw]
  · exact (WorkQueue.sameWork_forget _ _).closed.trans hopen

/-- A worker can queue a failed item again as long as it has not failed too often. -/
theorem goes_requeue (hopen : x.controller.queue.closed = false) {failures : Nat}
    (hw : x.controller.workers[i]? = some (.requeueing item failures))
    (hless : failures < x.controller.tuning.maxRetries.toNat) :
    ∃ y, Goes key x y ∧
      y.controller.queue =
        (x.controller.queue.addRateLimited x.controller.tuning.backoff item).1 ∧
      y.controller.workers = x.controller.workers.set i (.releasing item.key) := by
  refine ⟨x.after (.requeue i)
      (({ x.controller with queue :=
          (x.controller.queue.addRateLimited x.controller.tuning.backoff item).1 }.record
        .requeue).setWorker i (.releasing item.key),
        [.matureAfter (x.controller.queue.addRateLimited x.controller.tuning.backoff item).2.2
          (x.controller.queue.addRateLimited x.controller.tuning.backoff item).2.1]),
    goes_move (.act (.requeue i)) ?_ ?_ (by simp) rfl, rfl, rfl⟩
  · simp [advance?, step, stepRequeue, hw, hless]
  · exact hopen

/-- A worker can drop an item that has failed too often. -/
theorem goes_drop (hopen : x.controller.queue.closed = false) {failures : Nat}
    (hw : x.controller.workers[i]? = some (.requeueing item failures))
    (hmany : x.controller.tuning.maxRetries.toNat ≤ failures) :
    ∃ y, Goes key x y ∧ y.controller.queue = x.controller.queue.forget item.key ∧
      y.controller.workers = x.controller.workers.set i (.releasing item.key) := by
  refine ⟨x.after (.requeue i)
      (({ x.controller with queue := x.controller.queue.forget item.key }.record .drop).setWorker i
        (.releasing item.key), []),
    goes_move (.act (.requeue i)) ?_ ?_ (by simp) rfl, rfl, rfl⟩
  · simp [advance?, step, stepRequeue, hw, Nat.not_lt.mpr hmany]
  · exact (WorkQueue.sameWork_forget _ _).closed.trans hopen

/-- A sink can finish with the record of an item. -/
theorem goes_delivered (hopen : x.controller.queue.closed = false) {sink : Nat} {pending : List Nat}
    (hw : x.controller.workers[i]? = some (.delivering item (sink :: pending))) :
    ∃ y, Goes key x y ∧ y.controller.queue = x.controller.queue ∧
      y.controller.workers = x.controller.workers.set i (awaiting item pending) := by
  refine ⟨x.after (.delivered i sink) (x.controller.setWorker i (awaiting item pending), []),
    goes_move (.act (.delivered i sink)) ?_ hopen (by simp) rfl, rfl, rfl⟩
  simp [advance?, step, stepDelivered, hw]

/-- A worker can release its key. -/
theorem goes_release (hopen : x.controller.queue.closed = false) {released : String}
    (hw : x.controller.workers[i]? = some (.releasing released)) :
    ∃ y, Goes key x y ∧ y.controller.queue = (x.controller.queue.done released).1 ∧
      y.retries = x.retries ∧ y.controller.workers = x.controller.workers.set i .idle := by
  refine ⟨x.after (.release i)
      ({ x.controller with queue := (x.controller.queue.done released).1 }.setWorker i .idle, []),
    goes_move (.act (.release i)) ?_ ?_ (by simp) rfl, rfl, List.append_nil _, rfl⟩
  · simp [advance?, step, stepRelease, hw]
  · show (x.controller.queue.done released).1.closed = false
    rw [WorkQueue.done_fst]
    exact hopen

/-- An idle worker can take the front item. -/
theorem goes_take (hopen : x.controller.queue.closed = false) {queue : WorkQueue}
    (hidle : x.controller.workers[i]? = some .idle)
    (htake : x.controller.queue.take = (queue, .item item)) :
    ∃ y, Goes key x y ∧ y.controller.queue = queue ∧
      y.controller.workers = x.controller.workers.set i (.holding item) := by
  refine ⟨x.after (.take i) ({ x.controller with queue }.setWorker i (.holding item), []),
    goes_move (.act (.take i)) ?_ ?_ (by simp) rfl, rfl, rfl⟩
  · simp [advance?, step, stepTake, hidle, htake]
  · exact (WorkQueue.take_item htake).2.1.trans hopen

/-- The backoff of a retry can end. -/
theorem goes_mature (hopen : x.controller.queue.closed = false) {position : Nat} {retry : Retry}
    (hretry : x.retries[position]? = some retry) :
    ∃ y, Goes key x y ∧ y.retries = x.retries.eraseIdx position := by
  refine ⟨{ x with retries := x.retries.eraseIdx position }.after (.mature retry)
      ({ x.controller with queue := (x.controller.queue.mature retry).1 }, []),
    goes_move (.mature position) ?_ ?_ (by simp) rfl, List.append_nil _⟩
  · simp [advance?, step, hretry]
  · exact (WorkQueue.closed_mature _ _).trans hopen

/-- A run can begin when the clock has a time for its deadline. -/
theorem goes_start (hopen : x.controller.queue.closed = false)
    (hstage : x.controller.stage = .initializing)
    (hfits : x.controller.tuning.syncTimeout.total < clockEnd) :
    ∃ y deadline, Goes key x y ∧ y.controller.queue = x.controller.queue ∧
      y.controller.stage = .syncing deadline false := by
  refine ⟨x.after (.start 0) ({ x.controller with
      stage := .syncing (0 + x.controller.tuning.syncTimeout.total) false }, []), _,
    goes_move (.act (.start 0)) ?_ hopen (by simp) rfl, rfl, rfl⟩
  rw [← Nat.zero_add x.controller.tuning.syncTimeout.total] at hfits
  have hstep := stepStart_of_fits hstage hfits
  simp [advance?, step, hstep]

/-- The next look at the cache can be due. -/
theorem goes_tick (hopen : x.controller.queue.closed = false) {deadline : Nat}
    (hstage : x.controller.stage = .syncing deadline true) :
    ∃ y, Goes key x y ∧ y.controller.queue = x.controller.queue ∧
      y.controller.stage = .syncing deadline false := by
  refine ⟨x.after .tick ({ x.controller with stage := .syncing deadline false }, []),
    goes_move (.act .tick) ?_ hopen (by simp) rfl, rfl, rfl⟩
  simp [advance?, step, stepTick, hstage]

/-- The cache can be found complete. -/
theorem goes_check (hopen : x.controller.queue.closed = false) {deadline : Nat}
    (hstage : x.controller.stage = .syncing deadline false) :
    ∃ y, Goes key x y ∧ y.controller.queue = x.controller.queue ∧
      y.controller.stage = .running := by
  refine ⟨x.after (.check 0 true) ({ x.controller with
      stage := .running
      workers := List.replicate (max x.controller.tuning.workers 1) .idle }, []),
    goes_move (.act (.check 0 true)) ?_ hopen (by simp) rfl, rfl, rfl⟩
  simp [advance?, step, stepCheck, hstage]

/-! ### Workers that finish -/

/-- A run whose queue is open can get its workers to begin. -/
theorem goes_running (hx : x.Reachable (.new kind tuning slots start))
    (hopen : x.controller.queue.closed = false) (hbegin : x.controller.CanBegin) :
    ∃ y, Goes key x y ∧ y.controller.queue = x.controller.queue ∧
      y.controller.stage = .running := by
  have hlive := hx.staged.closed_iff
  rw [hopen] at hlive
  cases hstage : x.controller.stage with
  | initializing =>
    obtain ⟨y, deadline, hy, hqueue, hlooks⟩ := goes_start key hopen hstage (hbegin hstage)
    obtain ⟨z, hz, hqueue', hrunning⟩ := goes_check key hy.isOpen hlooks
    exact ⟨z, hy.trans hz, hqueue'.trans hqueue, hrunning⟩
  | syncing deadline resting =>
    cases resting with
    | false => exact goes_check key hopen hstage
    | true =>
      obtain ⟨y, hy, hqueue, hlooks⟩ := goes_tick key hopen hstage
      obtain ⟨z, hz, hqueue', hrunning⟩ := goes_check key hy.isOpen hlooks
      exact ⟨z, hy.trans hz, hqueue'.trans hqueue, hrunning⟩
  | running => exact ⟨x, goes_refl hopen, rfl, hstage⟩
  | draining => simp [hstage] at hlive
  | stopped failure => simp [hstage] at hlive

/-- A worker that waits for sinks waits for one at least. -/
theorem Reachable.not_mem_delivering_nil (hx : x.Reachable (.new kind tuning slots start))
    (item : WorkItem) : Worker.delivering item [] ∉ x.controller.workers := by
  induction hx with
  | start => simp [Controller.new]
  | @move x x' move hx hmove ih =>
    rcases advance?_cases hmove with ⟨call, -, rfl⟩ | ⟨step, c, effects, -, -, hdoes, rfl⟩ |
      ⟨position, retry, -, -, rfl⟩
    · rcases x.controller.notify_eq call with hsame | ⟨added, -, hadd⟩
      · rw [hsame]
        exact ih
      · rw [hadd]
        exact ih
    -- a worker gets there only by being set to it, and without sinks it is set to settle its item
    · have hset : ∀ {i : Nat} {w : Worker}, w ≠ .delivering item [] →
          c.workers = x.controller.workers.set i w → .delivering item [] ∉ c.workers := by
        intro i w hw hworkers hmem
        rw [hworkers] at hmem
        rcases List.mem_or_eq_of_mem_set hmem with hold | hnew
        · exact ih hold
        · exact hw hnew.symm
      have hawaiting : ∀ (held : WorkItem) (pending : List Nat),
          awaiting held pending ≠ .delivering item [] := by
        intro held pending
        cases pending <;> simp [awaiting]
      cases hdoes with
      | begun now deadline hstage =>
        intro hmem
        cases List.eq_of_mem_replicate hmem
      | start | late | early | tick | stop | abandon | drain | finish | clear | mature => exact ih
      | send i found held notification event hw =>
        have hframe := x.controller.frame_keep held.key found (.send notification event)
        exact hset (hawaiting _ _) (congrArg (List.set · i _) hframe.workers)
      | delivered i sink held pending hw => exact hset (hawaiting _ _) rfl
      | _ => exact hset (by simp) rfl
    · exact ih

/-- A worker that is not idle can go on without telling a sink. What waits goes on waiting. -/
theorem goes_work (hx : x.Reachable (.new kind tuning slots start))
    (hopen : x.controller.queue.closed = false) (hw : x.controller.workers[i]? = some w)
    (hbusy : w ≠ .idle) :
    ∃ y w', Goes key x y ∧ y.controller.workers = x.controller.workers.set i w' ∧
      w'.work 0 < w.work 0 ∧ x.controller.queue.waiting <+: y.controller.queue.waiting := by
  have hsame : ∀ {q : WorkQueue}, q = x.controller.queue →
      x.controller.queue.waiting <+: q.waiting := fun hqueue => hqueue ▸ List.prefix_rfl
  have hforget : ∀ {q : WorkQueue} {key : String}, q = x.controller.queue.forget key →
      x.controller.queue.waiting <+: q.waiting := by
    rintro q key rfl
    exact (WorkQueue.sameWork_forget _ _).waiting ▸ List.prefix_rfl
  -- each state of a worker has one move that leads out of it
  cases w with
  | idle => exact absurd rfl hbusy
  -- workers leave only when the queue is closed
  | exited =>
    have hclosed := hx.staged.exited (List.mem_of_getElem? hw)
    cases hopen.symm.trans hclosed
  | holding item =>
    obtain ⟨y, hy, hqueue, hworkers⟩ := goes_begin key hopen hw (.cache item.key "")
    exact ⟨y, _, hy, hworkers, by simp [Worker.work], hsame hqueue⟩
  | delivering item pending =>
    cases pending with
    | nil => exact absurd (List.mem_of_getElem? hw) (hx.not_mem_delivering_nil item)
    | cons sink pending =>
      obtain ⟨y, hy, hqueue, hworkers⟩ := goes_delivered key hopen hw
      have hless : (awaiting item pending).work 0 < 3 + (pending.length + 1) := by
        rw [work_awaiting]
        omega
      exact ⟨y, _, hy, hworkers, hless, hsame hqueue⟩
  | settling item failure =>
    cases failure with
    | none =>
      obtain ⟨y, hy, hqueue, hworkers⟩ := goes_succeed key hopen hw
      exact ⟨y, _, hy, hworkers, by simp [Worker.work], hforget hqueue⟩
    | some fault =>
      obtain ⟨y, hy, hqueue, hworkers⟩ := goes_count key hopen hw
      exact ⟨y, _, hy, hworkers, by simp [Worker.work], hsame hqueue⟩
  | requeueing item failures =>
    by_cases hless : failures < x.controller.tuning.maxRetries.toNat
    · obtain ⟨y, hy, hqueue, hworkers⟩ := goes_requeue key hopen hw hless
      exact ⟨y, _, hy, hworkers, by simp [Worker.work], hqueue ▸ List.prefix_rfl⟩
    · obtain ⟨y, hy, hqueue, hworkers⟩ := goes_drop key hopen hw (Nat.not_lt.mp hless)
      exact ⟨y, _, hy, hworkers, by simp [Worker.work], hforget hqueue⟩
  | releasing released =>
    obtain ⟨y, hy, hqueue, -, hworkers⟩ := goes_release key hopen hw
    exact ⟨y, _, hy, hworkers, by simp [Worker.work],
      hqueue ▸ x.controller.queue.waiting_prefix_done released⟩

/-- A worker can finish what it is doing. -/
theorem goes_idle (hx : x.Reachable (.new kind tuning slots start))
    (hopen : x.controller.queue.closed = false) (hw : x.controller.workers[i]? = some w) :
    ∃ y, Goes key x y ∧ y.controller.workers[i]? = some .idle ∧
      x.controller.queue.waiting <+: y.controller.queue.waiting := by
  induction hwork : w.work 0 using Nat.strongRecOn generalizing x w with
  | _ work ih =>
    by_cases hidle : w = .idle
    · exact ⟨x, goes_refl hopen, hidle ▸ hw, List.prefix_rfl⟩
    · obtain ⟨y, w', hy, hworkers, hless, hwaiting⟩ := goes_work key hx hopen hw hidle
      have hw' : y.controller.workers[i]? = some w' := by
        rw [hworkers, getElem?_setWorker hw, if_pos rfl]
      obtain ⟨z, hz, hidle', hmore⟩ :=
        ih (w'.work 0) (hwork ▸ hless) (hy.reachable hx) hy.isOpen hw' rfl
      exact ⟨z, hy.trans hz, hidle', hwaiting.trans hmore⟩

/-- The key in front can be handed out. What waits behind it goes on waiting. -/
theorem goes_front (hx : x.Reachable (.new kind tuning slots start))
    (hopen : x.controller.queue.closed = false) (hbegin : x.controller.CanBegin) {front : String}
    {rest : List String} (hwaiting : x.controller.queue.waiting = front :: rest) :
    ∃ (y : Execution) (i : Nat) (held : WorkItem), Goes key x y ∧
      y.controller.workers[i]? = some (.holding held) ∧ held.key = front ∧
      rest <+: y.controller.queue.waiting := by
  obtain ⟨y, hy, hqueue, hrunning⟩ := goes_running key hx hopen hbegin
  have hcrew := (hy.reachable hx).staged.crew hrunning
  obtain ⟨w, hw⟩ : ∃ w, y.controller.workers[0]? = some w :=
    ⟨_, List.getElem?_eq_getElem (List.length_pos_of_ne_nil hcrew)⟩
  obtain ⟨z, hz, hidle, hprefix⟩ := goes_idle key (hy.reachable hx) hy.isOpen hw
  have hyz := hy.trans hz
  rw [hqueue, hwaiting] at hprefix
  obtain ⟨behind, hbehind⟩ := hprefix
  obtain ⟨held, hkey, -, htake⟩ :=
    (hyz.reachable hx).consistent.take_front hz.isOpen hbehind.symm
  obtain ⟨u, hu, hqueue', hworkers⟩ := goes_take key hz.isOpen hidle htake
  refine ⟨u, 0, held, hyz.trans hu, ?_, hkey, ?_⟩
  · rw [hworkers, getElem?_setWorker hidle, if_pos rfl]
  · rw [hqueue']
    exact List.prefix_append _ _

/-- A key that waits can be handed out. -/
theorem goes_held (hx : x.Reachable (.new kind tuning slots start))
    (hopen : x.controller.queue.closed = false) (hbegin : x.controller.CanBegin) {sought : String}
    {before behind : List String}
    (hwaiting : x.controller.queue.waiting = before ++ sought :: behind) :
    ∃ (y : Execution) (i : Nat) (held : WorkItem), Goes key x y ∧
      y.controller.workers[i]? = some (.holding held) ∧ held.key = sought := by
  induction before generalizing x behind with
  | nil =>
    obtain ⟨y, i, held, hy, hheld, hkey, -⟩ := goes_front key hx hopen hbegin hwaiting
    exact ⟨y, i, held, hy, hheld, hkey⟩
  | cons front before ih =>
    rw [List.cons_append] at hwaiting
    obtain ⟨y, -, -, hy, -, -, more, hmore⟩ := goes_front key hx hopen hbegin hwaiting
    rw [List.append_assoc, List.cons_append] at hmore
    obtain ⟨z, i, held, hz, hheld, hkey⟩ :=
      ih (hy.reachable hx) hy.isOpen (hy.canBegin hbegin) hmore.symm
    exact ⟨z, i, held, hy.trans hz, hheld, hkey⟩

end Ways

/-! ### The end of the way -/

variable {past : List (Execution × Move)} {n : Nat} {s : Sight}

/-- An item that is not where it was has come closer to its end. -/
theorem Goes.closer (h : Goes item.key x y) (hx : x.Reachable (.new kind tuning slots start))
    (hshows : x.Shows item.key s) (hstands : Stands tuning.maxRetries.toNat item n s)
    (hleft : ¬ y.Shows item.key s) :
    ∃ y m s', Goes item.key x y ∧ y.Shows item.key s' ∧ Stands tuning.maxRetries.toNat item m s' ∧
      s'.left tuning.maxRetries.toNat < s.left tuning.maxRetries.toNat := by
  obtain ⟨later, hpath, hopen, hdoomed⟩ := h
  obtain ⟨-, s', hshows', hstands', rfl | hless⟩ :=
    stands_of_path hx hshows hstands hpath hopen hdoomed
  · exact absurd hshows' hleft
  · exact ⟨y, _, s', ⟨later, hpath, hopen, hdoomed⟩, hshows', hstands', hless⟩

/-- A worker that has nothing to do with an item of a key but still has the key is releasing it. -/
theorem eq_releasing {key : String} (hat : ¬ w.Attempts key) (hkey : w.key? = some key) :
    w = .releasing key := by
  cases w with
  | idle | exited => cases hkey
  | releasing k =>
    obtain rfl := Option.some.inj hkey
    rfl
  | holding | delivering | settling | requeueing => exact absurd hkey hat

/-- An item that is parked can come to wait. -/
theorem goes_waiting (hx : x.Reachable (.new kind tuning slots start))
    (hopen : x.controller.queue.closed = false) {added : Option Nat}
    (h : x.Shows item.key ⟨some item, none, [], n, added⟩) :
    ∃ y, Goes item.key x y ∧ item.key ∈ y.controller.queue.waiting := by
  have hitem : item.key ∈ x.controller.queue.items :=
    Std.TreeMap.mem_iff_isSome_getElem?.mpr (by rw [h.pending]; rfl)
  rcases hx.consistent.tracked hopen item.key hitem with hwaiting | hprocessing
  · exact ⟨x, goes_refl hopen, hwaiting⟩
  · obtain ⟨i, w, hw, hkey⟩ := (hx.processing_iff item.key).mp hprocessing
    have hat : ¬ w.Attempts item.key := fun hat => by cases (h.worker i w).mp ⟨hw, hat⟩
    obtain rfl := eq_releasing hat hkey
    obtain ⟨y, hy, hqueue, -, -⟩ := goes_release item.key hopen hw
    refine ⟨y, hy, ?_⟩
    rw [hqueue, WorkQueue.done_fst]
    simp [hitem, hopen]

/-- As long as it is not at its end, an item can come closer to it. -/
theorem goes_on (hx : x.Reachable (.new kind tuning slots start))
    (hopen : x.controller.queue.closed = false) (hbegin : x.controller.CanBegin)
    (h : x.Shows item.key s)
    (hstands : Stands tuning.maxRetries.toNat item n s)
    (hleft : s.left tuning.maxRetries.toNat ≠ 0) :
    ∃ y m s', Goes item.key x y ∧ y.Shows item.key s' ∧ Stands tuning.maxRetries.toNat item m s' ∧
      s'.left tuning.maxRetries.toNat < s.left tuning.maxRetries.toNat := by
  have hworker : ∀ {i : Nat} {w : Worker}, s.worker = some (i, w) →
      ∃ y m s', Goes item.key x y ∧ y.Shows item.key s' ∧ Stands tuning.maxRetries.toNat item m s' ∧
        s'.left tuning.maxRetries.toNat < s.left tuning.maxRetries.toNat := by
    intro i w hseen
    obtain ⟨hw, hat⟩ := (h.worker i w).mpr hseen
    have hbusy : w ≠ .idle := by
      rintro rfl
      cases hat
    obtain ⟨y, w', hy, hworkers, hless, -⟩ := goes_work item.key hx hopen hw hbusy
    refine hy.closer hx h hstands fun hsame => ?_
    -- the worker is not what it was
    obtain ⟨hw', -⟩ := (hsame.worker i w).mpr hseen
    rw [hworkers, getElem?_setWorker hw, if_pos rfl] at hw'
    obtain rfl := Option.some.inj hw'
    exact Nat.lt_irrefl _ hless
  cases hstands with
  | pending n added hn =>
    obtain ⟨y, hy, hwaiting⟩ := goes_waiting hx hopen h
    obtain ⟨before, behind, hsplit⟩ := List.append_of_mem hwaiting
    obtain ⟨z, i, held, hz, hw, hkey⟩ :=
      goes_held item.key (hy.reachable hx) hy.isOpen (hy.canBegin hbegin) hsplit
    refine (hy.trans hz).closer hx h (.pending n added hn) fun hsame => ?_
    cases hsame.seen hw rfl hkey
  | held | failed | counted => exact hworker rfl
  | backingOff n added hn =>
    have hsole : x.retries.filter (·.item.key = item.key) = [⟨item, added⟩] := h.retries
    have hretry : (⟨item, added⟩ : Retry) ∈ x.retries.filter (·.item.key = item.key) := by
      rw [hsole]
      exact List.mem_singleton_self _
    obtain ⟨position, hposition⟩ := List.getElem?_of_mem (List.mem_filter.mp hretry).1
    obtain ⟨y, hy, hretries⟩ := goes_mature item.key hopen hposition
    refine hy.closer hx h (.backingOff n added hn) fun hsame => ?_
    obtain ⟨-, hnone⟩ := WorkQueue.filter_eraseIdx_of_sole (by simp) hposition hsole
    have hsole' := hsame.retries
    rw [hretries, hnone] at hsole'
    cases hsole'
  | gone added => exact absurd rfl hleft

/-- Nothing is left of a key once it was released, when nothing of it is pending, in work or backing
off. -/
theorem Shows.not_outstanding (h : x.Shows key s) (hx : x.Reachable (.new kind tuning slots start))
    (hpending : s.pending = none) (hretries : s.retries = [])
    (hreleased : key ∉ x.controller.queue.processing) : ¬ x.Outstanding key := by
  have hitem : key ∉ x.controller.queue.items := by
    rw [Std.TreeMap.mem_iff_isSome_getElem?, h.pending, hpending]
    simp
  have hnone := h.retries.trans hretries
  rintro (hmem | hmem | hmem | ⟨r, hr, hkey⟩)
  · exact hitem (hx.consistent.has_item key hmem)
  · exact hitem hmem
  · exact hreleased hmem
  · exact List.filter_eq_nil_iff.mp hnone r hr (decide_eq_true hkey)

/-- A key of which nothing is pending, in work or backing off can be released. -/
theorem goes_of_gone (hx : x.Reachable (.new kind tuning slots start))
    (hopen : x.controller.queue.closed = false) {added : Option Nat}
    (h : x.Shows key ⟨none, none, [], n, added⟩) :
    ∃ y, Goes key x y ∧ ¬ y.Outstanding key := by
  by_cases hprocessing : key ∈ x.controller.queue.processing
  · obtain ⟨i, w, hw, hkey⟩ := (hx.processing_iff key).mp hprocessing
    have hat : ¬ w.Attempts key := fun hat => by cases (h.worker i w).mp ⟨hw, hat⟩
    obtain rfl := eq_releasing hat hkey
    obtain ⟨y, hy, hqueue, hsame, hworkers⟩ := goes_release key hopen hw
    rw [WorkQueue.done_fst] at hqueue
    have hshows : y.Shows key ⟨none, none, [], n, added⟩ := by
      refine h.aside (by rw [hqueue]) ?_ (by rw [hsame]) (by rw [hqueue]; rfl) (by rw [hqueue])
      rw [hworkers]
      exact h.worker.aside hw hat (Worker.not_attempts rfl)
    exact ⟨y, hy, hshows.not_outstanding (hy.reachable hx) rfl rfl (by simp [hqueue])⟩
  · exact ⟨x, goes_refl hopen, h.not_outstanding hx rfl rfl hprocessing⟩

/-- A failing item can come to its end. -/
theorem goes_end (hx : x.Reachable (.new kind tuning slots start))
    (hopen : x.controller.queue.closed = false) (hbegin : x.controller.CanBegin)
    (h : x.Shows item.key s)
    (hstands : Stands tuning.maxRetries.toNat item n s) :
    ∃ y, Goes item.key x y ∧ ¬ y.Outstanding item.key := by
  induction hleft : s.left tuning.maxRetries.toNat using Nat.strongRecOn generalizing x n s with
  | _ left ih =>
    subst hleft
    by_cases hzero : s.left tuning.maxRetries.toNat = 0
    · cases hstands with
      | gone added => exact goes_of_gone hx hopen h
      | _ => cases hzero
    · obtain ⟨y, m, s', hy, hshows, hstands', hless⟩ := goes_on hx hopen hbegin h hstands hzero
      obtain ⟨z, hz, hgone⟩ :=
        ih _ hless (hy.reachable hx) hy.isOpen (hy.canBegin hbegin) hshows hstands' rfl
      exact ⟨z, hy.trans hz, hgone⟩

end Execution

end Controller

end ClusterWatch
