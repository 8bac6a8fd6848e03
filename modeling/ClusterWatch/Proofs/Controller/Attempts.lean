import ClusterWatch.Proofs.Controller.Requeues
import ClusterWatch.Proofs.Queue.Bookkeeping
/-!
# The attempts at an item that fails

An item that is the only work for its key, whose lookups all fail. It goes round: it is pending, a
worker holds it, the worker handles the failure, and a retry backs off, until the item is dropped.

- `Sight`, `Execution.Shows`: what is to be seen of a key.
- `Stands`: where the item is on its way, after a number of attempts. `Sight.left`: how far it still
  has to go.
- `Execution.Nears`: after a move the item is closer to its end, or where it was. The lemmas
  `Shows.nears_take`, `nears_fail`, `nears_count`, `nears_requeue` and `nears_drop` are the steps of
  a worker that may be a step of the item, if the worker is at work on it.
- `Execution.stands_move`: a step of the item on its way, or none.
- `Execution.Doomed`: nothing new comes in for a key and its lookups fail.

Main result: `Execution.stands_of_path`.
-/

namespace ClusterWatch

namespace Controller

/-! ### What is to be seen of a key -/

/-- Whether a worker is at work on an item of a key. -/
def Worker.Attempts (w : Worker) (key : String) : Prop :=
  w.item?.map (·.key) = some key

theorem Worker.attempts_of_item? {w : Worker} {item : WorkItem} (h : w.item? = some item)
    {key : String} : w.Attempts key ↔ item.key = key := by
  simp [Attempts, h]

theorem Worker.Attempts.key? {w : Worker} {key : String} (h : w.Attempts key) :
    w.key? = some key := by
  obtain ⟨item, hitem, rfl⟩ := Option.map_eq_some_iff.mp h
  exact Worker.key?_of_item? hitem

theorem Worker.not_attempts {w : Worker} (h : w.item? = none) {key : String} :
    ¬ w.Attempts key := by
  simp [Attempts, h]

/-- The worker that is at work on an item of a key is the given one. -/
def Sees (workers : List Worker) (key : String) (seen : Option (Nat × Worker)) : Prop :=
  ∀ (i : Nat) (w : Worker), (workers[i]? = some w ∧ w.Attempts key) ↔ seen = some (i, w)

section

variable {workers : List Worker} {key : String} {seen : Option (Nat × Worker)} {i : Nat}
  {w w' : Worker}

/-- A worker goes on that has nothing to do with the key. -/
theorem Sees.aside (h : Sees workers key seen) (hw : workers[i]? = some w) (hold : ¬ w.Attempts key)
    (hnew : ¬ w'.Attempts key) : Sees (workers.set i w') key seen := by
  intro j w₁
  rw [← h j w₁, List.getElem?_set]
  by_cases hij : i = j
  · subst hij
    obtain ⟨hlt, -⟩ := List.getElem?_eq_some_iff.mp hw
    rw [if_pos rfl, if_pos hlt, hw]
    constructor
    · rintro ⟨heq, hat⟩
      exact absurd (Option.some.inj heq ▸ hat) hnew
    · rintro ⟨heq, hat⟩
      exact absurd (Option.some.inj heq ▸ hat) hold
  · rw [if_neg hij]

/-- A worker turns to the key, or goes on with it. -/
theorem Sees.enter (h : Sees workers key seen) (hw : workers[i]? = some w)
    (hsole : w.Attempts key ∨ seen = none) (hnew : w'.Attempts key) :
    Sees (workers.set i w') key (some (i, w')) := by
  intro j w₁
  obtain ⟨hlt, -⟩ := List.getElem?_eq_some_iff.mp hw
  rw [List.getElem?_set]
  by_cases hij : i = j
  · subst hij
    rw [if_pos rfl, if_pos hlt]
    constructor
    · rintro ⟨heq, -⟩
      rw [Option.some.inj heq]
    · intro heq
      obtain ⟨-, rfl⟩ := Prod.mk.inj (Option.some.inj heq)
      exact ⟨rfl, hnew⟩
  · rw [if_neg hij, h j w₁]
    constructor
    · intro hseen
      rcases hsole with hat | hnone
      · have hsame := ((h i w).mp ⟨hw, hat⟩).symm.trans hseen
        exact absurd (Prod.mk.inj (Option.some.inj hsame)).1 hij
      · cases hnone.symm.trans hseen
    · intro heq
      exact absurd (Prod.mk.inj (Option.some.inj heq)).1 hij

/-- A worker has done with the key. -/
theorem Sees.leave (h : Sees workers key seen) (hw : workers[i]? = some w) (hold : w.Attempts key)
    (hnew : ¬ w'.Attempts key) : Sees (workers.set i w') key none := by
  intro j w₁
  obtain ⟨hlt, -⟩ := List.getElem?_eq_some_iff.mp hw
  refine iff_of_false ?_ (by simp)
  rw [List.getElem?_set]
  rintro ⟨heq, hat⟩
  split at heq
  · exact hnew (Option.some.inj heq ▸ hat)
  · next hij =>
    have hsame := ((h i w).mp ⟨hw, hold⟩).symm.trans ((h j w₁).mp ⟨heq, hat⟩)
    exact hij (Prod.mk.inj (Option.some.inj hsame)).1

end

/-- What is to be seen of a key. -/
structure Sight where
  /-- The item that waits or is parked. -/
  pending : Option WorkItem
  /-- The worker that is at work on an item of the key. -/
  worker : Option (Nat × Worker)
  /-- The retries that are backing off. -/
  retries : List Retry
  failures : Nat
  /-- The number of the last insertion. -/
  added : Option Nat

/-- How far an item is from its end, in steps of its own. -/
def Sight.left (maxRetries : Nat) (s : Sight) : Nat :=
  match s.pending, s.worker, s.retries with
  | some _, _, _ => 5 * (maxRetries - s.failures) + 5
  | none, some (_, .holding _), _ => 5 * (maxRetries - s.failures) + 4
  | none, some (_, .settling ..), _ => 5 * (maxRetries - s.failures) + 3
  | none, some (_, .requeueing ..), _ => 5 * (maxRetries - s.failures) + 2
  -- the failure is counted already
  | none, none, _ :: _ => 5 * (maxRetries - s.failures) + 6
  | _, _, _ => 0

/-- Where an item is on its way that is the only work for its key and fails whenever it is
attempted, after a number of attempts. -/
inductive Stands (maxRetries : Nat) (item : WorkItem) : Nat → Sight → Prop
  | pending (n : Nat) (added : Option Nat) : n ≤ maxRetries →
      Stands maxRetries item n ⟨some item, none, [], n, added⟩
  | held (n i : Nat) (added : Option Nat) : n ≤ maxRetries →
      Stands maxRetries item n ⟨none, some (i, .holding item), [], n, added⟩
  | failed (n i : Nat) (fault : Fault) (added : Option Nat) : n ≤ maxRetries →
      Stands maxRetries item (n + 1) ⟨none, some (i, .settling item (some fault)), [], n, added⟩
  | counted (n i : Nat) (added : Option Nat) : n ≤ maxRetries →
      Stands maxRetries item (n + 1) ⟨none, some (i, .requeueing item n), [], n, added⟩
  | backingOff (n : Nat) (added : Option Nat) : n < maxRetries →
      Stands maxRetries item (n + 1) ⟨none, none, [⟨item, added⟩], n + 1, added⟩
  | gone (added : Option Nat) : Stands maxRetries item (maxRetries + 1) ⟨none, none, [], 0, added⟩

theorem Stands.le {maxRetries n : Nat} {item : WorkItem} {s : Sight}
    (h : Stands maxRetries item n s) : n ≤ maxRetries + 1 := by
  cases h <;> omega

namespace Execution

variable {x x' : Execution} {past since : List (Execution × Move)} {key : String} {s : Sight}
  {kind : Resource.Kind} {tuning : Tuning} {slots : List Sink.Slot} {start : Time.Instant}

/-- An execution shows a sight of a key. -/
structure Shows (x : Execution) (key : String) (s : Sight) : Prop where
  pending : x.controller.queue.items[key]? = s.pending
  worker : Sees x.controller.workers key s.worker
  retries : x.retries.filter (·.item.key = key) = s.retries
  failures : x.controller.queue.failureCount key = s.failures
  added : x.controller.queue.added[key]? = s.added

/-- A step that has nothing to do with the key. -/
theorem Shows.aside (h : x.Shows key s)
    (hitems : x'.controller.queue.items[key]? = x.controller.queue.items[key]?)
    (hworkers : Sees x'.controller.workers key s.worker)
    (hretries : x'.retries.filter (·.item.key = key) = x.retries.filter (·.item.key = key))
    (hfailures : x'.controller.queue.failureCount key = x.controller.queue.failureCount key)
    (hadded : x'.controller.queue.added[key]? = x.controller.queue.added[key]?) :
    x'.Shows key s :=
  ⟨hitems.trans h.pending, hworkers, hretries.trans h.retries, hfailures.trans h.failures,
    hadded.trans h.added⟩

/-- A worker goes on that has nothing to do with the key. -/
theorem Shows.work (h : x.Shows key s) {i : Nat} {w w' : Worker}
    (hw : x.controller.workers[i]? = some w) (hold : ¬ w.Attempts key) (hnew : ¬ w'.Attempts key)
    (hworkers : x'.controller.workers = x.controller.workers.set i w')
    (hqueue : x'.controller.queue = x.controller.queue) (hretries : x'.retries = x.retries) :
    x'.Shows key s := by
  refine h.aside (by rw [hqueue]) ?_ (by rw [hretries]) (by rw [hqueue]) (by rw [hqueue])
  rw [hworkers]
  exact h.worker.aside hw hold hnew

/-- The failures of another key are cleared. -/
theorem Shows.settle (h : x.Shows key s) {i : Nat} {w : Worker} {item : WorkItem}
    (hw : x.controller.workers[i]? = some w) (hitem : w.item? = some item) (hne : item.key ≠ key)
    (hworkers : x'.controller.workers = x.controller.workers.set i (.releasing item.key))
    (hqueue : x'.controller.queue = x.controller.queue.forget item.key)
    (hretries : x'.retries = x.retries) : x'.Shows key s := by
  refine h.aside ?_ ?_ (by rw [hretries]) ?_ ?_
  · rw [hqueue, (WorkQueue.sameWork_forget _ _).items]
  · rw [hworkers]
    exact h.worker.aside hw (fun hat => hne ((Worker.attempts_of_item? hitem).mp hat))
      (Worker.not_attempts rfl)
  · rw [hqueue, WorkQueue.failureCount_forget, if_neg hne]
  · rw [hqueue, WorkQueue.added_forget, if_neg fun hboth => hne hboth.1]

/-- Whether a lookup of a key fails that a step makes. -/
def FailsAt (key : String) (p : Execution × Move) : Prop :=
  ∀ v, visit? p = some v → v.item.key = key → ∃ fault, v.found = .error fault

/-- The attempts at the items of a key on a path. -/
def attempts (key : String) (past : List (Execution × Move)) : Nat :=
  ((visits past).filter (·.item.key = key)).length

theorem attempts_cons (key : String) (p : Execution × Move) (past : List (Execution × Move)) :
    attempts key (p :: past) = attempts key past + attempts key [p] := by
  unfold attempts
  rw [visits_cons, visits_cons, List.filter_append, List.length_append, Nat.add_comm]
  simp [visits]

/-- The lookup of an item of the key fails. -/
theorem FailsAt.begin {i : Nat} {found : Except Fault (Option Resource)} {held : WorkItem}
    (h : FailsAt key (x, .act (.begin i found)))
    (hw : x.controller.workers[i]? = some (.holding held)) (hkey : held.key = key) :
    ∃ fault, found = .error fault :=
  h _ (visit?_eq_some_iff.mpr ⟨i, found, held, rfl, hw, rfl⟩) hkey

section

variable {item : WorkItem} {n maxRetries : Nat}

/-- A worker looks its item up. -/
theorem attempts_begin {i : Nat} {found : Except Fault (Option Resource)} {held : WorkItem}
    (hw : x.controller.workers[i]? = some (.holding held)) (key : String) :
    attempts key [(x, .act (.begin i found))] = if held.key = key then 1 else 0 := by
  unfold attempts
  rw [visits_cons]
  simp only [visit?, hw]
  by_cases hkey : held.key = key
  · simp [hkey, visits]
  · simp [hkey, visits]

/-- The worker that is seen at work on an item of the key. -/
theorem Shows.seen (h : x.Shows key s) {i : Nat} {w : Worker} {held : WorkItem}
    (hw : x.controller.workers[i]? = some w) (hheld : w.item? = some held) (hkey : held.key = key) :
    s.worker = some (i, w) :=
  (h.worker i w).mp ⟨hw, (Worker.attempts_of_item? hheld).mpr hkey⟩

/-! ### The way of the item -/

/-- The item is handed out. -/
theorem Shows.take {added : Option Nat} (h : x.Shows item.key ⟨some item, none, [], n, added⟩)
    {i : Nat} {rest : List String} (hidle : x.controller.workers[i]? = some .idle)
    (hqueue : x'.controller.queue = { x.controller.queue with
      waiting := rest
      items := x.controller.queue.items.erase item.key
      processing := x.controller.queue.processing.insert item.key })
    (hworkers : x'.controller.workers = x.controller.workers.set i (.holding item))
    (hretries : x'.retries = x.retries) :
    x'.Shows item.key ⟨none, some (i, .holding item), [], n, added⟩ := by
  refine ⟨by simp [hqueue], ?_, hretries ▸ h.retries, ?_, ?_⟩
  · rw [hworkers]
    exact h.worker.enter hidle (.inr rfl) ((Worker.attempts_of_item? rfl).mpr rfl)
  · rw [hqueue]
    exact h.failures
  · rw [hqueue]
    exact h.added

/-- The worker that is at work on the item goes on with it. -/
theorem Shows.goOn {pending : Option WorkItem} {i : Nat} {w : Worker} {retries : List Retry}
    {added : Option Nat} (h : x.Shows item.key ⟨pending, some (i, w), retries, n, added⟩)
    {w' : Worker} (hitem : w'.item? = some item)
    (hqueue : x'.controller.queue = x.controller.queue)
    (hworkers : x'.controller.workers = x.controller.workers.set i w')
    (hretries : x'.retries = x.retries) :
    x'.Shows item.key ⟨pending, some (i, w'), retries, n, added⟩ := by
  obtain ⟨hw, hat⟩ := (h.worker i w).mpr rfl
  refine ⟨hqueue ▸ h.pending, ?_, hretries ▸ h.retries, hqueue ▸ h.failures, hqueue ▸ h.added⟩
  rw [hworkers]
  exact h.worker.enter hw (.inl hat) ((Worker.attempts_of_item? hitem).mpr rfl)

/-- The item is queued again. -/
theorem Shows.requeue {i : Nat} {w : Worker} {added : Option Nat}
    (h : x.Shows item.key ⟨none, some (i, w), [], n, added⟩) (backoff : Backoff)
    (hfits : x.controller.queue.failureCount item.key + 1 < UInt32.size)
    (hqueue : x'.controller.queue = (x.controller.queue.addRateLimited backoff item).1)
    (hworkers : x'.controller.workers = x.controller.workers.set i (.releasing item.key))
    (hretries : x'.retries = x.retries ++ [⟨item, x.controller.queue.added[item.key]?⟩]) :
    x'.Shows item.key ⟨none, none, [⟨item, added⟩], n + 1, added⟩ := by
  obtain ⟨hw, hat⟩ := (h.worker i w).mpr rfl
  refine ⟨?_, ?_, ?_, ?_, ?_⟩
  · rw [hqueue]
    exact h.pending
  · rw [hworkers]
    exact h.worker.leave hw hat (Worker.not_attempts rfl)
  · rw [hretries, List.filter_append, h.retries, h.added]
    simp
  · rw [hqueue, WorkQueue.failureCount_addRateLimited _ hfits, if_pos rfl, h.failures]
  · rw [hqueue]
    exact h.added

/-- The item is dropped. -/
theorem Shows.drop {i : Nat} {w : Worker} {added : Option Nat}
    (h : x.Shows item.key ⟨none, some (i, w), [], n, added⟩)
    (hqueue : x'.controller.queue = x.controller.queue.forget item.key)
    (hworkers : x'.controller.workers = x.controller.workers.set i (.releasing item.key))
    (hretries : x'.retries = x.retries) :
    x'.Shows item.key ⟨none, none, [], 0, x'.controller.queue.added[item.key]?⟩ := by
  obtain ⟨hw, hat⟩ := (h.worker i w).mpr rfl
  refine ⟨?_, ?_, hretries ▸ h.retries, ?_, rfl⟩
  · rw [hqueue, (WorkQueue.sameWork_forget _ _).items]
    exact h.pending
  · rw [hworkers]
    exact h.worker.leave hw hat (Worker.not_attempts rfl)
  · rw [hqueue, WorkQueue.failureCount_forget, if_pos rfl]

/-- The backoff of the item is over. Nothing was inserted for its key meanwhile, so that the item
is. -/
theorem Shows.mature {added : Option Nat}
    (h : x.Shows item.key ⟨none, none, [⟨item, added⟩], n, added⟩)
    {position : Nat} {retry : Retry} (hkey : retry.item.key = item.key)
    (hretry : x.retries[position]? = some retry) (hopen : x.controller.queue.closed = false)
    (hqueue : x'.controller.queue = (x.controller.queue.mature retry).1)
    (hworkers : x'.controller.workers = x.controller.workers)
    (hretries : x'.retries = x.retries.eraseIdx position) :
    x'.Shows item.key ⟨some item, none, [], n, x'.controller.queue.added[item.key]?⟩ := by
  obtain ⟨rfl, hrest⟩ := WorkQueue.filter_eraseIdx_of_sole (by simpa using hkey) hretry h.retries
  have hadmits : x.controller.queue.Admits ⟨item, added⟩ := ⟨hopen, h.added⟩
  refine ⟨?_, hworkers ▸ h.worker, hretries ▸ hrest, ?_, rfl⟩
  · rw [hqueue, WorkQueue.mature_of_admits hadmits]
    simp
  · rw [hqueue]
    exact (WorkQueue.failureCount_congr (WorkQueue.failures_mature _ _) _).trans h.failures

/-! ### Closer to the end -/

/-- An execution shows the item after a number of attempts, closer to its end than it was or where
it was. -/
def Nears (x : Execution) (maxRetries : Nat) (item : WorkItem) (n : Nat) (before : Sight) : Prop :=
  ∃ s, x.Shows item.key s ∧ Stands maxRetries item n s ∧
    (s = before ∨ s.left maxRetries < before.left maxRetries)

/-- A step that has nothing to do with the item leaves it where it is. -/
theorem Shows.nears_aside (h : x.Shows item.key s) (hstands : Stands maxRetries item n s) :
    x.Nears maxRetries item n s :=
  ⟨s, h, hstands, .inl rfl⟩

/-- A worker at work on an item of another key is not at work on one of this key. -/
theorem not_attempts_of_ne {w : Worker} {held : WorkItem} (hheld : w.item? = some held)
    (hne : held.key ≠ item.key) : ¬ w.Attempts item.key :=
  fun hat => hne ((Worker.attempts_of_item? hheld).mp hat)

/-- An idle worker takes an item. -/
theorem Shows.nears_take (h : x.Shows item.key s) (hstands : Stands maxRetries item n s) {i : Nat}
    {held : WorkItem} {rest : List String} (hidle : x.controller.workers[i]? = some .idle)
    (hitem : x.controller.queue.items[held.key]? = some held)
    (hqueue : x'.controller.queue = { x.controller.queue with
      waiting := rest
      items := x.controller.queue.items.erase held.key
      processing := x.controller.queue.processing.insert held.key })
    (hworkers : x'.controller.workers = x.controller.workers.set i (.holding held))
    (hretries : x'.retries = x.retries) : x'.Nears maxRetries item n s := by
  by_cases hkey : held.key = item.key
  · -- the only item of the key is the pending one
    rw [hkey, h.pending] at hitem
    cases hstands with
    | pending n added hn =>
      obtain rfl := Option.some.inj hitem
      exact ⟨_, h.take hidle hqueue hworkers hretries, .held n i added hn,
        .inr (Nat.lt_succ_self _)⟩
    | _ => cases hitem
  · refine (h.aside ?_ ?_ (by rw [hretries]) (by rw [hqueue]; rfl) (by rw [hqueue])).nears_aside
      hstands
    · rw [hqueue]
      simp [Std.TreeMap.getElem?_erase, hkey]
    · rw [hworkers]
      exact h.worker.aside hidle (Worker.not_attempts rfl) (not_attempts_of_ne rfl hkey)

/-- The lookup of a worker fails. That is an attempt at the item if the worker holds it. -/
theorem Shows.nears_fail (h : x.Shows item.key s) (hstands : Stands maxRetries item n s) {i : Nat}
    {held : WorkItem} {fault : Fault} (hw : x.controller.workers[i]? = some (.holding held))
    (hqueue : x'.controller.queue = x.controller.queue)
    (hworkers : x'.controller.workers = x.controller.workers.set i (.settling held (some fault)))
    (hretries : x'.retries = x.retries) :
    x'.Nears maxRetries item (n + if held.key = item.key then 1 else 0) s := by
  by_cases hkey : held.key = item.key
  · rw [if_pos hkey]
    have hworker := h.seen hw rfl hkey
    cases hstands with
    | held n j added hn =>
      obtain ⟨rfl, hsame⟩ := Prod.mk.inj (Option.some.inj hworker)
      obtain rfl := Worker.holding.inj hsame
      exact ⟨_, h.goOn rfl hqueue hworkers hretries, .failed n j fault added hn,
        .inr (Nat.lt_succ_self _)⟩
    | _ => cases hworker
  · rw [if_neg hkey]
    exact (h.work hw (not_attempts_of_ne rfl hkey) (not_attempts_of_ne rfl hkey) hworkers hqueue
      hretries).nears_aside hstands

/-- A worker reads how often the key of its failed item has failed. -/
theorem Shows.nears_count (h : x.Shows item.key s) (hstands : Stands maxRetries item n s) {i : Nat}
    {held : WorkItem} {fault : Fault}
    (hw : x.controller.workers[i]? = some (.settling held (some fault)))
    (hqueue : x'.controller.queue = x.controller.queue)
    (hworkers : x'.controller.workers = x.controller.workers.set i
      (.requeueing held (x.controller.queue.failureCount held.key)))
    (hretries : x'.retries = x.retries) : x'.Nears maxRetries item n s := by
  by_cases hkey : held.key = item.key
  · have hworker := h.seen hw rfl hkey
    cases hstands with
    | failed n j fault' added hn =>
      obtain ⟨rfl, hsame⟩ := Prod.mk.inj (Option.some.inj hworker)
      obtain ⟨rfl, -⟩ := Worker.settling.inj hsame
      have hcount : x.controller.queue.failureCount item.key = n := h.failures
      rw [hcount] at hworkers
      exact ⟨_, h.goOn rfl hqueue hworkers hretries, .counted n j added hn,
        .inr (Nat.lt_succ_self _)⟩
    | _ => cases hworker
  · exact (h.work hw (not_attempts_of_ne rfl hkey) (not_attempts_of_ne rfl hkey) hworkers hqueue
      hretries).nears_aside hstands

/-- A worker queues its failed item again. -/
theorem Shows.nears_requeue (h : x.Shows item.key s) (hstands : Stands maxRetries item n s)
    {i failures : Nat} {held : WorkItem} (backoff : Backoff)
    (hw : x.controller.workers[i]? = some (.requeueing held failures))
    (hless : failures < maxRetries)
    (hfits : x.controller.queue.failureCount held.key + 1 < UInt32.size)
    (hqueue : x'.controller.queue = (x.controller.queue.addRateLimited backoff held).1)
    (hworkers : x'.controller.workers = x.controller.workers.set i (.releasing held.key))
    (hretries : x'.retries = x.retries ++ [⟨held, x.controller.queue.added[held.key]?⟩]) :
    x'.Nears maxRetries item n s := by
  by_cases hkey : held.key = item.key
  · have hworker := h.seen hw rfl hkey
    cases hstands with
    | counted n j added hn =>
      obtain ⟨rfl, hsame⟩ := Prod.mk.inj (Option.some.inj hworker)
      obtain ⟨rfl, rfl⟩ := Worker.requeueing.inj hsame
      refine ⟨_, h.requeue backoff hfits hqueue hworkers hretries, .backingOff n added hless,
        .inr ?_⟩
      simp only [Sight.left]
      omega
    | _ => cases hworker
  · refine (h.aside (by rw [hqueue]; rfl) ?_ ?_ ?_ (by rw [hqueue]; rfl)).nears_aside hstands
    · rw [hworkers]
      exact h.worker.aside hw (not_attempts_of_ne rfl hkey) (Worker.not_attempts rfl)
    · rw [hretries, List.filter_append]
      simp [hkey]
    · rw [hqueue, WorkQueue.failureCount_addRateLimited_other _ _ hkey]

/-- A worker drops its failed item. -/
theorem Shows.nears_drop (h : x.Shows item.key s) (hstands : Stands maxRetries item n s)
    {i failures : Nat} {held : WorkItem}
    (hw : x.controller.workers[i]? = some (.requeueing held failures))
    (hmany : maxRetries ≤ failures)
    (hqueue : x'.controller.queue = x.controller.queue.forget held.key)
    (hworkers : x'.controller.workers = x.controller.workers.set i (.releasing held.key))
    (hretries : x'.retries = x.retries) : x'.Nears maxRetries item n s := by
  by_cases hkey : held.key = item.key
  · have hworker := h.seen hw rfl hkey
    cases hstands with
    | counted n j added hn =>
      obtain ⟨rfl, hsame⟩ := Prod.mk.inj (Option.some.inj hworker)
      obtain ⟨rfl, rfl⟩ := Worker.requeueing.inj hsame
      obtain rfl := Nat.le_antisymm hn hmany
      exact ⟨_, h.drop hqueue hworkers hretries, .gone _, .inr (Nat.succ_pos _)⟩
    | _ => cases hworker
  · exact (h.settle hw rfl hkey hworkers hqueue hretries).nears_aside hstands

/-- A worker releases a key. What there is to see of a key is the work for it, which the release
does not touch. -/
theorem Shows.release (h : x.Shows item.key s) {i : Nat} {key : String}
    (hw : x.controller.workers[i]? = some (.releasing key))
    (hqueue : x'.controller.queue = (x.controller.queue.done key).1)
    (hworkers : x'.controller.workers = x.controller.workers.set i .idle)
    (hretries : x'.retries = x.retries) : x'.Shows item.key s := by
  rw [WorkQueue.done_fst] at hqueue
  refine h.aside (by rw [hqueue]) ?_ (by rw [hretries]) (by rw [hqueue]; rfl) (by rw [hqueue])
  rw [hworkers]
  exact h.worker.aside hw (Worker.not_attempts rfl) (Worker.not_attempts rfl)

/-- A step takes the item closer to its end, or has nothing to do with it. -/
theorem stands_of_does (hx : x.Reachable (.new kind tuning slots start)) (h : x.Shows item.key s)
    (hstands : Stands tuning.maxRetries.toNat item n s) {step : Step} {c : Controller}
    {effects : List Effect} (hdoes : x.controller.Does step c effects)
    (hmature : ∀ retry, step ≠ .mature retry) (hfails : FailsAt item.key (x, .act step)) :
    (x.after step (c, effects)).Nears tuning.maxRetries.toNat item
      (n + attempts item.key [(x, .act step)]) s := by
  have hnil : x.retries ++ askedRetries [] = x.retries := List.append_nil _
  have htuning : x.controller.tuning = tuning := hx.sameSettings.tuning
  cases hdoes with
  | mature retry => exact absurd rfl (hmature retry)
  | start | late | early | tick | stop | abandon | drain | finish | clear =>
    exact Shows.nears_aside (h.aside rfl h.worker (congrArg _ hnil) rfl rfl) hstands
  | begun now deadline hstage =>
    refine Shows.nears_aside (h.aside rfl ?_ (congrArg _ hnil) rfl rfl) hstands
    -- the workers begin idle, where there were none
    have hnone := h.worker
    rw [hx.workers_eq_nil (.inr ⟨deadline, false, hstage⟩)] at hnone
    intro i w
    rw [← hnone i w]
    refine iff_of_false ?_ (by simp)
    rintro ⟨hw, hat⟩
    obtain rfl := List.eq_of_mem_replicate (List.mem_of_getElem? hw)
    cases hat
  | exit i hidle =>
    exact Shows.nears_aside
      (h.work hidle (Worker.not_attempts rfl) (Worker.not_attempts rfl) rfl rfl hnil) hstands
  | take i queue held hidle htake =>
    obtain ⟨hitem, rest, -, rfl⟩ := hx.consistent.eq_of_take htake
    exact h.nears_take hstands hidle hitem rfl rfl hnil
  | fail i found held fault hw houtcome =>
    rw [attempts_begin hw]
    exact h.nears_fail hstands hw rfl rfl hnil
  | skip i found held hw houtcome =>
    rw [attempts_begin hw]
    by_cases hkey : held.key = item.key
    · obtain ⟨fault, rfl⟩ := hfails.begin hw hkey
      cases houtcome
    · rw [if_neg hkey]
      exact Shows.nears_aside
        (h.work hw (not_attempts_of_ne rfl hkey) (not_attempts_of_ne rfl hkey) rfl rfl hnil) hstands
  | send i found held notification event hw houtcome =>
    rw [attempts_begin hw]
    by_cases hkey : held.key = item.key
    · obtain ⟨fault, rfl⟩ := hfails.begin hw hkey
      cases houtcome
    · rw [if_neg hkey]
      have hframe := x.controller.frame_keep held.key found (.send notification event)
      refine Shows.nears_aside (h.work hw (not_attempts_of_ne rfl hkey)
        (not_attempts_of_ne (item?_awaiting held _) hkey)
        (congrArg (List.set · i _) hframe.workers) hframe.queue ?_) hstands
      simp [after, askedRetries]
  | delivered i sink held pending hw =>
    by_cases hkey : held.key = item.key
    · have hworker := h.seen hw rfl hkey
      cases hstands <;> cases hworker
    · exact Shows.nears_aside (h.work hw (not_attempts_of_ne rfl hkey)
        (not_attempts_of_ne (item?_awaiting held _) hkey) rfl rfl hnil) hstands
  | succeed i held hw =>
    by_cases hkey : held.key = item.key
    · have hworker := h.seen hw rfl hkey
      cases hstands <;> cases hworker
    · exact Shows.nears_aside (h.settle hw rfl hkey rfl rfl hnil) hstands
  | count i held fault hw => exact h.nears_count hstands hw rfl rfl hnil
  | requeue i held failures hw hless =>
    have hfits := hx.counted.fits hw hless
    exact h.nears_requeue hstands x.controller.tuning.backoff hw (htuning ▸ hless) hfits rfl rfl rfl
  | drop i held failures hw hmany =>
    exact h.nears_drop hstands hw (htuning ▸ hmany) rfl rfl hnil
  | release i key hw => exact Shows.nears_aside (h.release hw rfl rfl hnil) hstands

/-- A move takes the item closer to its end, or has nothing to do with it. -/
theorem stands_move (hx : x.Reachable (.new kind tuning slots start)) (h : x.Shows item.key s)
    (hstands : Stands tuning.maxRetries.toNat item n s) {move : Move}
    (hmove : x.advance? move = some x') (hopen : x'.controller.queue.closed = false)
    (hquiet : ∀ call, move = .notify call → call.key ≠ item.key)
    (hfails : FailsAt item.key (x, move)) :
    x'.Nears tuning.maxRetries.toNat item (n + attempts item.key [(x, move)]) s := by
  rcases advance?_cases hmove with ⟨call, rfl, rfl⟩ | ⟨step, c, effects, rfl, hmature, hdoes, rfl⟩ |
    ⟨position, retry, rfl, hretry, rfl⟩
  · rcases x.controller.notify_eq call with hsame | ⟨added, hcall, hadd⟩
    · rw [hsame]
      exact Shows.nears_aside (h.aside rfl h.worker rfl rfl rfl) hstands
    · have hne : added.key ≠ item.key := hcall ▸ hquiet call rfl
      obtain ⟨hitems, hadded⟩ := WorkQueue.add_other (q := x.controller.queue) hne
      rw [hadd]
      have hfailures := WorkQueue.failureCount_congr
        (WorkQueue.failures_add x.controller.queue added) item.key
      exact Shows.nears_aside (h.aside hitems h.worker rfl hfailures hadded) hstands
  · exact stands_of_does hx h hstands hdoes hmature hfails
  -- the timer of this item puts it back into the queue, where it is closer to the end
  · by_cases hkey : retry.item.key = item.key
    · rw [WorkQueue.closed_mature] at hopen
      have hmem : retry ∈ s.retries := by
        rw [← h.retries]
        exact List.mem_filter.mpr ⟨List.mem_of_getElem? hretry, by simpa using hkey⟩
      cases hstands with
      | backingOff n added hn =>
        refine ⟨_, h.mature hkey hretry hopen rfl rfl rfl, .pending (n + 1) _ hn, .inr ?_⟩
        simp only [Sight.left]
        omega
      | _ => cases hmem
    · obtain ⟨hitems, hadded⟩ := WorkQueue.mature_other (q := x.controller.queue) hkey
      have hfailures := WorkQueue.failureCount_congr
        (WorkQueue.failures_mature x.controller.queue retry) item.key
      have hrest := WorkQueue.filter_eraseIdx_of_neg
        (p := fun r : Retry => r.item.key = item.key) (by simpa using hkey) hretry
      exact Shows.nears_aside (h.aside hitems h.worker hrest hfailures hadded) hstands

/-- An item that a worker looks up under the key is the item. -/
theorem Shows.item_of_visit (h : x.Shows item.key s) (hstands : Stands maxRetries item n s)
    {move : Move} {v : Visit} (hv : visit? (x, move) = some v) (hkey : v.item.key = item.key) :
    v.item = item := by
  obtain ⟨i, found, held, -, hw, rfl⟩ := visit?_eq_some_iff.mp hv
  have hworker := h.seen hw rfl hkey
  cases hstands with
  | held n j added hn => exact (Worker.holding.inj (Prod.mk.inj (Option.some.inj hworker)).2).symm
  | _ => cases hworker

/-! ### All the way -/

/-- Nothing new comes in for a key on a path, and its lookups fail. -/
def Doomed (key : String) (since : List (Execution × Move)) : Prop :=
  ∀ p ∈ since, (∀ call, p.2 = .notify call → call.key ≠ key) ∧ FailsAt key p

theorem Reachable.path {c : Controller} (hx : x.Reachable c) (h : Path advance? x since x') :
    x'.Reachable c :=
  h.invariant hx fun hy hmove => hy.move hmove

/-- The item goes its way: all attempts at its key are attempts at it, where it stands is by how
many there were, and it never falls back. -/
theorem stands_of_path (hx : x.Reachable (.new kind tuning slots start)) (h : x.Shows item.key s)
    (hstands : Stands tuning.maxRetries.toNat item n s) (hpath : Path advance? x since x')
    (hopen : x'.controller.queue.closed = false) (hdoomed : Doomed item.key since) :
    (∀ v ∈ visits since, v.item.key = item.key → v.item = item) ∧
      x'.Nears tuning.maxRetries.toNat item (n + attempts item.key since) s := by
  induction hpath with
  | start => exact ⟨by simp [visits], s, h, hstands, .inl rfl⟩
  | @move since y z move hpath hmove ih =>
    have hy := hx.path hpath
    -- a queue that is open now was open all along
    have hopen' : y.controller.queue.closed = false := by
      by_contra hclosed
      rw [hy.closed_of_closed hmove (by simpa using hclosed)] at hopen
      cases hopen
    obtain ⟨hquiet, hfails⟩ := hdoomed _ List.mem_cons_self
    obtain ⟨hitems, s', h', hstands', hleft⟩ :=
      ih hopen' fun p hp => hdoomed p (List.mem_cons_of_mem _ hp)
    refine ⟨fun v hv hkey => ?_, ?_⟩
    · rw [visits_cons, List.mem_append, Option.mem_toList] at hv
      rcases hv with hnew | hold
      · exact h'.item_of_visit hstands' hnew hkey
      · exact hitems v hold hkey
    -- what is left never grows, so one step down along the way is enough
    · rw [attempts_cons, ← Nat.add_assoc]
      obtain ⟨s'', h'', hstands'', rfl | hless⟩ :=
        stands_move hy h' hstands' hmove hopen hquiet hfails
      · exact ⟨_, h'', hstands'', hleft⟩
      · refine ⟨s'', h'', hstands'', .inr ?_⟩
        rcases hleft with rfl | hless'
        · exact hless
        · exact Nat.lt_trans hless hless'

/-- An item that has not been attempted is all there is of its key: it is pending, or a worker is
about to look it up. -/
structure Fresh (x : Execution) (item : WorkItem) : Prop where
  failures : x.controller.queue.failureCount item.key = 0
  retries : ∀ r ∈ x.retries, r.item.key ≠ item.key
  sole :
    (x.controller.queue.items[item.key]? = some item ∧
      ∀ (i : Nat) (w : Worker), x.controller.workers[i]? = some w → ¬ w.Attempts item.key) ∨
    (x.controller.queue.items[item.key]? = none ∧
      ∃ i : Nat, x.controller.workers[i]? = some (.holding item))

theorem Fresh.stands (hx : x.Reachable (.new kind tuning slots start)) (h : x.Fresh item) :
    ∃ s, x.Shows item.key s ∧ Stands tuning.maxRetries.toNat item 0 s := by
  have hretries : x.retries.filter (·.item.key = item.key) = [] := by
    simpa using h.retries
  rcases h.sole with ⟨hitem, hnone⟩ | ⟨hitem, i, hw⟩
  · refine ⟨⟨some item, none, [], 0, _⟩, ⟨hitem, fun i w => ?_, hretries, h.failures, rfl⟩,
      .pending 0 _ (Nat.zero_le _)⟩
    exact iff_of_false (fun hboth => hnone i w hboth.1 hboth.2) (by simp)
  · refine ⟨⟨none, some (i, .holding item), [], 0, _⟩,
      ⟨hitem, fun j w => ?_, hretries, h.failures, rfl⟩, .held 0 i _ (Nat.zero_le _)⟩
    constructor
    · rintro ⟨hw', hat⟩
      obtain rfl := hx.worker_unique hw hw' rfl hat.key?
      rw [hw] at hw'
      rw [Option.some.inj hw']
    · intro heq
      obtain ⟨rfl, rfl⟩ := Prod.mk.inj (Option.some.inj heq)
      exact ⟨hw, (Worker.attempts_of_item? rfl).mpr rfl⟩

/-- There is something left of a key. -/
def Outstanding (x : Execution) (key : String) : Prop :=
  key ∈ x.controller.queue.waiting ∨ key ∈ x.controller.queue.items ∨
    key ∈ x.controller.queue.processing ∨ ∃ r ∈ x.retries, r.item.key = key

/-- When nothing is left of the key, the item was dropped after its last attempt. -/
theorem Shows.of_not_outstanding (hx : x.Reachable (.new kind tuning slots start))
    (h : x.Shows item.key s) (hstands : Stands tuning.maxRetries.toNat item n s)
    (hgone : ¬ x.Outstanding item.key) :
    n = tuning.maxRetries.toNat + 1 ∧ x.controller.queue.failureCount item.key = 0 := by
  -- a worker that is at work on the item has its key in process
  have hbusy : ∀ {i : Nat} {w : Worker}, s.worker ≠ some (i, w) := by
    intro i w hworker
    obtain ⟨hw, hat⟩ := (h.worker i w).mpr hworker
    exact hgone (.inr (.inr (.inl ((hx.processing_iff item.key).mpr ⟨i, w, hw, hat.key?⟩))))
  cases hstands with
  | pending n added hn =>
    have hitem := Std.TreeMap.mem_iff_isSome_getElem?.mpr (by rw [h.pending]; rfl)
    exact absurd (.inr (.inl hitem)) hgone
  | held => exact absurd rfl hbusy
  | failed => exact absurd rfl hbusy
  | counted => exact absurd rfl hbusy
  | backingOff n added hn =>
    have hretry : (⟨item, added⟩ : Retry) ∈ x.retries.filter (·.item.key = item.key) := by
      rw [h.retries]
      exact List.mem_singleton_self _
    exact absurd (.inr (.inr (.inr ⟨_, (List.mem_filter.mp hretry).1, rfl⟩))) hgone
  | gone added => exact ⟨rfl, h.failures⟩

end

end Execution

end Controller

end ClusterWatch
