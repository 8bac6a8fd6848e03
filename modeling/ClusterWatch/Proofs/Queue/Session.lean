import ClusterWatch.Proofs.Queue.Operations
/-!
# Sessions of a work queue

A work queue among its users: workers that take keys and release them, retries that are backing
off, and a history of what the queue has been told and has handed out. The operations of a session
are the operations of the queue, in any order and by any number of workers; a backoff may end at any
time. What the users promise is a separate matter:

- `Entry`, `History`: what happened to a queue, the newest entry in front. `History.pending?` and
  the functions beside it say what a plain queue that coalesces by key would hold after a history.
- `Session`, `Operation`, `Session.apply`: a queue with the keys that were handed out and the
  retries that are backing off, and what each operation makes of it.
- `Exclusive`: a key is only released by the worker that holds it.
- `Protocol`: each worker takes one item at a time, deals with it once, by asking for a retry or by
  clearing the failures of the key, and then releases the key.
- `Session.Reachable`: the states of all runs under such a promise.

Notifications of a key are numbered in the order in which they were accepted. A retry carries the
number of the notification whose item it retries.
-/

namespace ClusterWatch.WorkQueue

open Time (Span)

/-! ### Histories -/

/-- Something that happened to a queue. -/
inductive Entry where
  /-- An item was inserted: that of a notification which was accepted, or that of a retry whose
  backoff was over. The number is that of the notification. -/
  | inserted (item : WorkItem) (number : Nat) (returned : Bool)
  /-- An item was handed out to a worker. -/
  | handed (worker : Nat) (item : WorkItem) (number : Nat)
  /-- A worker asked for a retry of an item. -/
  | retried (worker : Nat) (item : WorkItem) (number : Nat)
  /-- A worker released a key. -/
  | released (worker : Nat) (key : String)
  deriving DecidableEq, Repr

namespace Entry

/-- Whether something was inserted for a key. -/
def Inserts (key : String) : Entry → Prop
  | inserted item _ _ => item.key = key
  | _ => False

/-- Whether an item of a key was handed out. -/
def HandsOut (key : String) : Entry → Prop
  | handed _ item _ => item.key = key
  | _ => False

end Entry

/-- What happened to a queue, the newest entry in front. -/
abbrev History := List Entry

namespace History

/-- How many notifications of a key were accepted: the number of the last one. -/
def accepted (key : String) : History → Nat
  | [] => 0
  | .inserted item _ returned :: h =>
    if item.key = key ∧ returned = false then accepted key h + 1 else accepted key h
  | .handed .. :: h | .retried .. :: h | .released .. :: h => accepted key h

/-- How often something was inserted for a key. -/
def insertions (key : String) : History → Nat
  | [] => 0
  | .inserted item _ _ :: h => if item.key = key then insertions key h + 1 else insertions key h
  | .handed .. :: h | .retried .. :: h | .released .. :: h => insertions key h

/-- The item that was inserted last for a key, with the number of its notification, unless the key
was handed out since. -/
def pending? (key : String) : History → Option (WorkItem × Nat)
  | [] => none
  | .inserted item number _ :: h => if item.key = key then some (item, number) else pending? key h
  | .handed _ item _ :: h => if item.key = key then none else pending? key h
  | .retried .. :: h | .released .. :: h => pending? key h

/-- Whether a key was handed out and not released since. -/
def isOut (key : String) : History → Bool
  | [] => false
  | .handed _ item _ :: h => if item.key = key then true else isOut key h
  | .released _ key' :: h => if key' = key then false else isOut key h
  | .inserted .. :: h | .retried .. :: h => isOut key h

/-- The keys in the order in which they started to wait, each as often as it did: at an insertion
when nothing is pending for the key and it is not out, and at the release of a key for which
something is pending. -/
def started : History → List String
  | [] => []
  | .inserted item _ _ :: h =>
    if pending? item.key h = none ∧ isOut item.key h = false then started h ++ [item.key]
    else started h
  | .released _ key :: h => if pending? key h = none then started h else started h ++ [key]
  | .handed .. :: h | .retried .. :: h => started h

/-- The keys in the order in which they were handed out. -/
def handedKeys : History → List String
  | [] => []
  | .handed _ item _ :: h => handedKeys h ++ [item.key]
  | .inserted .. :: h | .retried .. :: h | .released .. :: h => handedKeys h

end History

/-! ### Sessions -/

/-- An item that a worker holds. -/
structure Hold where
  worker : Nat
  item : WorkItem
  /-- The number of the notification that the item came with. -/
  number : Nat
  /-- Whether the worker has asked for a retry or cleared the failures of the key. -/
  settled : Bool
  deriving DecidableEq, Repr

/-- A retry that is backing off. -/
structure Timer where
  retry : Retry
  delay : Span
  /-- The number of the notification that is retried. -/
  number : Nat
  /-- What had happened when the retry was asked for. -/
  asked : History
  deriving DecidableEq, Repr

/-- A queue among its users. -/
structure Session where
  queue : WorkQueue := {}
  backoff : Backoff := {}
  /-- The items that were handed out and not released. -/
  holds : List Hold := []
  /-- The retries that are backing off. -/
  timers : List Timer := []
  history : History := []

/-- An operation of the users of a queue. -/
inductive Operation where
  | add (item : WorkItem)
  | take (worker : Nat)
  /-- A worker asks for a retry of an item that came with the notification of the given number. -/
  | retry (worker : Nat) (item : WorkItem) (number : Nat)
  /-- The backoff of the retry at a position is over. -/
  | mature (position : Nat)
  | forget (worker : Nat) (key : String)
  | done (worker : Nat) (key : String)
  | shutDown
  deriving DecidableEq, Repr

namespace Session

/-- The items that are held after a worker has dealt with its item of a key. -/
def settle (holds : List Hold) (worker : Nat) (key : String) : List Hold :=
  holds.map fun h =>
    if h.worker = worker ∧ h.item.key = key then { h with settled := true } else h

/-- The items that are held after a worker has released a key. -/
def release (holds : List Hold) (worker : Nat) (key : String) : List Hold :=
  holds.filter fun h => ¬(h.worker = worker ∧ h.item.key = key)

/-- The number of the item that is pending for a key. -/
def pendingNumber (s : Session) (key : String) : Nat :=
  ((History.pending? key s.history).map (·.2)).getD 0

/-- The session after a worker has tried to take an item. -/
def applyTake (s : Session) (worker : Nat) : Session :=
  match s.queue.take with
  | (queue, .item item) =>
    { s with
      queue
      holds := ⟨worker, item, s.pendingNumber item.key, false⟩ :: s.holds
      history := .handed worker item (s.pendingNumber item.key) :: s.history }
  | (queue, _) => { s with queue }

/-- The session after a worker has asked for a retry. -/
def applyRetry (s : Session) (worker : Nat) (item : WorkItem) (number : Nat) : Session :=
  let (queue, retry, delay) := s.queue.addRateLimited s.backoff item
  { s with
    queue
    holds := settle s.holds worker item.key
    timers := s.timers ++ [⟨retry, delay, number, s.history⟩]
    history := .retried worker item number :: s.history }

/-- The session after the backoff of a retry is over. -/
def applyMature (s : Session) (position : Nat) (t : Timer) : Session :=
  { s with
    queue := (s.queue.mature t.retry).1
    timers := s.timers.eraseIdx position
    history :=
      if s.queue.Admits t.retry then .inserted t.retry.item t.number true :: s.history
      else s.history }

/-- The session after an operation. -/
def apply (s : Session) : Operation → Session
  | .add item =>
    { s with
      queue := (s.queue.add item).1
      history :=
        if s.queue.closed then s.history
        else .inserted item (History.accepted item.key s.history + 1) false :: s.history }
  | .take worker => s.applyTake worker
  | .retry worker item number => s.applyRetry worker item number
  | .mature position =>
    match s.timers[position]? with
    | some t => s.applyMature position t
    | none => s
  | .forget worker key =>
    { s with queue := s.queue.forget key, holds := settle s.holds worker key }
  | .done worker key =>
    { s with
      queue := (s.queue.done key).1
      holds := release s.holds worker key
      history := .released worker key :: s.history }
  | .shutDown => { s with queue := s.queue.shutDown }

/-! ### Promises and runs -/

/-- A key is only released by a worker that holds it. All else is free: items may be retried and
keys forgotten by anybody. -/
def Exclusive (s : Session) : Operation → Prop
  | .done worker key => ∃ h ∈ s.holds, h.worker = worker ∧ h.item.key = key
  | _ => True

instance (s : Session) : DecidablePred s.Exclusive
  | .done worker key =>
    inferInstanceAs (Decidable (∃ h ∈ s.holds, h.worker = worker ∧ h.item.key = key))
  | .add _ | .take _ | .retry .. | .forget .. | .mature _ | .shutDown =>
    inferInstanceAs (Decidable True)

/-- A worker takes an item when it holds none, deals with the item once, and then releases it. -/
def Protocol (s : Session) : Operation → Prop
  | .take worker => ∀ h ∈ s.holds, h.worker ≠ worker
  | .retry worker item number => ⟨worker, item, number, false⟩ ∈ s.holds
  | .forget worker key => ∃ h ∈ s.holds, h.worker = worker ∧ h.item.key = key ∧ h.settled = false
  | .done worker key => ∃ h ∈ s.holds, h.worker = worker ∧ h.item.key = key ∧ h.settled = true
  | _ => True

instance (s : Session) : DecidablePred s.Protocol
  | .add _ | .mature _ | .shutDown => inferInstanceAs (Decidable True)
  | .take worker => inferInstanceAs (Decidable (∀ h ∈ s.holds, h.worker ≠ worker))
  | .retry worker item number =>
    inferInstanceAs (Decidable (⟨worker, item, number, false⟩ ∈ s.holds))
  | .forget worker key => inferInstanceAs
    (Decidable (∃ h ∈ s.holds, h.worker = worker ∧ h.item.key = key ∧ h.settled = false))
  | .done worker key => inferInstanceAs
    (Decidable (∃ h ∈ s.holds, h.worker = worker ∧ h.item.key = key ∧ h.settled = true))

/-- An operation returns. It would not if one of its additions did not fit its count: those that
raise a count are checked, and the caller breaks down there with nothing asked for. -/
def Returns (s : Session) : Operation → Prop
  | .retry _ item _ => s.queue.HasRoom item.key
  | _ => True

instance (s : Session) : DecidablePred s.Returns
  | .retry _ item _ => inferInstanceAs (Decidable (s.queue.HasRoom item.key))
  | .add _ | .take _ | .mature _ | .forget .. | .done .. | .shutDown =>
    inferInstanceAs (Decidable True)

/-- The workers keep to their protocol, and their operations return. -/
def ReturningProtocol (s : Session) (op : Operation) : Prop :=
  s.Protocol op ∧ s.Returns op

instance (s : Session) : DecidablePred s.ReturningProtocol :=
  fun op => inferInstanceAs (Decidable (s.Protocol op ∧ s.Returns op))

/-- The states of all runs whose operations keep a promise, from an empty queue on. -/
inductive Reachable (promise : Session → Operation → Prop) (backoff : Backoff) : Session → Prop
  | start : Reachable promise backoff { backoff }
  | step {s : Session} {op : Operation} :
      Reachable promise backoff s → promise s op → Reachable promise backoff (s.apply op)

/-- The workers' protocol is a way to keep releases exclusive. -/
theorem Protocol.exclusive {s : Session} {op : Operation} (h : s.Protocol op) :
    s.Exclusive op := by
  cases op with
  | done worker key =>
    obtain ⟨hold, hmem, hworker, hkey, -⟩ := h
    exact ⟨hold, hmem, hworker, hkey⟩
  | _ => trivial

/-- A weaker promise allows at least as many runs. -/
theorem Reachable.mono {promise promise' : Session → Operation → Prop} {backoff : Backoff}
    (hweaker : ∀ s op, promise s op → promise' s op) {s : Session}
    (h : Reachable promise backoff s) : Reachable promise' backoff s := by
  induction h with
  | start => exact .start
  | step _ hop ih => exact .step ih (hweaker _ _ hop)

/-- Whatever taking an item comes to, either nothing is handed out and no other key loses its turn,
or the item of the first key that has one is. -/
theorem applyTake_cases (s : Session) (worker : Nat) :
    (s.queue.closed = true ∧ s.applyTake worker = s) ∨
    (s.queue.closed = false ∧ (∀ key ∈ s.queue.waiting, key ∉ s.queue.items) ∧
      s.applyTake worker = { s with queue := { s.queue with waiting := [] } }) ∨
    (s.queue.closed = false ∧ ∃ skipped key rest item,
      s.queue.waiting = skipped ++ key :: rest ∧ (∀ k ∈ skipped, k ∉ s.queue.items) ∧
      s.queue.items[key]? = some item ∧
      s.applyTake worker =
        { s with
          queue :=
            { s.queue with
              waiting := rest
              items := s.queue.items.erase key
              processing := s.queue.processing.insert key }
          holds := ⟨worker, item, s.pendingNumber item.key, false⟩ :: s.holds
          history := .handed worker item (s.pendingNumber item.key) :: s.history }) := by
  unfold applyTake
  rcases take_cases s.queue with ⟨hclosed, htake⟩ | ⟨hopen, hnone, htake⟩ |
    ⟨hopen, skipped, key, rest, item, hwaiting, hskipped, hitem, htake⟩
  · exact .inl ⟨hclosed, by rw [htake]⟩
  · exact .inr (.inl ⟨hopen, hnone, by rw [htake]⟩)
  · exact .inr (.inr ⟨hopen, skipped, key, rest, item, hwaiting, hskipped, hitem, by rw [htake]⟩)

/-- A queue that was shut down stays so. -/
theorem closed_apply (s : Session) (hclosed : s.queue.closed = true) (op : Operation) :
    (s.apply op).queue.closed = true := by
  -- no operation opens a queue, and those that need an open one do not apply
  cases op with
  | add item =>
    show (s.queue.add item).1.closed = true
    rw [add_of_closed hclosed, hclosed]
  | take worker =>
    show (s.applyTake worker).queue.closed = true
    rcases s.applyTake_cases worker with ⟨-, htake⟩ | ⟨hopen, -⟩ | ⟨hopen, -⟩
    · rw [htake, hclosed]
    · rw [hopen] at hclosed
      cases hclosed
    · rw [hopen] at hclosed
      cases hclosed
  | retry worker item number => exact hclosed
  | mature position =>
    simp only [apply]
    split
    · next t _ =>
      have hr : ¬ s.queue.Admits t.retry := fun hr => by simp [hr.1] at hclosed
      exact (sameWork_mature hr).closed.trans hclosed
    · exact hclosed
  | forget worker key => exact (sameWork_forget s.queue key).closed.trans hclosed
  | done worker key =>
    show (s.queue.done key).1.closed = true
    rw [done_fst, hclosed]
  | shutDown => rfl

end Session

end ClusterWatch.WorkQueue
