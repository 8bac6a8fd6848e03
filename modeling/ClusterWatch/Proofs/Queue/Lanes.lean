import ClusterWatch.Proofs.Path
import ClusterWatch.Proofs.Queue.Bookkeeping
import ClusterWatch.Proofs.Queue.Exclusivity
/-!
# Keys do not interfere

All keys share the list of those that wait, one counter for insertions, and maps. Still, what
happens to a key is settled by the steps about the key alone: its notifications, the hand-outs of
its items, its retries and the ends of their backoffs, its releases, and the shutdown.

- `Turn`, `turn?`: a step as a key sees it. `turns`: the steps about a key on a path.
- `Answer`, `answer`: what the caller of an operation learns.
- `Seen`: what a retry saw when it was asked for, as against what is recorded now. Numbers are
  compared for being equal only, so that this is all there is to tell about them.
- `Lane`: what a queue has of one key. `Lane.apply` is what a step about the key makes of it, with
  no other key in sight, and no number of an insertion either.
- `Session.lane`: the lane of a key in a session. `Reachable.follows`: a step about the key is a
  step of its lane, and every other step leaves the lane alone.
- `Session.waits_of_path`: whether the key waits, as long as keys are released by their holders.

Main result: `Session.keys_separate`.
-/

namespace ClusterWatch.WorkQueue

open Time (Span)
open History

/-! ### One key -/

/-- A step about a key. -/
inductive Turn where
  | added (item : WorkItem)
  /-- An item of the key is handed out. -/
  | handed
  | retried (item : WorkItem)
  /-- The backoff of a retry is over, by its place among the retries of the key that are backing
  off. -/
  | matured (place : Nat)
  | forgot
  | released
  | shutDown
  deriving DecidableEq, Repr

/-- What the caller of an operation learns. -/
inductive Answer where
  | nothing
  /-- The item that is handed out. -/
  | item (item : WorkItem)
  /-- The time to back off. -/
  | delay (delay : Span)
  /-- Whether a retry was inserted at the end of its backoff. -/
  | fate (inserted : Bool)
  deriving DecidableEq, Repr

/-- What a retry saw when it was asked for. -/
inductive Seen where
  /-- No number was recorded for the key. -/
  | nothing
  /-- The number that is recorded for the key now. -/
  | recorded
  /-- A number that is not recorded any more. -/
  | replaced
  deriving DecidableEq, Repr

namespace Seen

/-- What a retry saw, as against the number that is recorded. -/
def of (added : Option Nat) : Option Nat → Seen
  | none => nothing
  | some number => if added = some number then recorded else replaced

/-- The same after the recorded number has changed to one that the retry cannot have seen. -/
def passed : Seen → Seen
  | nothing => nothing
  | recorded | replaced => replaced

/-- Whether the retry saw what is recorded, by whether a number is recorded at all. -/
def agrees (numbered : Bool) : Seen → Bool
  | nothing => !numbered
  | recorded => numbered
  | replaced => false

theorem agrees_of (added seen : Option Nat) :
    (of added seen).agrees added.isSome = decide (added = seen) := by
  cases seen with
  | none => cases added <;> rfl
  | some n =>
    by_cases heq : added = some n
    · simp [of, heq, agrees]
    · simp [of, heq, agrees]

/-- A number was recorded that no retry has seen, or none is recorded any more. -/
theorem of_eq_passed {added added' seen : Option Nat} (hnew : added' = none ∨ added' ≠ seen) :
    of added' seen = (of added seen).passed := by
  cases seen with
  | none => rfl
  | some n =>
    have hne : added' ≠ some n := by
      rcases hnew with rfl | hne
      · exact nofun
      · exact hne
    simp only [of, if_neg hne]
    split <;> rfl

end Seen

/-- What a queue has of one key. -/
structure Lane where
  pending : Option WorkItem := none
  inProcess : Bool := false
  /-- The count of its failures, if there is one. -/
  failures : Option UInt32 := none
  /-- The count of its retries, if there is one. -/
  retrying : Option UInt32 := none
  /-- Whether the number of an insertion is recorded. -/
  numbered : Bool := false
  /-- The retries that are backing off, and what each of them saw. -/
  retries : List (WorkItem × Seen) := []
  closed : Bool := false
  deriving DecidableEq, Repr

namespace Lane

/-- An insertion takes the place of what was pending, and has a number of its own. -/
def insert (l : Lane) (item : WorkItem) : Lane :=
  { l with
    pending := some item
    numbered := true
    retries := l.retries.map fun r => (r.1, r.2.passed) }

/-- The number that is recorded is dropped. -/
def drop (l : Lane) : Lane :=
  { l with numbered := false, retries := l.retries.map fun r => (r.1, r.2.passed) }

/-- The lane when the backoff of one of its retries ends. -/
def endRetry (l : Lane) (place : Nat) : Lane :=
  { l with
    retrying := l.retrying.bind fun n => if n - 1 = 0 then none else some (n - 1)
    retries := l.retries.eraseIdx place }

/-- The lane after a step about its key, and what the caller learns. -/
def apply (backoff : Backoff) (l : Lane) : Turn → Lane × Answer
  | .added item => (if l.closed then l else l.insert item, .nothing)
  | .handed => ({ l with pending := none, inProcess := true }, l.pending.elim .nothing .item)
  | .retried item =>
    ({ l with
        failures := some (l.failures.getD 0 + 1)
        retrying := some (l.retrying.getD 0 + 1)
        retries := l.retries ++ [(item, if l.numbered then .recorded else .nothing)] },
      .delay (backoff.delay (l.failures.getD 0).toNat))
  | .matured place =>
    match l.retries[place]? with
    | none => (l, .nothing)
    | some (item, seen) =>
      let l' := l.endRetry place
      if l.closed then (l', .fate false)
      else if seen.agrees l.numbered then (l'.insert item, .fate true)
      else (if l'.retrying.isSome || l'.failures.isSome then l' else l'.drop, .fate false)
  | .forgot =>
    let l' := { l with failures := none }
    (if l.retrying.isSome then l' else l'.drop, .nothing)
  | .released => ({ l with inProcess := false }, .nothing)
  | .shutDown => ({ l with closed := true }, .nothing)

/-- Whether something is pending for a key that is not in process. -/
def waits (l : Lane) : Bool :=
  l.pending.isSome && !l.inProcess

theorem closed_apply (backoff : Backoff) (l : Lane) {turn : Turn} (h : turn ≠ .shutDown) :
    (l.apply backoff turn).1.closed = l.closed := by
  cases turn with
  | added item =>
    simp only [apply]
    split <;> rfl
  | matured place =>
    simp only [apply]
    split
    · rfl
    · split
      · rfl
      · split
        · rfl
        · split <;> rfl
  | forgot =>
    simp only [apply]
    split <;> rfl
  | shutDown => exact absurd rfl h
  | _ => rfl

/-- The lane after steps about its key, the last first. -/
def after (backoff : Backoff) : List Turn → Lane
  | [] => {}
  | turn :: older => ((after backoff older).apply backoff turn).1

/-- The steps about a key, what each of them answered and what it left, the last first. -/
def records (backoff : Backoff) : List Turn → List (Turn × Answer × Lane)
  | [] => []
  | turn :: older =>
    (turn, ((after backoff older).apply backoff turn).2, after backoff (turn :: older)) ::
      records backoff older

/-- Whether a key waits after steps about it, the last first. From the shutdown on it does if it did
before. -/
def waitsAfter (backoff : Backoff) : List Turn → Bool
  | [] => false
  | turn :: older =>
    if (after backoff older).closed ∨ turn = .shutDown then waitsAfter backoff older
    else (after backoff (turn :: older)).waits

/-- Whether a key waits after each of the steps about it, the last first. -/
def waitings (backoff : Backoff) : List Turn → List Bool
  | [] => []
  | turn :: older => waitsAfter backoff (turn :: older) :: waitings backoff older

end Lane

/-! ### The lane of a key -/

/-- The retries of a key that are backing off, and what each of them saw. -/
def retriesOf (key : String) (timers : List Timer) (added : Option Nat) :
    List (WorkItem × Seen) :=
  (timers.filter (·.key = key)).map fun t => (t.retry.item, .of added t.retry.seen)

/-- What a queue has of a key. -/
def lane (key : String) (q : WorkQueue) (timers : List Timer) : Lane where
  pending := q.items[key]?
  inProcess := q.processing.contains key
  failures := q.failures[key]?
  retrying := q.retrying[key]?
  numbered := q.added[key]?.isSome
  retries := retriesOf key timers q.added[key]?
  closed := q.closed

section

variable {q q' : WorkQueue} {key : String} {timers : List Timer}

/-- When the number that is recorded changes to one that no retry has seen, the retries are passed
by. -/
theorem retriesOf_passed (added : Option Nat) {added' : Option Nat}
    (hnew : ∀ t ∈ timers, t.key = key → added' = none ∨ added' ≠ t.retry.seen) :
    retriesOf key timers added' = (retriesOf key timers added).map fun r => (r.1, r.2.passed) := by
  unfold retriesOf
  rw [List.map_map]
  refine List.map_congr_left fun t ht => ?_
  obtain ⟨hmem, hkey⟩ := List.mem_filter.mp ht
  exact congrArg (t.retry.item, ·) (Seen.of_eq_passed (hnew t hmem (by simpa using hkey)))

theorem retriesOf_other {t : Timer} (hne : t.key ≠ key) {position : Nat}
    (ht : timers[position]? = some t) (added : Option Nat) :
    retriesOf key (timers.eraseIdx position) added = retriesOf key timers added := by
  unfold retriesOf
  rw [filter_eraseIdx_of_neg (by simpa using hne) ht]

/-- The retry whose backoff is over has its place among those of its key. -/
theorem retriesOf_mature {t : Timer} {position : Nat} (ht : timers[position]? = some t)
    (added : Option Nat) :
    (retriesOf t.key timers added)[backingOff t.key (timers.take position)]? =
        some (t.retry.item, .of added t.retry.seen) ∧
      retriesOf t.key (timers.eraseIdx position) added =
        (retriesOf t.key timers added).eraseIdx (backingOff t.key (timers.take position)) := by
  obtain ⟨hplace, herase⟩ :=
    filter_eraseIdx_of_pos (p := fun u : Timer => u.key = t.key) (by simp) ht
  unfold retriesOf backingOff
  constructor
  · rw [List.getElem?_map, hplace]
    rfl
  · rw [herase, List.eraseIdx_map]

theorem lane_congr {timers' : List Timer} (hitems : q'.items[key]? = q.items[key]?)
    (hprocessing : q'.processing.contains key = q.processing.contains key)
    (hfailures : q'.failures[key]? = q.failures[key]?)
    (hretrying : q'.retrying[key]? = q.retrying[key]?)
    (hadded : q'.added[key]? = q.added[key]?) (hclosed : q'.closed = q.closed)
    (hretries : retriesOf key timers' q.added[key]? = retriesOf key timers q.added[key]?) :
    q'.lane key timers' = q.lane key timers := by
  simp only [lane, hitems, hprocessing, hfailures, hretrying, hadded, hretries, hclosed]

/-! What the operations of the queue do to the lane of their key, and to those of others. -/

theorem lane_insert (hi : Issued q timers) (item : WorkItem) :
    (q.insert item).1.lane item.key timers = (q.lane item.key timers).insert item := by
  have hretries : retriesOf item.key timers (some (q.sequence + 1)) = _ :=
    retriesOf_passed q.added[item.key]? fun t ht _ => .inr fun heq => by
      have hle := hi.seen_le t ht _ heq.symm
      omega
  simp only [lane, Lane.insert, items_insert, processing_insert, failures_insert, retrying_insert,
    added_insert, closed_insert, Std.TreeMap.getElem?_insert_self, hretries, Option.isSome_some]

theorem lane_insert_other {item : WorkItem} (hkey : item.key ≠ key) :
    (q.insert item).1.lane key timers = q.lane key timers := by
  obtain ⟨hitems, hadded⟩ := insert_other (q := q) hkey
  exact lane_congr hitems (by rw [processing_insert]) (by rw [failures_insert])
    (by rw [retrying_insert]) hadded (closed_insert _ _) rfl

theorem lane_addRateLimited (q : WorkQueue) (backoff : Backoff) (item : WorkItem) (number : Nat)
    (asked : History) :
    (q.addRateLimited backoff item).1.lane item.key (timers ++
        [⟨(q.addRateLimited backoff item).2.1, (q.addRateLimited backoff item).2.2, number,
          asked⟩]) =
      ((q.lane item.key timers).apply backoff (.retried item)).1 := by
  have hretries : retriesOf item.key (timers ++ [⟨(q.addRateLimited backoff item).2.1,
      (q.addRateLimited backoff item).2.2, number, asked⟩]) q.added[item.key]? =
      retriesOf item.key timers q.added[item.key]? ++
        [(item, if q.added[item.key]?.isSome then .recorded else .nothing)] := by
    unfold retriesOf
    rw [List.filter_append, List.map_append]
    congr 1
    cases hadded : q.added[item.key]? with
    | none => simp [Timer.key, addRateLimited, Seen.of, hadded]
    | some n => simp [Timer.key, addRateLimited, Seen.of, hadded]
  have hfailures := failures_addRateLimited q backoff item item.key
  have hretrying := retrying_addRateLimited q backoff item item.key
  rw [if_pos rfl, Std.TreeMap.getD_eq_getD_getElem?] at hfailures hretrying
  show Lane.mk _ _ _ _ _ (retriesOf item.key _ q.added[item.key]?) _ = _
  rw [hretries, hfailures, hretrying]
  rfl

theorem lane_addRateLimited_other (q : WorkQueue) (backoff : Backoff) {item : WorkItem}
    (hkey : item.key ≠ key) (number : Nat) (asked : History) :
    (q.addRateLimited backoff item).1.lane key (timers ++
        [⟨(q.addRateLimited backoff item).2.1, (q.addRateLimited backoff item).2.2, number,
          asked⟩]) = q.lane key timers := by
  refine lane_congr rfl rfl ?_ ?_ rfl rfl ?_
  · rw [failures_addRateLimited, if_neg hkey]
  · rw [retrying_addRateLimited, if_neg hkey]
  · simp [retriesOf, Timer.key, addRateLimited, hkey]

theorem lane_endRetry {t : Timer} {position : Nat} (ht : timers[position]? = some t) :
    (q.endRetry t.key).lane t.key (timers.eraseIdx position) =
      (q.lane t.key timers).endRetry (backingOff t.key (timers.take position)) := by
  have hsame := sameWork_endRetry q t.key
  have hretrying := retrying_endRetry q t.key t.key
  rw [if_pos rfl] at hretrying
  simp only [lane, Lane.endRetry, hsame.items, hsame.processing, hsame.closed, failures_endRetry,
    added_endRetry, hretrying, (retriesOf_mature ht _).2]

theorem lane_endRetry_other {t : Timer} {position : Nat} (hkey : t.key ≠ key)
    (ht : timers[position]? = some t) :
    (q.endRetry t.key).lane key (timers.eraseIdx position) = q.lane key timers := by
  have hsame := sameWork_endRetry q t.key
  exact lane_congr (by rw [hsame.items]) (by rw [hsame.processing]) (by rw [failures_endRetry])
    (by rw [retrying_endRetry, if_neg hkey]) (by rw [added_endRetry]) hsame.closed
    (retriesOf_other hkey ht _)

theorem lane_dropSequence (q : WorkQueue) (key : String) (timers : List Timer) :
    (q.dropSequence key).lane key timers =
      if (q.lane key timers).retrying.isSome || (q.lane key timers).failures.isSome then
        q.lane key timers
      else (q.lane key timers).drop := by
  have hbusy : (q.retrying.contains key || q.failures.contains key) =
      (q.retrying[key]?.isSome || q.failures[key]?.isSome) := by
    rw [Std.TreeMap.contains_eq_isSome_getElem?, Std.TreeMap.contains_eq_isSome_getElem?]
  have hretries : retriesOf key timers none = _ :=
    retriesOf_passed q.added[key]? fun _ _ _ => .inl rfl
  unfold dropSequence
  rw [hbusy]
  show lane key (if _ then _ else _) timers = if (q.retrying[key]?.isSome ||
    q.failures[key]?.isSome) = true then _ else _
  split
  · rfl
  · simp only [lane, Lane.drop, Std.TreeMap.getElem?_erase_self, hretries, Option.isSome_none]

theorem lane_dropSequence_other {k : String} (hkey : k ≠ key) :
    (q.dropSequence k).lane key timers = q.lane key timers := by
  have hsame := sameWork_dropSequence q k
  exact lane_congr (by rw [hsame.items]) (by rw [hsame.processing])
    (by rw [failures_dropSequence]) (by rw [retrying_dropSequence])
    ((added_dropSequence q k key).resolve_right fun hdrop => hkey hdrop.1) hsame.closed rfl

theorem lane_forget (q : WorkQueue) (backoff : Backoff) (key : String) (timers : List Timer) :
    (q.forget key).lane key timers = ((q.lane key timers).apply backoff .forgot).1 := by
  have hbusy : q.retrying.contains key = q.retrying[key]?.isSome :=
    Std.TreeMap.contains_eq_isSome_getElem?
  have hretries : retriesOf key timers none = _ :=
    retriesOf_passed q.added[key]? fun _ _ _ => .inl rfl
  unfold forget
  show lane key (if q.retrying.contains key = true then _ else _) timers =
    if q.retrying[key]?.isSome = true then _ else _
  rw [hbusy]
  split
  · simp only [lane, Std.TreeMap.getElem?_erase_self]
  · simp only [lane, Lane.drop, Std.TreeMap.getElem?_erase_self, hretries, Option.isSome_none]

theorem lane_forget_other {k : String} (hkey : k ≠ key) :
    (q.forget k).lane key timers = q.lane key timers := by
  have hsame := sameWork_forget q k
  refine lane_congr (by rw [hsame.items]) (by rw [hsame.processing]) ?_ (by rw [retrying_forget])
    ?_ hsame.closed rfl
  · rw [failures_forget, Std.TreeMap.getElem?_erase, if_neg (by simpa using hkey)]
  · rw [added_forget, if_neg fun hboth => hkey hboth.1]

end

namespace Session

/-- An operation as a key sees it, if it is about the key. -/
def turn? (key : String) : Session × Operation → Option Turn
  | (_, .add item) => if item.key = key then some (.added item) else none
  | (s, .take _) =>
    match s.queue.take.2 with
    | .item item => if item.key = key then some .handed else none
    | .empty | .closed => none
  | (_, .retry _ item _) => if item.key = key then some (.retried item) else none
  | (s, .mature position) =>
    match s.timers[position]? with
    | some t =>
      if t.key = key then some (.matured (backingOff key (s.timers.take position))) else none
    | none => none
  | (_, .forget _ k) => if k = key then some .forgot else none
  | (_, .done _ k) => if k = key then some .released else none
  | (_, .shutDown) => some .shutDown

/-- What the caller of an operation learns. -/
def answer : Session × Operation → Answer
  | (s, .take _) =>
    match s.queue.take.2 with
    | .item item => .item item
    | .empty | .closed => .nothing
  | (s, .retry _ item _) => .delay (s.queue.addRateLimited s.backoff item).2.2
  | (s, .mature position) =>
    match s.timers[position]? with
    | some t => .fate (s.queue.Admits t.retry)
    | none => .nothing
  | _ => .nothing

/-- What a session has of a key. -/
def lane (key : String) (s : Session) : Lane :=
  s.queue.lane key s.timers

/-- Any operation can be made. -/
def advance? (s : Session) (op : Operation) : Option Session :=
  some (s.apply op)

/-! ### Steps of a lane -/

variable {s s' : Session} {promise : Session → Operation → Prop} {backoff : Backoff} {key : String}

/-- The pending items stand under their own keys, whoever releases keys. -/
theorem labelled_apply
    (h : ∀ (key : String) (item : WorkItem), s.queue.items[key]? = some item → item.key = key)
    (op : Operation) (key : String) (item : WorkItem)
    (hitem : (s.apply op).queue.items[key]? = some item) : item.key = key := by
  -- items come in by insertion only, and that puts them under their own key
  have hinsert : ∀ (q : WorkQueue) (new : WorkItem), q.items = s.queue.items →
      (q.insert new).1.items[key]? = some item → item.key = key := by
    intro q new hsame hinserted
    rw [items_insert, hsame, Std.TreeMap.getElem?_insert] at hinserted
    split at hinserted
    · next heq =>
      obtain rfl := Option.some.inj hinserted
      exact Std.compare_eq_iff_eq.mp heq
    · exact h key item hinserted
  cases op with
  | add new =>
    change (s.queue.add new).1.items[key]? = some item at hitem
    by_cases hclosed : s.queue.closed = true
    · rw [add_of_closed hclosed] at hitem
      exact h key item hitem
    · rw [add_of_open (Bool.eq_false_iff.mpr hclosed)] at hitem
      exact hinsert s.queue new rfl hitem
  | take worker =>
    change (s.applyTake worker).queue.items[key]? = some item at hitem
    rcases s.applyTake_cases worker with ⟨-, htake⟩ | ⟨-, -, htake⟩ |
      ⟨-, _, key', _, _, -, -, -, htake⟩
    · exact h key item (htake ▸ hitem)
    · rw [htake] at hitem
      exact h key item hitem
    · rw [htake] at hitem
      change (s.queue.items.erase key')[key]? = some item at hitem
      rw [Std.TreeMap.getElem?_erase] at hitem
      split at hitem
      · cases hitem
      · exact h key item hitem
  | mature position =>
    simp only [apply] at hitem
    split at hitem
    · next t _ =>
      change (s.queue.mature t.retry).1.items[key]? = some item at hitem
      by_cases hr : s.queue.Admits t.retry
      · rw [mature_of_admits hr] at hitem
        exact hinsert _ t.retry.item (sameWork_endRetry _ _).items hitem
      · rw [(sameWork_mature hr).items] at hitem
        exact h key item hitem
    · exact h key item hitem
  | forget worker k =>
    change (s.queue.forget k).items[key]? = some item at hitem
    rw [(sameWork_forget _ _).items] at hitem
    exact h key item hitem
  | done worker k =>
    change (s.queue.done k).1.items[key]? = some item at hitem
    rw [done_fst] at hitem
    exact h key item hitem
  | retry worker new number => exact h key item hitem
  | shutDown => exact h key item hitem

theorem Reachable.labelled (hrun : Reachable promise backoff s) :
    ∀ (key : String) (item : WorkItem), s.queue.items[key]? = some item → item.key = key := by
  induction hrun with
  | start => exact fun key item hitem => by simp at hitem
  | step _ _ ih => exact labelled_apply ih _

theorem backoff_apply (s : Session) (op : Operation) : (s.apply op).backoff = s.backoff := by
  cases op with
  | take worker =>
    show (s.applyTake worker).backoff = s.backoff
    unfold applyTake
    split <;> rfl
  | mature position =>
    simp only [apply]
    split <;> rfl
  | _ => rfl

theorem Reachable.backoff_eq (hrun : Reachable promise backoff s) : s.backoff = backoff := by
  induction hrun with
  | start => rfl
  | @step s op _ _ ih => exact (s.backoff_apply op).trans ih

/-- A lane goes on in an operation: by the step about its key, or not at all. -/
def Follows (backoff : Backoff) (l l' : Lane) (answer : Answer) : Option Turn → Prop
  | none => l' = l
  | some turn => l.apply backoff turn = (l', answer)

/-- A notification. -/
theorem follows_add (hrun : Reachable promise backoff s) (key : String) (item : WorkItem) :
    Follows backoff (s.lane key) ((s.apply (.add item)).lane key) (answer (s, .add item))
      (turn? key (s, .add item)) := by
  show Follows backoff (s.lane key) ((s.queue.add item).1.lane key s.timers) _ _
  by_cases hclosed : s.queue.closed = true
  · rw [add_of_closed hclosed]
    by_cases hkey : item.key = key
    · have hshut : (s.lane key).closed = true := hclosed
      simp only [turn?, if_pos hkey, Follows, Lane.apply, if_pos hshut, answer]
      rfl
    · simp only [turn?, if_neg hkey, Follows]
      rfl
  · rw [add_of_open (Bool.eq_false_iff.mpr hclosed)]
    by_cases hkey : item.key = key
    · subst hkey
      have hopen : ¬ (s.lane item.key).closed = true := hclosed
      rw [lane_insert hrun.issued]
      simp only [turn?, if_true, Follows, Lane.apply, answer, if_neg hopen]
      rfl
    · simp only [turn?, if_neg hkey, Follows]
      exact lane_insert_other hkey

/-- A worker takes an item. -/
theorem follows_take (hrun : Reachable promise backoff s) (key : String) (worker : Nat) :
    Follows backoff (s.lane key) ((s.apply (.take worker)).lane key) (answer (s, .take worker))
      (turn? key (s, .take worker)) := by
  show Follows backoff _ ((s.applyTake worker).lane key) _ _
  rcases take_cases s.queue with ⟨-, htake⟩ | ⟨-, -, htake⟩ |
    ⟨-, skipped, key', rest, item, -, -, hitem, htake⟩
  · simp only [turn?, applyTake, htake, Follows]
  · simp only [turn?, applyTake, htake, Follows]
    exact lane_congr rfl rfl rfl rfl rfl rfl rfl
  · obtain rfl := hrun.labelled key' item hitem
    simp only [turn?, applyTake, htake, answer]
    by_cases hkey : item.key = key
    · subst hkey
      simp only [if_true, Follows, Lane.apply, Session.lane, WorkQueue.lane, hitem,
        Option.elim_some, Std.TreeMap.getElem?_erase_self, Std.TreeSet.contains_insert_self]
    · simp only [if_neg hkey, Follows]
      refine lane_congr ?_ ?_ rfl rfl rfl rfl rfl
      · simp [Std.TreeMap.getElem?_erase, hkey]
      · simp [Std.TreeSet.contains_insert, hkey]

/-- A worker asks for a retry. -/
theorem follows_retry (hrun : Reachable promise backoff s) (key : String) (worker : Nat)
    (item : WorkItem) (number : Nat) :
    Follows backoff (s.lane key) ((s.apply (.retry worker item number)).lane key)
      (answer (s, .retry worker item number)) (turn? key (s, .retry worker item number)) := by
  by_cases hkey : item.key = key
  · subst hkey
    have hlane : (s.apply (.retry worker item number)).lane item.key =
        ((s.lane item.key).apply s.backoff (.retried item)).1 :=
      lane_addRateLimited s.queue s.backoff item number s.history
    have hdelay : answer (s, .retry worker item number) =
        ((s.lane item.key).apply s.backoff (.retried item)).2 := by
      show Answer.delay (s.backoff.delay (s.queue.failureCount item.key)) =
        .delay (s.backoff.delay (s.queue.failures[item.key]?.getD 0).toNat)
      rw [failureCount, Std.TreeMap.getD_eq_getD_getElem?]
    simp only [turn?, if_true, Follows, hlane, hdelay, hrun.backoff_eq]
  · simp only [turn?, if_neg hkey, Follows]
    exact lane_addRateLimited_other s.queue s.backoff hkey number s.history

/-- The backoff of a retry is over. -/
theorem follows_mature (hrun : Reachable promise backoff s) (key : String) (position : Nat) :
    Follows backoff (s.lane key) ((s.apply (.mature position)).lane key)
      (answer (s, .mature position)) (turn? key (s, .mature position)) := by
  cases ht : s.timers[position]? with
  | none => simp only [turn?, apply, ht, Follows]
  | some t =>
    have hmature : (s.apply (.mature position)).lane key =
        (s.queue.mature t.retry).1.lane key (s.timers.eraseIdx position) := by
      simp only [apply, ht]
      rfl
    have hissued : Issued (s.queue.endRetry t.key) (s.timers.eraseIdx position) :=
      hrun.issued.endRetry t.key position
    rw [hmature]
    simp only [turn?, ht, answer]
    by_cases hkey : t.key = key
    · -- the retry leaves those of its key, and is inserted if it saw what is recorded
      subst hkey
      have hplace : (s.lane t.key).retries[backingOff t.key (s.timers.take position)]? =
          some (t.retry.item, .of s.queue.added[t.key]? t.retry.seen) :=
        (retriesOf_mature ht _).1
      have hagrees : (Seen.of s.queue.added[t.key]? t.retry.seen).agrees (s.lane t.key).numbered =
          decide (s.queue.added[t.key]? = t.retry.seen) := Seen.agrees_of _ _
      have hend : (s.queue.endRetry t.key).lane t.key (s.timers.eraseIdx position) =
          (s.lane t.key).endRetry (backingOff t.key (s.timers.take position)) :=
        lane_endRetry ht
      rw [if_pos rfl]
      show (s.lane t.key).apply backoff (.matured _) = _
      simp only [Lane.apply, hplace, hagrees]
      by_cases hr : s.queue.Admits t.retry
      -- admitted: it is inserted, in the queue and in the lane
      · have hopen : ¬ (s.lane t.key).closed = true := by
          rw [Bool.not_eq_true]
          exact hr.1
        have hsame : s.queue.added[t.key]? = t.retry.seen := hr.2
        rw [mature_of_admits hr, if_neg hopen, if_pos (by simpa using hsame), ← hend,
          decide_eq_true hr]
        exact congrArg (·, Answer.fate true) (lane_insert hissued t.retry.item).symm
      · rw [mature_of_not_admits hr, decide_eq_false hr]
        by_cases hclosed : s.queue.closed = true
        · have hshut : (s.lane t.key).closed = true := hclosed
          rw [if_pos hshut, if_pos hclosed, ← hend]
          rfl
        · have hopen : ¬ (s.lane t.key).closed = true := hclosed
          have hother : ¬ s.queue.added[t.key]? = t.retry.seen := fun hsame =>
            hr ⟨Bool.eq_false_iff.mpr hclosed, hsame⟩
          rw [if_neg hopen, if_neg (by simpa using hother), if_neg hclosed, ← hend]
          exact congrArg (·, Answer.fate false) (lane_dropSequence _ _ _).symm
    · rw [if_neg hkey]
      show (s.queue.mature t.retry).1.lane key _ = s.lane key
      have hend : (s.queue.endRetry t.key).lane key (s.timers.eraseIdx position) = s.lane key :=
        lane_endRetry_other hkey ht
      by_cases hr : s.queue.Admits t.retry
      · rw [mature_of_admits hr]
        exact (lane_insert_other hkey).trans hend
      · rw [mature_of_not_admits hr]
        split
        · exact hend
        · exact (lane_dropSequence_other hkey).trans hend

/-- A step about the key is a step of its lane, and every other step leaves the lane alone. -/
theorem Reachable.follows (hrun : Reachable promise backoff s) (key : String) (op : Operation) :
    Follows backoff (s.lane key) ((s.apply op).lane key) (answer (s, op)) (turn? key (s, op)) := by
  cases op with
  | add item => exact follows_add hrun key item
  | take worker => exact follows_take hrun key worker
  | retry worker item number => exact follows_retry hrun key worker item number
  | mature position => exact follows_mature hrun key position
  | forget worker k =>
    show Follows backoff _ ((s.queue.forget k).lane key s.timers) _ _
    by_cases hkey : k = key
    · subst hkey
      rw [lane_forget s.queue backoff]
      simp only [turn?, if_true, Follows, answer]
      rfl
    · simp only [turn?, if_neg hkey, Follows]
      exact lane_forget_other hkey
  | done worker k =>
    have hlane : (s.apply (.done worker k)).lane key =
        { s.lane key with inProcess := (s.queue.processing.erase k).contains key } := by
      simp only [Session.lane, WorkQueue.lane, apply, done_fst]
    rw [hlane]
    by_cases hkey : k = key
    · simp [turn?, hkey, Follows, Lane.apply, answer]
    · simp [turn?, hkey, Follows, Session.lane, WorkQueue.lane, Std.TreeSet.contains_erase]
  | shutDown => rfl

/-! ### Runs -/

variable {past past' : List (Session × Operation)}

/-- The steps about a key on a path, the last first. -/
def turns (key : String) (past : List (Session × Operation)) : List Turn :=
  past.filterMap (turn? key)

/-- The steps about a key on a path, what each of them answered and what it left of the key, the
last first. -/
def records (key : String) (past : List (Session × Operation)) : List (Turn × Answer × Lane) :=
  past.filterMap fun p =>
    (turn? key p).map fun turn => (turn, answer p, (p.1.apply p.2).lane key)

/-- Whether a key waits after each step about it on a path, the last first. -/
def waitings (key : String) (past : List (Session × Operation)) : List Bool :=
  past.filterMap fun p =>
    (turn? key p).map fun _ => decide (key ∈ (p.1.apply p.2).queue.waiting)

/-- Keys are released by their holders only. -/
def Honest (past : List (Session × Operation)) : Prop :=
  ∀ p ∈ past, p.1.Exclusive p.2

instance (past : List (Session × Operation)) : Decidable (Honest past) :=
  inferInstanceAs (Decidable (∀ p ∈ past, p.1.Exclusive p.2))

theorem reachable_of_path (h : Path advance? { backoff } past s) :
    Reachable (fun _ _ => True) backoff s := by
  refine h.invariant .start fun hy hmove => ?_
  obtain rfl := Option.some.inj hmove
  exact .step hy trivial

theorem reachable_of_honest (h : Path advance? { backoff } past s) (honest : Honest past) :
    Reachable Exclusive backoff s := by
  induction h with
  | start => exact .start
  | move _ hmove ih =>
    obtain rfl := Option.some.inj hmove
    obtain ⟨hlast, hbefore⟩ := List.forall_mem_cons.mp honest
    exact .step (ih hbefore) hlast

theorem turns_cons (key : String) (p : Session × Operation) (past : List (Session × Operation)) :
    turns key (p :: past) = (turn? key p).toList ++ turns key past := by
  unfold turns
  rw [List.filterMap_cons]
  cases turn? key p <;> rfl

/-- On every path, the steps about a key alone decide what there is of the key, and all answers. -/
theorem lane_of_path (h : Path advance? { backoff } past s) (key : String) :
    s.lane key = Lane.after backoff (turns key past) ∧
      records key past = Lane.records backoff (turns key past) := by
  induction h with
  | start => exact ⟨rfl, rfl⟩
  | @move past s s' op hpath hmove ih =>
    obtain rfl := Option.some.inj hmove
    obtain ⟨hlane, hrecords⟩ := ih
    have hfollows := (reachable_of_path hpath).follows key op
    rw [turns_cons]
    unfold records at hrecords ⊢
    rw [List.filterMap_cons, hrecords]
    cases hturn : turn? key (s, op) with
    | none =>
      rw [hturn] at hfollows
      exact ⟨Eq.trans hfollows hlane, rfl⟩
    | some turn =>
      rw [hturn] at hfollows
      have hstep : (s.lane key).apply backoff turn = ((s.apply op).lane key, answer (s, op)) :=
        hfollows
      rw [hlane] at hstep
      constructor
      · show _ = (Lane.apply backoff (.after backoff (turns key past)) turn).1
        rw [hstep]
      · simp only [Option.map_some, Option.toList_some, List.singleton_append, Lane.records,
          Lane.after, hstep]

/-! ### Waiting -/

/-- In an open queue whose books are in order, a key waits when something is pending for it and it
is not in process. -/
theorem Tidy.waits_eq (h : s.Tidy) (hopen : s.queue.closed = false) (key : String) :
    decide (key ∈ s.queue.waiting) = (s.lane key).waits := by
  have hwaits : (s.lane key).waits = true ↔ key ∈ s.queue.items ∧ key ∉ s.queue.processing := by
    simp [Lane.waits, Session.lane, WorkQueue.lane, ← Std.TreeSet.contains_iff_mem]
  rw [Bool.eq_iff_iff, decide_eq_true_iff, hwaits]
  constructor
  · intro hwaiting
    exact ⟨h.consistent.has_item key hwaiting, h.consistent.not_processing key hwaiting⟩
  · rintro ⟨hitem, hidle⟩
    exact (h.consistent.tracked hopen key hitem).resolve_right hidle

/-- From the shutdown on the same keys wait. -/
theorem waiting_apply_of_closed (hclosed : s.queue.closed = true) (op : Operation) :
    (s.apply op).queue.waiting = s.queue.waiting := by
  cases op with
  | add item =>
    show (s.queue.add item).1.waiting = _
    rw [add_of_closed hclosed]
  | take worker =>
    show (s.applyTake worker).queue.waiting = _
    rcases s.applyTake_cases worker with ⟨-, htake⟩ | ⟨hopen, -⟩ | ⟨hopen, -⟩
    · rw [htake]
    · cases hopen.symm.trans hclosed
    · cases hopen.symm.trans hclosed
  | mature position =>
    simp only [apply]
    split
    · next t _ =>
      have hr : ¬ s.queue.Admits t.retry := fun hr => by cases hr.1.symm.trans hclosed
      exact (sameWork_mature hr).waiting
    · rfl
  | forget worker k => exact (sameWork_forget s.queue k).waiting
  | done worker k =>
    show (s.queue.done k).1.waiting = _
    rw [done_fst]
    exact if_neg fun hboth => by cases hboth.2.symm.trans hclosed
  | retry worker item number => rfl
  | shutDown => rfl

theorem eq_shutDown_of_turn? {op : Operation} (h : turn? key (s, op) = some .shutDown) :
    op = .shutDown := by
  cases op with
  | add | retry | forget | done =>
    simp only [turn?] at h
    split at h
    · cases h
    · cases h
  | take worker =>
    simp only [turn?] at h
    split at h
    · split at h
      · cases h
      · cases h
    · cases h
    · cases h
  | mature position =>
    simp only [turn?] at h
    split at h
    · split at h
      · cases h
      · cases h
    · cases h
  | shutDown => rfl

/-- An operation other than the shutdown leaves an open queue open. -/
theorem Reachable.open_apply (hrun : Reachable promise backoff s) (hopen : s.queue.closed = false)
    {op : Operation} (hop : op ≠ .shutDown) (key : String) :
    (s.apply op).queue.closed = false := by
  have hfollows := hrun.follows key op
  show ((s.apply op).lane key).closed = false
  cases hturn : turn? key (s, op) with
  | none =>
    rw [hturn] at hfollows
    have hsame : (s.apply op).lane key = s.lane key := hfollows
    rw [hsame]
    exact hopen
  | some turn =>
    rw [hturn] at hfollows
    have hstep : (s.lane key).apply backoff turn = ((s.apply op).lane key, answer (s, op)) :=
      hfollows
    have hne : turn ≠ .shutDown := fun heq => hop (eq_shutDown_of_turn? (heq ▸ hturn))
    have hclosed := (s.lane key).closed_apply backoff hne
    rw [hstep] at hclosed
    exact hclosed.trans hopen

/-- As long as keys are released by their holders, the steps about a key decide whether it waits. -/
theorem waits_of_path (h : Path advance? { backoff } past s) (honest : Honest past) (key : String) :
    decide (key ∈ s.queue.waiting) = Lane.waitsAfter backoff (turns key past) := by
  induction h with
  | start => simp [turns, Lane.waitsAfter]
  | @move past s s' op hpath hmove ih =>
    obtain rfl := Option.some.inj hmove
    have hbefore := ih fun p hp => honest p (List.mem_cons_of_mem _ hp)
    have hrun := reachable_of_path hpath
    have hlane := (lane_of_path hpath key).1
    rw [turns_cons]
    by_cases hclosed : s.queue.closed = true
    · -- nothing starts to wait any more, and nothing is handed out
      have hshut : (Lane.after backoff (turns key past)).closed = true := by
        rw [← hlane]
        exact hclosed
      rw [waiting_apply_of_closed hclosed, hbefore]
      cases turn? key (s, op) with
      | none => rfl
      | some turn => exact (if_pos (.inl hshut)).symm
    · have hopen : s.queue.closed = false := Bool.eq_false_iff.mpr hclosed
      by_cases hop : op = .shutDown
      · subst hop
        have hlast : Lane.waitsAfter backoff (.shutDown :: turns key past) =
            Lane.waitsAfter backoff (turns key past) := if_pos (.inr rfl)
        show decide (key ∈ s.queue.waiting) = Lane.waitsAfter backoff (.shutDown :: turns key past)
        rw [hlast, hbefore]
      · have hnext := hrun.open_apply hopen hop key
        have htidy := (reachable_of_honest (.move hpath hmove) honest).tidy
        have htidy' := (reachable_of_honest hpath
          fun p hp => honest p (List.mem_cons_of_mem _ hp)).tidy
        have hafter := (lane_of_path (.move hpath hmove) key).1
        rw [turns_cons] at hafter
        rw [htidy.waits_eq hnext key, hafter]
        cases hturn : turn? key (s, op) with
        | none =>
          show (Lane.after backoff (turns key past)).waits =
            Lane.waitsAfter backoff (turns key past)
          rw [← hbefore, ← hlane, htidy'.waits_eq hopen key]
        | some turn =>
          have hgoes : ¬ ((Lane.after backoff (turns key past)).closed = true ∨
              turn = .shutDown) := by
            rintro (hshut | rfl)
            · rw [← hlane] at hshut
              exact hclosed hshut
            · exact hop (eq_shutDown_of_turn? hturn)
          exact (if_neg hgoes).symm

theorem waitings_of_path (h : Path advance? { backoff } past s) (honest : Honest past)
    (key : String) : waitings key past = Lane.waitings backoff (turns key past) := by
  induction h with
  | start => rfl
  | @move past s s' op hpath hmove ih =>
    have hbefore := ih fun p hp => honest p (List.mem_cons_of_mem _ hp)
    have hwaits := waits_of_path (.move hpath hmove) honest key
    obtain rfl := Option.some.inj hmove
    rw [turns_cons] at hwaits ⊢
    unfold waitings at hbefore ⊢
    rw [List.filterMap_cons, hbefore]
    cases hturn : turn? key (s, op) with
    | none => rfl
    | some turn =>
      rw [hturn] at hwaits
      exact congrArg (· :: Lane.waitings backoff (turns key past)) hwaits

/-- **Keys do not interfere.** Two runs of a queue, by whatever users, in which the same steps are
taken about a key, and whatever is done about other keys. Step by step, the callers learn the same:
the items of the key that are handed out, the times that its retries back off and whether they are
inserted at the end. Each step leaves the same of the key: what is pending, whether it is in
process, its failures, and its retries. If keys are released by their holders only, the key also
waits after each of its steps in both runs or in none, and so it does at the end. -/
theorem keys_separate (h : Path advance? { backoff } past s)
    (h' : Path advance? { backoff } past' s') (hturns : turns key past = turns key past') :
    records key past = records key past' ∧ s.lane key = s'.lane key ∧
    (Honest past → Honest past' →
      waitings key past = waitings key past' ∧
      (key ∈ s.queue.waiting ↔ key ∈ s'.queue.waiting)) := by
  obtain ⟨hlane, hrecords⟩ := lane_of_path h key
  obtain ⟨hlane', hrecords'⟩ := lane_of_path h' key
  refine ⟨?_, ?_, fun honest honest' => ⟨?_, ?_⟩⟩
  · rw [hrecords, hrecords', hturns]
  · rw [hlane, hlane', hturns]
  · rw [waitings_of_path h honest, waitings_of_path h' honest', hturns]
  · rw [← decide_eq_decide, waits_of_path h honest, waits_of_path h' honest', hturns]

/-- An item fails, a newer one is parked and the retry comes too late. In the second run another key
comes in between and waits in front, and the numbers of the insertions differ. -/
theorem keys_separate_between :
    let item (version : String) : WorkItem := ⟨"ns/x", .pods, .update, some version⟩
    ∃ past s past' s', Path advance? {} past s ∧ Path advance? {} past' s' ∧
      turns "ns/x" past = turns "ns/x" past' ∧ Honest past ∧ Honest past' ∧
      (records "ns/x" past).map (·.2.1) =
        [.nothing, .fate false, .nothing, .delay (.ofMillis 5), .item (item "1"), .nothing] ∧
      records "ns/x" past = records "ns/x" past' ∧ s.lane "ns/x" = s'.lane "ns/x" ∧
      s.queue.sequence = 2 ∧ s'.queue.sequence = 3 ∧
      s.queue.waiting = ["ns/x"] ∧ s'.queue.waiting = ["ns/y", "ns/x"] ∧
      waitings "ns/x" past = waitings "ns/x" past' := by
  intro item
  let other : WorkItem := ⟨"ns/y", .pods, .create, some "9"⟩
  let moves (between : List Operation) : List Operation :=
    [.add (item "1"), .take 0] ++ between ++ [.retry 0 (item "1") 1, .add (item "2"), .mature 0,
      .done 0 "ns/x"]
  let run (between : List Operation) := (moves between).foldlM (follow? advance?) ([], {})
  have hfirst : (run []).map (fun way => (turns "ns/x" way.1,
      (records "ns/x" way.1).map (·.2.1), way.2.queue.waiting, way.2.queue.sequence)) =
      some ([.released, .matured 0, .added (item "2"), .retried (item "1"), .handed,
          .added (item "1")],
        [.nothing, .fate false, .nothing, .delay (.ofMillis 5), .item (item "1"), .nothing],
        ["ns/x"], 2) := by decide +kernel
  have hsecond : (run [.add other]).map (fun way => (turns "ns/x" way.1, way.2.queue.waiting,
      way.2.queue.sequence)) =
      some ([.released, .matured 0, .added (item "2"), .retried (item "1"), .handed,
          .added (item "1")], ["ns/y", "ns/x"], 3) := by decide
  have hhonest : ((run []).map fun way => decide (Honest way.1)) = some true ∧
      ((run [.add other]).map fun way => decide (Honest way.1)) = some true := by decide
  obtain ⟨⟨past, s⟩, hway, hshown⟩ := Option.map_eq_some_iff.mp hfirst
  obtain ⟨⟨past', s'⟩, hway', hshown'⟩ := Option.map_eq_some_iff.mp hsecond
  rw [hway, hway'] at hhonest
  simp only [Option.map_some, Option.some.injEq, Prod.mk.injEq, decide_eq_true_eq]
    at hshown hshown' hhonest
  obtain ⟨hturns, hanswers, hwaiting, hsequence⟩ := hshown
  obtain ⟨hturns', hwaiting', hsequence'⟩ := hshown'
  obtain ⟨hfree, hfree'⟩ := hhonest
  have hpath := path_of_follow? .start hway
  have hpath' := path_of_follow? .start hway'
  have hsame := hturns.trans hturns'.symm
  obtain ⟨hrecords, hlane, hwaitings⟩ := keys_separate hpath hpath' hsame
  exact ⟨past, s, past', s', hpath, hpath', hsame, hfree, hfree', hanswers, hrecords, hlane,
    hsequence, hsequence', hwaiting, hwaiting', (hwaitings hfree hfree').1⟩

/-- Where a key is released that nobody holds, it waits twice, and it stays among the waiting keys
when it is handed out. Another key that is handed out clears it away: then it is only parked, while
it waits otherwise and is handed out again. -/
theorem waiting_differs_unheld :
    let item (version : String) : WorkItem := ⟨"ns/x", .pods, .update, some version⟩
    let other : WorkItem := ⟨"ns/y", .pods, .create, some "9"⟩
    ∃ past s past' s', Path advance? {} past s ∧ Path advance? {} past' s' ∧
      turns "ns/x" past = turns "ns/x" past' ∧
      past.map (·.2) = [.add (item "3"), .take 0, .add (item "2"), .done 0 "ns/x", .take 0,
        .done 0 "ns/x", .add (item "1")] ∧
      past'.map (·.2) = [.add (item "3"), .take 0, .add (item "2"), .take 1, .add other,
        .done 0 "ns/x", .take 0, .done 0 "ns/x", .add (item "1")] ∧
      "ns/x" ∈ s.queue.waiting ∧ "ns/x" ∉ s'.queue.waiting ∧
      s.queue.take.2 = .item (item "3") ∧ s'.queue.take.2 = .empty := by
  intro item other
  let moves (between : List Operation) : List Operation :=
    [.add (item "1"), .done 0 "ns/x", .take 0, .done 0 "ns/x"] ++ between ++
      [.add (item "2"), .take 0, .add (item "3")]
  let run (between : List Operation) := (moves between).foldlM (follow? advance?) ([], {})
  have hfirst : (run []).map (fun way => (turns "ns/x" way.1, way.1.map (·.2),
      decide ("ns/x" ∈ way.2.queue.waiting), way.2.queue.take.2)) =
      some ([.added (item "3"), .handed, .added (item "2"), .released, .handed, .released,
          .added (item "1")],
        [.add (item "3"), .take 0, .add (item "2"), .done 0 "ns/x", .take 0, .done 0 "ns/x",
          .add (item "1")], true, .item (item "3")) := by decide
  have hsecond : (run [.add other, .take 1]).map (fun way => (turns "ns/x" way.1,
      way.1.map (·.2), decide ("ns/x" ∈ way.2.queue.waiting), way.2.queue.take.2)) =
      some ([.added (item "3"), .handed, .added (item "2"), .released, .handed, .released,
          .added (item "1")],
        [.add (item "3"), .take 0, .add (item "2"), .take 1, .add other, .done 0 "ns/x", .take 0,
          .done 0 "ns/x", .add (item "1")], false, .empty) := by decide
  obtain ⟨⟨past, s⟩, hway, hshown⟩ := Option.map_eq_some_iff.mp hfirst
  obtain ⟨⟨past', s'⟩, hway', hshown'⟩ := Option.map_eq_some_iff.mp hsecond
  simp only [Prod.mk.injEq, decide_eq_true_eq, decide_eq_false_iff_not] at hshown hshown'
  obtain ⟨hturns, hmoves, hwaits, htake⟩ := hshown
  obtain ⟨hturns', hmoves', hparked, htake'⟩ := hshown'
  exact ⟨past, s, past', s', path_of_follow? .start hway, path_of_follow? .start hway',
    hturns.trans hturns'.symm, hmoves, hmoves', hwaits, hparked, htake, htake'⟩

end Session

end ClusterWatch.WorkQueue
