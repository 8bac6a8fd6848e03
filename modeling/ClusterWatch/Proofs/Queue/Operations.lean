import ClusterWatch.Queue.Basic
/-!
# What the operations of a work queue do

Each operation is described once, field by field, so that nothing below has to open it again.

- `insert_fst`, `take_cases`, `done_fst`: the operations that move keys between waiting, parked and
  being processed. `take_cases` says everything that handing out can come to, the skipping of keys
  without an item included.
- `Admits`: whether a retry whose backoff ends is inserted; `mature_of_admits` and
  `mature_of_not_admits` are the two ways in which a backoff can end.
- `SameWork`: the frame of the operations that only keep books about failures and retries
  (`addRateLimited`, `endRetry`, `dropSequence`, `forget`): the keys with work to do stay as they
  are.
- `failureCount_forget` and the lemmas after it: what the operations do to the failures.
- `insert_other`, `add_other`, `mature_other`: operations for another key.
-/

namespace ClusterWatch.WorkQueue

open Std (TreeMap TreeSet)

variable {q : WorkQueue} {item : WorkItem} {key : String}

/-! ### Insertion -/

/-- What an insertion does to each field. Only a key that neither has an item nor is being processed
starts to wait. -/
theorem insert_fst (q : WorkQueue) (item : WorkItem) :
    (q.insert item).1 =
      { q with
        sequence := q.sequence + 1
        added := q.added.insert item.key (q.sequence + 1)
        items := q.items.insert item.key item
        waiting :=
          if item.key ∈ q.items ∨ item.key ∈ q.processing then q.waiting
          else q.waiting ++ [item.key] } := by
  unfold insert
  by_cases h : item.key ∈ q.items ∨ item.key ∈ q.processing
  · rw [if_pos h, if_pos (by simpa using h)]
  · rw [if_neg h, if_neg (by simpa using h)]

theorem waiting_insert (q : WorkQueue) (item : WorkItem) :
    (q.insert item).1.waiting =
      if item.key ∈ q.items ∨ item.key ∈ q.processing then q.waiting
      else q.waiting ++ [item.key] := by
  rw [insert_fst]

@[simp] theorem items_insert (q : WorkQueue) (item : WorkItem) :
    (q.insert item).1.items = q.items.insert item.key item := by
  rw [insert_fst]

@[simp] theorem processing_insert (q : WorkQueue) (item : WorkItem) :
    (q.insert item).1.processing = q.processing := by
  rw [insert_fst]

@[simp] theorem closed_insert (q : WorkQueue) (item : WorkItem) :
    (q.insert item).1.closed = q.closed := by
  rw [insert_fst]

@[simp] theorem added_insert (q : WorkQueue) (item : WorkItem) :
    (q.insert item).1.added = q.added.insert item.key (q.sequence + 1) := by
  rw [insert_fst]

@[simp] theorem sequence_insert (q : WorkQueue) (item : WorkItem) :
    (q.insert item).1.sequence = q.sequence + 1 := by
  rw [insert_fst]

@[simp] theorem retrying_insert (q : WorkQueue) (item : WorkItem) :
    (q.insert item).1.retrying = q.retrying := by
  rw [insert_fst]

@[simp] theorem failures_insert (q : WorkQueue) (item : WorkItem) :
    (q.insert item).1.failures = q.failures := by
  rw [insert_fst]

/-- An insertion tells whether its key started to wait. -/
theorem insert_cases (q : WorkQueue) (item : WorkItem) :
    ((q.insert item).2 = false ∧ (q.insert item).1.waiting = q.waiting) ∨
      ((q.insert item).2 = true ∧ (q.insert item).1.waiting = q.waiting ++ [item.key]) := by
  unfold insert
  dsimp only
  split
  · exact .inl ⟨rfl, rfl⟩
  · exact .inr ⟨rfl, rfl⟩

/-- A notification is inserted as long as the queue is open. -/
theorem add_of_open (h : q.closed = false) : q.add item = q.insert item := by
  rw [add, h]
  rfl

/-- A closed queue ignores notifications. -/
theorem add_of_closed (h : q.closed = true) : q.add item = (q, false) := by
  rw [add, h]
  rfl

/-! ### Handing out -/

/-- The search for the first key with an item: it finds one behind keys that have none, or there is
none at all. -/
theorem takeFrom_cases (q : WorkQueue) (keys : List String) :
    ((∀ key ∈ keys, key ∉ q.items) ∧ q.takeFrom keys = ({ q with waiting := [] }, .empty)) ∨
    ∃ skipped key rest item, keys = skipped ++ key :: rest ∧ (∀ k ∈ skipped, k ∉ q.items) ∧
      q.items[key]? = some item ∧
      q.takeFrom keys =
        ({ q with
            waiting := rest
            items := q.items.erase key
            processing := q.processing.insert key }, .item item) := by
  induction keys with
  | nil => exact .inl ⟨fun _ h => (nomatch h), rfl⟩
  | cons key rest ih =>
    cases hitem : q.items[key]? with
    | some item =>
      refine .inr ⟨[], key, rest, item, rfl, fun _ h => (nomatch h), hitem, ?_⟩
      simp only [takeFrom, hitem]
    | none =>
      -- a key without an item is skipped
      have hkey : key ∉ q.items := by simpa using hitem
      have hskip : q.takeFrom (key :: rest) = q.takeFrom rest := by
        simp only [takeFrom, hitem]
      rw [hskip]
      rcases ih with ⟨hnone, htake⟩ | ⟨skipped, k, rest', item, rfl, hskipped, hk, htake⟩
      · exact .inl ⟨List.forall_mem_cons.mpr ⟨hkey, hnone⟩, htake⟩
      · exact .inr ⟨key :: skipped, k, rest', item, rfl,
          List.forall_mem_cons.mpr ⟨hkey, hskipped⟩, hk, htake⟩

/-- Everything that handing out can come to. -/
theorem take_cases (q : WorkQueue) :
    (q.closed = true ∧ q.take = (q, .closed)) ∨
    (q.closed = false ∧ (∀ key ∈ q.waiting, key ∉ q.items) ∧
      q.take = ({ q with waiting := [] }, .empty)) ∨
    (q.closed = false ∧ ∃ skipped key rest item, q.waiting = skipped ++ key :: rest ∧
      (∀ k ∈ skipped, k ∉ q.items) ∧ q.items[key]? = some item ∧
      q.take =
        ({ q with
            waiting := rest
            items := q.items.erase key
            processing := q.processing.insert key }, .item item)) := by
  unfold take
  by_cases hclosed : q.closed = true
  · exact .inl ⟨hclosed, if_pos hclosed⟩
  · have hopen : q.closed = false := Bool.eq_false_iff.mpr hclosed
    rw [if_neg hclosed]
    rcases takeFrom_cases q q.waiting with ⟨hnone, htake⟩ | hfound
    · exact .inr (.inl ⟨hopen, hnone, htake⟩)
    · exact .inr (.inr ⟨hopen, hfound⟩)

/-- An item is handed out by an open queue, and its key does not wait any more. -/
theorem take_item {q' : WorkQueue} (h : q.take = (q', .item item)) :
    q.closed = false ∧ q'.closed = q.closed ∧ q'.waiting.length < q.waiting.length := by
  rcases q.take_cases with ⟨-, htake⟩ | ⟨-, -, htake⟩ |
    ⟨hopen, skipped, key, rest, item', hwaiting, -, -, htake⟩
  · rw [htake] at h
    cases h
  · rw [htake] at h
    cases h
  · rw [htake] at h
    obtain ⟨rfl, -⟩ := Prod.mk.inj h
    have hlength := congrArg List.length hwaiting
    rw [List.length_append, List.length_cons] at hlength
    exact ⟨hopen, rfl, show rest.length < _ by omega⟩

/-! ### Release -/

/-- What a release does to each field. A key for which something was inserted meanwhile starts to
wait, unless the queue is closed. -/
theorem done_fst (q : WorkQueue) (key : String) :
    (q.done key).1 =
      { q with
        processing := q.processing.erase key
        waiting :=
          if key ∈ q.items ∧ q.closed = false then q.waiting ++ [key] else q.waiting } := by
  unfold done
  by_cases h : key ∈ q.items ∧ q.closed = false
  · rw [if_pos h, if_pos (by simpa using h)]
  · rw [if_neg h, if_neg (by simpa using h)]

/-! ### Books about failures and retries -/

/-- Two states of a queue with the same keys to work on, in the same order and with the same
items. -/
structure SameWork (q q' : WorkQueue) : Prop where
  waiting : q'.waiting = q.waiting
  items : q'.items = q.items
  processing : q'.processing = q.processing
  closed : q'.closed = q.closed

theorem sameWork_addRateLimited (q : WorkQueue) (backoff : Backoff) (item : WorkItem) :
    q.SameWork (q.addRateLimited backoff item).1 :=
  ⟨rfl, rfl, rfl, rfl⟩

theorem sameWork_forget (q : WorkQueue) (key : String) : q.SameWork (q.forget key) := by
  unfold forget
  by_cases h : q.retrying.contains key
  · exact ⟨by simp [h], by simp [h], by simp [h], by simp [h]⟩
  · exact ⟨by simp [h], by simp [h], by simp [h], by simp [h]⟩

/-- Ending a retry changes the count of retries, and nothing else. -/
theorem endRetry_eq (q : WorkQueue) (key : String) :
    ∃ retrying, q.endRetry key = { q with retrying } := by
  unfold endRetry
  split
  · split
    · exact ⟨_, rfl⟩
    · exact ⟨_, rfl⟩
  · exact ⟨q.retrying, rfl⟩

theorem sameWork_endRetry (q : WorkQueue) (key : String) : q.SameWork (q.endRetry key) := by
  obtain ⟨retrying, heq⟩ := endRetry_eq q key
  rw [heq]
  exact ⟨rfl, rfl, rfl, rfl⟩

theorem sameWork_dropSequence (q : WorkQueue) (key : String) :
    q.SameWork (q.dropSequence key) := by
  unfold dropSequence
  split
  · exact ⟨rfl, rfl, rfl, rfl⟩
  · exact ⟨rfl, rfl, rfl, rfl⟩

@[simp] theorem sequence_forget (q : WorkQueue) (key : String) :
    (q.forget key).sequence = q.sequence := by
  unfold forget
  dsimp only
  split <;> rfl

@[simp] theorem retrying_forget (q : WorkQueue) (key : String) :
    (q.forget key).retrying = q.retrying := by
  unfold forget
  dsimp only
  split <;> rfl

@[simp] theorem failures_forget (q : WorkQueue) (key : String) :
    (q.forget key).failures = q.failures.erase key := by
  unfold forget
  dsimp only
  split <;> rfl

/-- Forgetting drops the last insertion of a key unless retries of it are backing off. -/
theorem added_forget (q : WorkQueue) (key k : String) :
    (q.forget key).added[k]? = if key = k ∧ key ∉ q.retrying then none else q.added[k]? := by
  unfold forget
  dsimp only
  by_cases hretrying : key ∈ q.retrying
  · rw [if_pos (by simpa using hretrying), if_neg fun h => h.2 hretrying]
  · rw [if_neg (by simpa using hretrying)]
    simp [Std.TreeMap.getElem?_erase, hretrying]

@[simp] theorem sequence_dropSequence (q : WorkQueue) (key : String) :
    (q.dropSequence key).sequence = q.sequence := by
  unfold dropSequence
  split <;> rfl

@[simp] theorem retrying_dropSequence (q : WorkQueue) (key : String) :
    (q.dropSequence key).retrying = q.retrying := by
  unfold dropSequence
  split <;> rfl

@[simp] theorem failures_dropSequence (q : WorkQueue) (key : String) :
    (q.dropSequence key).failures = q.failures := by
  unfold dropSequence
  split <;> rfl

/-- The last insertion of a key that has neither retries nor failures is dropped. -/
theorem not_mem_added_dropSequence {key : String} (hretrying : key ∉ q.retrying)
    (hfailures : key ∉ q.failures) : key ∉ (q.dropSequence key).added := by
  have hidle : ¬ (q.retrying.contains key || q.failures.contains key) = true := by
    simp [hretrying, hfailures]
  unfold dropSequence
  rw [if_neg hidle]
  simp

/-- The last insertion of a key is only dropped when no retry of it is backing off. -/
theorem added_dropSequence (q : WorkQueue) (key k : String) :
    (q.dropSequence key).added[k]? = q.added[k]? ∨
      key = k ∧ key ∉ q.retrying ∧ (q.dropSequence key).added[k]? = none := by
  unfold dropSequence
  split
  · exact .inl rfl
  · next hbusy =>
    by_cases hk : key = k
    · exact .inr ⟨hk, fun h => hbusy (by simp [h]), by simp [hk]⟩
    · exact .inl (by simp [Std.TreeMap.getElem?_erase, hk])

/-- The count of a key's retries after one more was asked for. -/
theorem retrying_addRateLimited (q : WorkQueue) (backoff : Backoff) (item : WorkItem)
    (k : String) : (q.addRateLimited backoff item).1.retrying[k]? =
      if item.key = k then some (q.retrying.getD k 0 + 1) else q.retrying[k]? := by
  show (q.retrying.insert item.key (q.retrying.getD item.key 0 + 1))[k]? = _
  rw [Std.TreeMap.getElem?_insert]
  by_cases hkey : item.key = k
  · simp [hkey]
  · simp [hkey]

/-- The count of a key's retries after one has ended: the entry goes when the count comes to
nothing, and a key without an entry gets none. -/
theorem retrying_endRetry (q : WorkQueue) (key k : String) :
    (q.endRetry key).retrying[k]? =
      if key = k then q.retrying[k]?.bind fun n => if n - 1 = 0 then none else some (n - 1)
      else q.retrying[k]? := by
  unfold endRetry
  cases hcount : q.retrying[key]? with
  | none =>
    dsimp only
    by_cases hkey : key = k
    · subst hkey
      simp [hcount]
    · rw [if_neg hkey]
  | some n =>
    dsimp only
    by_cases hlast : n - 1 = 0
    · rw [if_pos hlast]
      by_cases hkey : key = k
      · subst hkey
        simp [hcount, hlast]
      · simp [Std.TreeMap.getElem?_erase, hkey]
    · rw [if_neg hlast]
      by_cases hkey : key = k
      · subst hkey
        simp [hcount, hlast]
      · simp [Std.TreeMap.getElem?_insert, hkey]

theorem SameWork.trans {q₁ q₂ q₃ : WorkQueue} (h : q₁.SameWork q₂) (h' : q₂.SameWork q₃) :
    q₁.SameWork q₃ :=
  ⟨h'.waiting.trans h.waiting, h'.items.trans h.items, h'.processing.trans h.processing,
    h'.closed.trans h.closed⟩

/-! ### The end of a backoff -/

/-- Whether a retry would be inserted if its backoff ended now: the queue is open, and the last
insertion for the key is still the one that was there when the retry was asked for. -/
def Admits (q : WorkQueue) (r : Retry) : Prop :=
  q.closed = false ∧ q.added[r.item.key]? = r.seen

instance (q : WorkQueue) (r : Retry) : Decidable (q.Admits r) :=
  inferInstanceAs (Decidable (_ ∧ _))

@[simp] theorem added_endRetry (q : WorkQueue) (key : String) :
    (q.endRetry key).added = q.added := by
  obtain ⟨retrying, heq⟩ := endRetry_eq q key
  rw [heq]

@[simp] theorem sequence_endRetry (q : WorkQueue) (key : String) :
    (q.endRetry key).sequence = q.sequence := by
  obtain ⟨retrying, heq⟩ := endRetry_eq q key
  rw [heq]

@[simp] theorem failures_endRetry (q : WorkQueue) (key : String) :
    (q.endRetry key).failures = q.failures := by
  obtain ⟨retrying, heq⟩ := endRetry_eq q key
  rw [heq]

/-- A retry that is admitted is taken off the count and inserted. -/
theorem mature_of_admits {r : Retry} (h : q.Admits r) :
    (q.mature r).1 = ((q.endRetry r.item.key).insert r.item).1 := by
  have hclosed := (sameWork_endRetry q r.item.key).closed
  unfold mature
  simp [hclosed, h.1, h.2]

/-- A retry that is not admitted is taken off the count; an open queue may then forget the last
insertion of the key. -/
theorem mature_of_not_admits {r : Retry} (h : ¬ q.Admits r) :
    (q.mature r).1 =
      if q.closed then q.endRetry r.item.key
      else (q.endRetry r.item.key).dropSequence r.item.key := by
  have hclosed := (sameWork_endRetry q r.item.key).closed
  unfold mature
  cases hq : q.closed with
  | true => simp [hclosed, hq]
  | false =>
    have hseen : q.added[r.item.key]? ≠ r.seen := fun he => h ⟨hq, he⟩
    simp [hclosed, hq, hseen]

/-- A retry that is not admitted leaves the keys with work to do as they are. -/
theorem sameWork_mature {r : Retry} (h : ¬ q.Admits r) : q.SameWork (q.mature r).1 := by
  have hend := sameWork_endRetry q r.item.key
  rw [mature_of_not_admits h]
  split
  · exact hend
  · exact hend.trans (sameWork_dropSequence _ _)

/-! ### Failures -/

theorem failureCount_congr {q q' : WorkQueue} (h : q'.failures = q.failures) (key : String) :
    q'.failureCount key = q.failureCount key := by
  unfold failureCount
  rw [h]

theorem failureCount_forget (q : WorkQueue) (key k : String) :
    (q.forget key).failureCount k = if key = k then 0 else q.failureCount k := by
  unfold failureCount
  rw [failures_forget, Std.TreeMap.getD_erase]
  by_cases hkey : key = k
  · simp [hkey]
  · simp [hkey]

/-- What a failure makes of the entries: its key gets one, be the count nothing or not. -/
theorem failures_addRateLimited (q : WorkQueue) (backoff : Backoff) (item : WorkItem)
    (k : String) : (q.addRateLimited backoff item).1.failures[k]? =
      if item.key = k then some (q.failures.getD k 0 + 1) else q.failures[k]? := by
  show (q.failures.insert item.key (q.failures.getD item.key 0 + 1))[k]? = _
  rw [Std.TreeMap.getElem?_insert]
  by_cases hkey : item.key = k
  · simp [hkey]
  · simp [hkey]

/-- A failure counts for its own key, as long as the count fits. -/
theorem failureCount_addRateLimited {q : WorkQueue} (backoff : Backoff) {item : WorkItem}
    (hfits : q.failureCount item.key + 1 < UInt32.size) (k : String) :
    (q.addRateLimited backoff item).1.failureCount k =
      if item.key = k then q.failureCount k + 1 else q.failureCount k := by
  unfold failureCount at hfits ⊢
  rw [Std.TreeMap.getD_eq_getD_getElem?, failures_addRateLimited]
  by_cases hkey : item.key = k
  · subst hkey
    rw [if_pos rfl, if_pos rfl, Option.getD_some, UInt32.toNat_add]
    exact Nat.mod_eq_of_lt hfits
  · rw [if_neg hkey, if_neg hkey, Std.TreeMap.getD_eq_getD_getElem?]

/-- A failure of another key. -/
theorem failureCount_addRateLimited_other (q : WorkQueue) (backoff : Backoff) {item : WorkItem}
    {k : String} (hkey : item.key ≠ k) :
    (q.addRateLimited backoff item).1.failureCount k = q.failureCount k := by
  unfold failureCount
  rw [Std.TreeMap.getD_eq_getD_getElem?, failures_addRateLimited, if_neg hkey,
    Std.TreeMap.getD_eq_getD_getElem?]

theorem failures_take {q q' : WorkQueue} {taken : Taken} (h : q.take = (q', taken)) :
    q'.failures = q.failures := by
  rcases q.take_cases with ⟨-, htake⟩ | ⟨-, -, htake⟩ | ⟨-, _, _, _, _, -, -, -, htake⟩
  all_goals
    rw [htake] at h
    obtain ⟨rfl, -⟩ := Prod.mk.inj h
    rfl

theorem failures_add (q : WorkQueue) (item : WorkItem) : (q.add item).1.failures = q.failures := by
  by_cases hclosed : q.closed = true
  · rw [add_of_closed hclosed]
  · rw [add_of_open (Bool.eq_false_iff.mpr hclosed), failures_insert]

theorem failures_mature (q : WorkQueue) (r : Retry) : (q.mature r).1.failures = q.failures := by
  by_cases hadmits : q.Admits r
  · rw [mature_of_admits hadmits, failures_insert, failures_endRetry]
  · rw [mature_of_not_admits hadmits]
    split
    · exact failures_endRetry _ _
    · rw [failures_dropSequence, failures_endRetry]

/-! ### Other keys -/

/-- An insertion for another key. -/
theorem insert_other {item : WorkItem} (hne : item.key ≠ key) :
    (q.insert item).1.items[key]? = q.items[key]? ∧
      (q.insert item).1.added[key]? = q.added[key]? := by
  simp [Std.TreeMap.getElem?_insert, hne]

/-- A notification for another key. -/
theorem add_other {item : WorkItem} (hne : item.key ≠ key) :
    (q.add item).1.items[key]? = q.items[key]? ∧ (q.add item).1.added[key]? = q.added[key]? := by
  by_cases hclosed : q.closed = true
  · rw [add_of_closed hclosed]
    exact ⟨rfl, rfl⟩
  · rw [add_of_open (Bool.eq_false_iff.mpr hclosed)]
    exact insert_other hne

/-- The end of the backoff of another key's retry. -/
theorem mature_other {r : Retry} (hne : r.item.key ≠ key) :
    (q.mature r).1.items[key]? = q.items[key]? ∧ (q.mature r).1.added[key]? = q.added[key]? := by
  by_cases hadmits : q.Admits r
  · obtain ⟨hitems, hadded⟩ := insert_other (q := q.endRetry r.item.key) hne
    rw [mature_of_admits hadmits, hitems, hadded, (sameWork_endRetry q r.item.key).items,
      added_endRetry]
    exact ⟨rfl, rfl⟩
  · rw [(sameWork_mature hadmits).items]
    refine ⟨rfl, ?_⟩
    rw [mature_of_not_admits hadmits]
    split
    · rw [added_endRetry]
    · rcases added_dropSequence (q.endRetry r.item.key) r.item.key key with hsame | ⟨hkey, -⟩
      · rw [hsame, added_endRetry]
      · exact absurd hkey hne

end ClusterWatch.WorkQueue
