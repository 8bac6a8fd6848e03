import ClusterWatch.Proofs.Queue.Session
import Mathlib.Data.List.Perm.Basic
/-!
# The books about retries

A retry is inserted at the end of its backoff when the last insertion for its key is still the one
that it saw when it was asked for. The numbers of those insertions are dropped again when a key
comes to rest, so that it is not plain that an equal number means an equal insertion. It does,
because a number is never dropped while a retry of its key is backing off, and those retries are
never more than can be counted with 32 bits when the operations that ask for them return:

- `filter_eraseIdx_of_neg`, `filter_eraseIdx_of_pos`: a retry leaves those that are backing off.
- `countEntry`: how the queue counts retries. `countEntry_succ` is what asking for one more does to
  the count, and `countEntry_pred` what the end of one does while the count has not wrapped.
- `Timer.Current`, `Timer.Outdated`: the two states of a retry that is backing off. Either nothing
  was inserted for its key since, and the queue still has the number it saw, or something was, and
  the queue has a higher one.
- `Issued`: no number is recorded, and none was seen, that was not given out.
- `Booked`: the count of a key's retries is that of its timers, and each timer is in one of the two
  states.

Main result: `Session.Reachable.admits_iff`. It holds in all runs whose operations return, whoever
releases keys and forgets failures.
-/

namespace ClusterWatch.WorkQueue

open History

/-! ### Entries that are taken out -/

section

variable {α : Type} {p : α → Bool} {a : α} {l : List α} {i : Nat}

/-- An entry that is taken out of a list and does not count among those of a kind. -/
theorem filter_eraseIdx_of_neg (ha : p a = false) (h : l[i]? = some a) :
    (l.eraseIdx i).filter p = l.filter p := by
  obtain ⟨hlt, rfl⟩ := List.getElem?_eq_some_iff.mp h
  have hsplit : l = l.take i ++ l[i] :: l.drop (i + 1) := by simp
  rw [List.eraseIdx_eq_take_drop_succ]
  conv_rhs => rw [hsplit]
  rw [List.filter_append, List.filter_append, List.filter_cons_of_neg (by simp [ha])]

/-- An entry that is taken out of a list is taken out of those of its kind, where its place is the
number of those before it. -/
theorem filter_eraseIdx_of_pos (ha : p a = true) (h : l[i]? = some a) :
    (l.filter p)[(l.take i).countP p]? = some a ∧
      (l.eraseIdx i).filter p = (l.filter p).eraseIdx ((l.take i).countP p) := by
  obtain ⟨hlt, rfl⟩ := List.getElem?_eq_some_iff.mp h
  have hsplit : l = l.take i ++ l[i] :: l.drop (i + 1) := by simp
  have hfilter : l.filter p = (l.take i).filter p ++ l[i] :: (l.drop (i + 1)).filter p := by
    conv_lhs => rw [hsplit]
    rw [List.filter_append, List.filter_cons_of_pos ha]
  rw [hfilter, List.countP_eq_length_filter]
  constructor
  · simp
  · rw [List.eraseIdx_eq_take_drop_succ, List.filter_append,
      List.eraseIdx_append_of_length_le (Nat.le_refl _), Nat.sub_self, List.eraseIdx_cons_zero]

/-- The only entry of a kind is taken out of a list. -/
theorem filter_eraseIdx_of_sole {b : α} (ha : p a = true) (h : l[i]? = some a)
    (hsole : l.filter p = [b]) : a = b ∧ (l.eraseIdx i).filter p = [] := by
  obtain ⟨hplace, herase⟩ := filter_eraseIdx_of_pos ha h
  rw [hsole] at hplace herase
  cases hcount : (l.take i).countP p with
  | zero =>
    rw [hcount] at hplace
    exact ⟨(Option.some.inj hplace).symm, by rw [herase, hcount]; rfl⟩
  | succ n =>
    rw [hcount] at hplace
    cases hplace

end

/-! ### Timers -/

namespace Timer

/-- The key of a retry. -/
def key (t : Timer) : String :=
  t.retry.item.key

/-- Nothing was inserted for the key since the retry was asked for, and the queue knows. -/
def Current (q : WorkQueue) (h : History) (t : Timer) : Prop :=
  insertions t.key t.asked = insertions t.key h ∧ q.added[t.key]? = t.retry.seen

/-- Something was inserted for the key since the retry was asked for, and the queue knows. -/
def Outdated (q : WorkQueue) (h : History) (t : Timer) : Prop :=
  insertions t.key t.asked < insertions t.key h ∧
    ∃ n, q.added[t.key]? = some n ∧ ∀ m, t.retry.seen = some m → m < n

end Timer

/-- How many retries of a key are backing off. -/
def backingOff (key : String) (timers : List Timer) : Nat :=
  timers.countP fun t => t.key = key

theorem backingOff_pos {key : String} {timers : List Timer} {t : Timer} (ht : t ∈ timers)
    (hkey : t.key = key) : 0 < backingOff key timers :=
  List.countP_pos_iff.mpr ⟨t, ht, by simpa using hkey⟩

/-- A timer that fires counts for its own key only. -/
theorem backingOff_eraseIdx {timers : List Timer} {position : Nat} {t : Timer}
    (ht : timers[position]? = some t) (key : String) :
    backingOff key timers =
      backingOff key (timers.eraseIdx position) + if t.key = key then 1 else 0 := by
  obtain ⟨hlt, rfl⟩ := List.getElem?_eq_some_iff.mp ht
  have hperm := List.getElem_cons_eraseIdx_perm hlt
  rw [backingOff, ← hperm.countP_eq, List.countP_cons]
  simp [backingOff]

/-! ### The count -/

/-- The entry of a key of which that many retries are backing off. -/
def countEntry (n : Nat) : Option UInt32 :=
  if n = 0 then none else some (.ofNat n)

/-- One retry more. The count wraps round. -/
theorem countEntry_succ (n : Nat) :
    countEntry (n + 1) = some ((countEntry n).getD 0 + 1) := by
  unfold countEntry
  rw [if_neg (Nat.succ_ne_zero n), UInt32.ofNat_add]
  split
  · next hzero => rw [hzero]; rfl
  · rfl

/-- One retry less, as long as the count has not wrapped. -/
theorem countEntry_pred {n : Nat} (hfits : n + 1 < UInt32.size) :
    ((countEntry (n + 1)).bind fun c => if c - 1 = 0 then none else some (c - 1)) =
      countEntry n := by
  have hless : UInt32.ofNat (n + 1) - 1 = .ofNat n := by
    rw [UInt32.ofNat_add]
    exact UInt32.add_sub_cancel _ _
  have hzero : UInt32.ofNat n = 0 ↔ n = 0 := by
    rw [← UInt32.toNat_inj, UInt32.toNat_ofNat_of_lt' (Nat.lt_of_succ_lt hfits)]
    rfl
  unfold countEntry
  rw [if_neg (Nat.succ_ne_zero n), Option.bind_some, hless]
  simp only [hzero]

/-- Every number that is recorded or was seen has been given out. -/
structure Issued (q : WorkQueue) (timers : List Timer) : Prop where
  added_le : ∀ (key : String) (n : Nat), q.added[key]? = some n → n ≤ q.sequence
  seen_le : ∀ t ∈ timers, ∀ n, t.retry.seen = some n → n ≤ q.sequence

/-- The books of a queue about a key agree with the retries of the key that are backing off and with
the history. -/
structure Booked (key : String) (q : WorkQueue) (timers : List Timer) (h : History) : Prop where
  fits : backingOff key timers < UInt32.size
  counted : q.retrying[key]? = countEntry (backingOff key timers)
  fate : ∀ t ∈ timers, t.key = key → t.Current q h ∨ t.Outdated q h

variable {q q' : WorkQueue} {timers : List Timer} {h h' : History} {key : String}

theorem issued_start : Issued {} [] where
  added_le := fun _ _ hn => by simp at hn
  seen_le := fun _ ht => nomatch ht

theorem booked_start (key : String) : Booked key {} [] [] where
  fits := by simp [backingOff]
  counted := by simp [backingOff, countEntry]
  fate := fun _ ht => nomatch ht

/-- Nothing changes when no insertion is made, whatever numbers are dropped. -/
theorem Issued.quiet {timers' : List Timer} (hi : Issued q timers)
    (hsequence : q'.sequence = q.sequence)
    (hadded : ∀ k : String, q'.added[k]? = q.added[k]? ∨ q'.added[k]? = none)
    (htimers : ∀ t ∈ timers', t ∈ timers) : Issued q' timers' := by
  refine { added_le := fun k n hn => ?_, seen_le := fun t ht n hn => ?_ }
  · rw [hsequence]
    rcases hadded k with hsame | hnone
    · exact hi.added_le k n (hsame ▸ hn)
    · rw [hnone] at hn
      cases hn
  · rw [hsequence]
    exact hi.seen_le t (htimers t ht) n hn

/-- An insertion gives out a number that is higher than all before. -/
theorem Issued.insert (hi : Issued q timers) (item : WorkItem) :
    Issued (q.insert item).1 timers := by
  refine { added_le := fun k n hn => ?_, seen_le := fun t ht n hn => ?_ }
  · rw [sequence_insert]
    rw [added_insert, Std.TreeMap.getElem?_insert] at hn
    split at hn
    · exact Nat.le_of_eq (Option.some.inj hn).symm
    · exact Nat.le_succ_of_le (hi.added_le k n hn)
  · rw [sequence_insert]
    exact Nat.le_succ_of_le (hi.seen_le t ht n hn)

/-- A retry sees a number that is recorded. -/
theorem Issued.retry (hi : Issued q timers) (backoff : Backoff) (item : WorkItem) (number : Nat)
    (h : History) :
    Issued (q.addRateLimited backoff item).1
      (timers ++ [⟨(q.addRateLimited backoff item).2.1, (q.addRateLimited backoff item).2.2,
        number, h⟩]) := by
  refine { added_le := hi.added_le, seen_le := fun t ht n hn => ?_ }
  rcases List.mem_append.mp ht with hold | hnew
  · exact hi.seen_le t hold n hn
  · rw [List.mem_singleton] at hnew
    subst hnew
    exact hi.added_le item.key n hn

/-- The end of a backoff gives out no number. -/
theorem Issued.endRetry (hi : Issued q timers) (key : String) (position : Nat) :
    Issued (q.endRetry key) (timers.eraseIdx position) :=
  hi.quiet (sequence_endRetry _ _) (fun _ => .inl (by rw [added_endRetry]))
    fun _ => List.mem_of_mem_eraseIdx

/-- While a retry of a key is backing off, the queue counts it. -/
theorem Booked.mem_retrying (hb : Booked key q timers h) {t : Timer} (ht : t ∈ timers)
    (hkey : t.key = key) : key ∈ q.retrying := by
  have hpos := backingOff_pos ht hkey
  rw [Std.TreeMap.mem_iff_isSome_getElem?, hb.counted, countEntry, if_neg (by omega)]
  rfl

/-- The queue counts retries of a key only while one is backing off. -/
theorem Booked.exists_timer (hb : Booked key q timers h) (hkey : key ∈ q.retrying) :
    ∃ t ∈ timers, t.key = key := by
  have hcount := hb.counted
  have hpos : backingOff key timers ≠ 0 := by
    intro hzero
    rw [hzero] at hcount
    rw [Std.TreeMap.mem_iff_isSome_getElem?, hcount] at hkey
    cases hkey
  obtain ⟨t, hmem, ht⟩ := List.countP_pos_iff.mp (Nat.pos_of_ne_zero hpos)
  exact ⟨t, hmem, by simpa using ht⟩

/-- Nothing changes for a key when no insertion is made for it, its retries are counted as before,
and its number is only dropped when none of them is backing off. -/
theorem Booked.quiet (hb : Booked key q timers h)
    (hretrying : q'.retrying[key]? = q.retrying[key]?)
    (hadded : q'.added[key]? = q.added[key]? ∨ key ∉ q.retrying ∧ q'.added[key]? = none)
    (hinsertions : insertions key h' = insertions key h) : Booked key q' timers h' := by
  refine { fits := hb.fits, counted := hretrying.trans hb.counted, fate := fun t ht hkey => ?_ }
  -- the number of the key is not dropped while the retry is backing off
  have hsame : q'.added[key]? = q.added[key]? :=
    hadded.resolve_right fun hdrop => hdrop.1 (hb.mem_retrying ht hkey)
  have hfate := hb.fate t ht hkey
  subst hkey
  unfold Timer.Current Timer.Outdated at hfate ⊢
  rw [hinsertions, hsame]
  exact hfate

/-- An insertion makes the retries of its key outdated. -/
theorem Booked.insert (hb : Booked key q timers h) (hi : Issued q timers) (item : WorkItem)
    (number : Nat) (returned : Bool) :
    Booked key (q.insert item).1 timers (.inserted item number returned :: h) := by
  refine { fits := hb.fits, counted := ?_, fate := fun t ht hkey => ?_ }
  · rw [retrying_insert]
    exact hb.counted
  · have hfate := hb.fate t ht hkey
    subst hkey
    unfold Timer.Current Timer.Outdated at hfate ⊢
    rw [added_insert, Std.TreeMap.getElem?_insert, insertions]
    by_cases hkey : item.key = t.key
    · -- its number is higher than all numbers seen before
      rw [if_pos (Std.compare_eq_iff_eq.mpr hkey), if_pos hkey]
      refine .inr ⟨?_, q.sequence + 1, rfl, fun m hm => Nat.lt_succ_of_le (hi.seen_le t ht m hm)⟩
      rcases hfate with ⟨hsame, -⟩ | ⟨hless, -⟩
      · omega
      · omega
    · rw [if_neg (fun heq => hkey (Std.compare_eq_iff_eq.mp heq)), if_neg hkey]
      exact hfate

/-- When there is room in the count of a key, one retry more of it can be counted. -/
theorem Booked.fits_of_hasRoom (hb : Booked key q timers h) (hroom : q.HasRoom key) :
    backingOff key timers + 1 < UInt32.size := by
  have hcount := hroom.2
  rw [Std.TreeMap.getD_eq_getD_getElem?, hb.counted, countEntry] at hcount
  split at hcount
  · next hzero => omega
  · rwa [Option.getD_some, UInt32.toNat_ofNat_of_lt' hb.fits] at hcount

/-- Asking for a retry. -/
theorem Booked.retry (hb : Booked key q timers h) (backoff : Backoff) (item : WorkItem)
    (number worker : Nat) (hroom : item.key = key → backingOff key timers + 1 < UInt32.size) :
    Booked key (q.addRateLimited backoff item).1
      (timers ++ [⟨(q.addRateLimited backoff item).2.1, (q.addRateLimited backoff item).2.2,
        number, h⟩])
      (.retried worker item number :: h) := by
  have hmore : backingOff key (timers ++ [⟨(q.addRateLimited backoff item).2.1,
      (q.addRateLimited backoff item).2.2, number, h⟩]) =
      backingOff key timers + if item.key = key then 1 else 0 := by
    unfold backingOff
    rw [List.countP_append, List.countP_singleton]
    by_cases hkey : item.key = key
    · simp [Timer.key, addRateLimited, hkey]
    · simp [Timer.key, addRateLimited, hkey]
  refine { fits := ?_, counted := ?_, fate := fun t ht hkey => ?_ }
  · rw [hmore]
    split
    · next hkey => exact hroom hkey
    · exact hb.fits
  · rw [hmore, retrying_addRateLimited]
    by_cases hkey : item.key = key
    · rw [if_pos hkey, if_pos hkey, countEntry_succ, ← hb.counted,
        Std.TreeMap.getD_eq_getD_getElem?]
    · rw [if_neg hkey, if_neg hkey]
      exact hb.counted
  -- the new timer saw what is recorded now
  · rcases List.mem_append.mp ht with hold | hnew
    · exact hb.fate t hold hkey
    · rw [List.mem_singleton] at hnew
      subst hnew
      exact .inl ⟨rfl, rfl⟩

/-- The end of a backoff takes the retry off the count. -/
theorem Booked.endRetry (hb : Booked key q timers h) {position : Nat} {t : Timer}
    (ht : timers[position]? = some t) :
    Booked key (q.endRetry t.key) (timers.eraseIdx position) h := by
  have hcount := hb.counted
  have hfits := hb.fits
  have herase := backingOff_eraseIdx ht key
  refine { fits := by omega, counted := ?_, fate := fun t' ht' hkey => ?_ }
  · rw [retrying_endRetry, hcount]
    by_cases hkey : t.key = key
    · rw [if_pos hkey] at herase ⊢
      rw [herase] at hfits ⊢
      exact countEntry_pred hfits
    · rw [if_neg hkey] at herase ⊢
      rw [herase]
      rfl
  · unfold Timer.Current Timer.Outdated
    rw [added_endRetry]
    exact hb.fate t' (List.mem_of_mem_eraseIdx ht') hkey

/-! ### Runs -/

namespace Session

variable {s : Session} {promise : Session → Operation → Prop} {backoff : Backoff}

/-- What the end of a backoff makes of the numbers that are recorded, if its retry is dropped. -/
theorem added_mature_of_not_admits {q : WorkQueue} {r : Retry} (hr : ¬ q.Admits r) (k : String) :
    (q.mature r).1.added[k]? = q.added[k]? ∨
      k ∉ (q.endRetry r.item.key).retrying ∧ (q.mature r).1.added[k]? = none := by
  rw [mature_of_not_admits hr]
  split
  · exact .inl (by rw [added_endRetry])
  · rcases added_dropSequence (q.endRetry r.item.key) r.item.key k with hsame | ⟨rfl, hidle, hnone⟩
    · exact .inl (by rw [hsame, added_endRetry])
    · exact .inr ⟨hidle, hnone⟩

/-- Every operation gives out the numbers that it records. -/
theorem issued_step (hi : Issued s.queue s.timers) (op : Operation) :
    Issued (s.apply op).queue (s.apply op).timers := by
  -- only insertions give out numbers, and only retries take note of them
  cases op with
  | add item =>
    simp only [apply]
    by_cases hclosed : s.queue.closed = true
    · rw [add_of_closed hclosed]
      exact hi
    · rw [add_of_open (Bool.eq_false_iff.mpr hclosed)]
      exact hi.insert item
  | take worker =>
    show Issued (s.applyTake worker).queue (s.applyTake worker).timers
    rcases s.applyTake_cases worker with ⟨-, htake⟩ | ⟨-, -, htake⟩ |
      ⟨-, skipped, key, rest, item, -, -, -, htake⟩
    all_goals
      rw [htake]
      exact hi.quiet rfl (fun _ => .inl rfl) fun _ => id
  | retry worker item number => exact hi.retry s.backoff item number s.history
  | mature position =>
    simp only [apply]
    split
    · next t ht =>
      by_cases hr : s.queue.Admits t.retry
      · simp only [applyMature, mature_of_admits hr]
        exact (hi.endRetry t.key position).insert t.retry.item
      -- a dropped retry takes its number away at most
      · refine hi.quiet ?_ (fun k => (added_mature_of_not_admits hr k).imp_right And.right)
          fun _ => List.mem_of_mem_eraseIdx
        show (s.queue.mature t.retry).1.sequence = _
        rw [mature_of_not_admits hr]
        split
        · exact sequence_endRetry _ _
        · rw [sequence_dropSequence, sequence_endRetry]
    · exact hi
  | forget worker key =>
    refine hi.quiet (sequence_forget _ _) (fun k => ?_) fun _ => id
    show (s.queue.forget key).added[k]? = _ ∨ (s.queue.forget key).added[k]? = none
    rw [added_forget]
    split
    · exact .inr rfl
    · exact .inl rfl
  | done worker key =>
    show Issued (s.queue.done key).1 s.timers
    rw [done_fst]
    exact hi.quiet rfl (fun _ => .inl rfl) fun _ => id
  | shutDown => exact hi.quiet rfl (fun _ => .inl rfl) fun _ => id

/-- In every state of every run the numbers that are about were given out. -/
theorem Reachable.issued (hrun : Reachable promise backoff s) : Issued s.queue s.timers := by
  induction hrun with
  | start => exact issued_start
  | step _ _ ih => exact issued_step ih _

/-- Every operation that returns keeps the books of a key in agreement, whoever makes it. -/
theorem booked_step (hb : Booked key s.queue s.timers s.history) (hi : Issued s.queue s.timers)
    {op : Operation} (hreturns : s.Returns op) :
    Booked key (s.apply op).queue (s.apply op).timers (s.apply op).history := by
  cases op with
  | add item =>
    simp only [apply]
    by_cases hclosed : s.queue.closed = true
    · rw [add_of_closed hclosed, if_pos hclosed]
      exact hb
    · rw [add_of_open (Bool.eq_false_iff.mpr hclosed), if_neg hclosed]
      exact hb.insert hi item _ false
  | take worker =>
    show Booked key (s.applyTake worker).queue (s.applyTake worker).timers
      (s.applyTake worker).history
    rcases s.applyTake_cases worker with ⟨-, htake⟩ | ⟨-, -, htake⟩ |
      ⟨-, skipped, k, rest, item, -, -, -, htake⟩
    all_goals
      rw [htake]
      exact hb.quiet rfl (.inl rfl) rfl
  | retry worker item number =>
    refine hb.retry s.backoff item number worker ?_
    rintro rfl
    exact hb.fits_of_hasRoom hreturns
  | mature position =>
    simp only [apply]
    split
    · next t ht =>
      -- the retry is taken off the count, and then inserted or dropped
      have hend := hb.endRetry ht
      by_cases hr : s.queue.Admits t.retry
      · simp only [applyMature, mature_of_admits hr, if_pos hr]
        exact hend.insert (hi.endRetry t.key position) t.retry.item t.number true
      · simp only [applyMature, if_neg hr]
        refine hend.quiet ?_ ?_ rfl
        · rw [mature_of_not_admits hr]
          split
          · rfl
          · rw [retrying_dropSequence]
            rfl
        · rw [added_endRetry]
          exact added_mature_of_not_admits hr key
    · exact hb
  | forget worker k =>
    refine hb.quiet ?_ ?_ rfl
    · show (s.queue.forget k).retrying[key]? = _
      rw [retrying_forget]
    · show (s.queue.forget k).added[key]? = _ ∨ _ ∧ (s.queue.forget k).added[key]? = none
      rw [added_forget]
      split
      · next hdrop => exact .inr ⟨hdrop.1 ▸ hdrop.2, rfl⟩
      · exact .inl rfl
  | done worker k =>
    show Booked key (s.queue.done k).1 s.timers (.released worker k :: s.history)
    rw [done_fst]
    exact hb.quiet rfl (.inl rfl) rfl
  | shutDown => exact hb.quiet rfl (.inl rfl) rfl

/-- The books about a key agree in every state of every run whose operations return. -/
theorem Reachable.booked (hrun : Reachable Returns backoff s) :
    Booked key s.queue s.timers s.history := by
  induction hrun with
  | start => exact booked_start key
  | step hrun hreturns ih => exact booked_step ih hrun.issued hreturns

/-- A retry whose backoff ends is inserted exactly when the queue is open and nothing was inserted
for its key since the retry was asked for, whatever was forgotten and dropped meanwhile. -/
theorem Reachable.admits_iff {t : Timer} (hrun : Reachable Returns backoff s)
    (ht : t ∈ s.timers) :
    s.queue.Admits t.retry ↔
      s.queue.closed = false ∧ insertions t.key t.asked = insertions t.key s.history := by
  refine and_congr_right fun _ => ?_
  show s.queue.added[t.key]? = t.retry.seen ↔ _
  rcases hrun.booked.fate t ht rfl with ⟨hcount, hsame⟩ | ⟨hcount, n, hn, hnewer⟩
  · exact iff_of_true hsame hcount
  · refine iff_of_false (fun heq => ?_) (Nat.ne_of_lt hcount)
    exact Nat.lt_irrefl n (hnewer n (heq.symm.trans hn))

end Session

end ClusterWatch.WorkQueue
