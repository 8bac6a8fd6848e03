import ClusterWatch.Proofs.Queue.Getters
/-!
# Wake-ups

Whoever makes a key wait owes a notification, and gives it later. A notification may reach a getter
that finds an item without it, and a getter may look before the notification that is meant for it
is given. No key is left waiting for that while a getter is blocked.

- `Use`, `Move`, `Run`: what happens to a queue in any order: operations of its users, calls that
  wait for an item, and the steps of the getters and of those who owe notifications.
- `Getter.looks`: how often a getter, or one that it passes its notification to, will still look.
- `Covered`: while a getter is blocked, there are at least as many looks and owed notifications as
  keys that wait. This is the invariant, and each move keeps it.
- `Sound`: the invariants together.

Main result: `Run.blocked_only_when_idle`.
-/

namespace ClusterWatch

open WorkQueue (Taken)
open scoped List

/-- How often a getter will look before it is blocked, and who gets its notification after it. -/
def Getter.looks (g : Getter) : Nat :=
  (if g.looked then 0 else 1) + if g.signal = some .single then 1 else 0

namespace SharedQueue

variable {s s' : SharedQueue} {g : Getter} {gs : List Getter} {got : Option (Nat × Taken)}

/-! ### Runs -/

/-- An operation of a user that does not wait. -/
inductive Use where
  | add (item : WorkItem)
  | done (key : String)
  /-- The backoff of a retry is over, of any retry at any time. -/
  | mature (r : Retry)
  | retry (backoff : Backoff) (item : WorkItem)
  | forget (key : String)
  deriving DecidableEq, Repr

/-- The queue after an operation, and whether a key started to wait. -/
def Use.apply (q : WorkQueue) : Use → WorkQueue × Bool
  | add item => q.add item
  | done key => q.done key
  | mature r => q.mature r
  | retry backoff item => ((q.addRateLimited backoff item).1, false)
  | forget key => (q.forget key, false)

/-- Something that happens to a queue. -/
inductive Move where
  | use (use : Use)
  /-- A call that waits for an item. The number names it until it gets an answer. -/
  | get (id : Nat)
  | shutDown
  | step (step : Step)
  deriving DecidableEq, Repr

/-- The state after a move, and the call that was answered in it. None when it cannot be made. -/
def move? (s : SharedQueue) : Move → Option (SharedQueue × Option (Nat × Taken))
  | .use use => some (s.update (use.apply s.queue), none)
  | .get id => if id ∈ s.ids then none else some (s.register id, none)
  | .shutDown => some (s.shutDown, none)
  | .step step => s.step step

/-- A call is made under a name that is free. -/
theorem get_cases {id : Nat} (h : s.move? (.get id) = some (s', got)) :
    id ∉ s.ids ∧ s' = s.register id ∧ got = none := by
  unfold move? at h
  dsimp only at h
  split at h
  · cases h
  · next hnew =>
    obtain ⟨rfl, rfl⟩ := Prod.mk.inj (Option.some.inj h)
    exact ⟨hnew, rfl, rfl⟩

/-- A run: moves, the answers that calls got in them, and the state they lead to. -/
inductive Run : SharedQueue → List Move → List (Nat × Taken) → SharedQueue → Prop
  | nil (s : SharedQueue) : Run s [] [] s
  | cons {s s' s'' : SharedQueue} {move : Move} {moves : List Move} {got : Option (Nat × Taken)}
      {answers : List (Nat × Taken)} : s.move? move = some (s', got) → Run s' moves answers s'' →
      Run s (move :: moves) (got.toList ++ answers) s''

/-- Makes moves one after the other. -/
def run? (s : SharedQueue) : List Move → Option (List (Nat × Taken) × SharedQueue)
  | [] => some ([], s)
  | move :: moves =>
    match s.move? move with
    | none => none
    | some (s', got) => (s'.run? moves).map fun (answers, s'') => (got.toList ++ answers, s'')

theorem run_of_run? {moves : List Move} {answers : List (Nat × Taken)}
    (h : s.run? moves = some (answers, s')) : Run s moves answers s' := by
  induction moves generalizing s answers with
  | nil =>
    obtain ⟨rfl, rfl⟩ := Prod.mk.inj (Option.some.inj h)
    exact .nil s
  | cons move moves ih =>
    unfold run? at h
    split at h
    · cases h
    · next s₁ got hmove =>
      obtain ⟨⟨answers', s₂⟩, hrest, heq⟩ := Option.map_eq_some_iff.mp h
      obtain ⟨rfl, rfl⟩ := Prod.mk.inj heq
      exact .cons hmove (ih hrest)

/-- The calls that were made in a run. -/
def calls (moves : List Move) : List Nat :=
  moves.filterMap fun
    | .get id => some id
    | _ => none

/-! ### Operations on the queue -/

/-- An operation lets one key wait and tells so, or none. In a closed queue no key starts to
wait. -/
theorem Use.apply_cases (use : Use) (q : WorkQueue) :
    (use.apply q).1.closed = q.closed ∧
    (((use.apply q).2 = false ∧ (use.apply q).1.waiting = q.waiting) ∨
      (q.closed = false ∧ (use.apply q).2 = true ∧
        ∃ key, (use.apply q).1.waiting = q.waiting ++ [key])) := by
  -- each use lets at most one key start to wait, and owes a notification for it
  cases use with
  | add item =>
    cases hclosed : q.closed with
    | true => simp [Use.apply, WorkQueue.add_of_closed hclosed, hclosed]
    | false =>
      simp only [Use.apply, WorkQueue.add_of_open hclosed, WorkQueue.closed_insert]
      refine ⟨hclosed, ?_⟩
      rcases q.insert_cases item with hknown | ⟨hwoke, hwaiting⟩
      · exact .inl hknown
      · exact .inr ⟨trivial, hwoke, item.key, hwaiting⟩
  | done key =>
    refine ⟨by simp [Use.apply, WorkQueue.done_fst], ?_⟩
    unfold Use.apply WorkQueue.done
    dsimp only
    split
    · next hparked =>
      obtain ⟨-, hopen⟩ : key ∈ q.items ∧ q.closed = false := by simpa using hparked
      exact .inr ⟨hopen, rfl, key, rfl⟩
    · exact .inl ⟨rfl, rfl⟩
  | mature r =>
    have hend := WorkQueue.sameWork_endRetry q r.item.key
    have hdrop := hend.trans (WorkQueue.sameWork_dropSequence _ r.item.key)
    unfold Use.apply WorkQueue.mature
    dsimp only
    split
    · exact ⟨hend.closed, .inl ⟨rfl, hend.waiting⟩⟩
    · next hopen =>
      have hopen : q.closed = false := by
        rw [← hend.closed]
        simpa using hopen
      split
      · refine ⟨by simpa using hend.closed, ?_⟩
        rcases (q.endRetry r.item.key).insert_cases r.item with
          ⟨hwoke, hwaiting⟩ | ⟨hwoke, hwaiting⟩
        · exact .inl ⟨hwoke, hwaiting.trans hend.waiting⟩
        · exact .inr ⟨hopen, hwoke, r.item.key, by rw [hwaiting, hend.waiting]⟩
      · exact ⟨hdrop.closed, .inl ⟨rfl, hdrop.waiting⟩⟩
  | retry backoff item => exact ⟨rfl, .inl ⟨rfl, rfl⟩⟩
  | forget key =>
    have hsame := WorkQueue.sameWork_forget q key
    exact ⟨hsame.closed, .inl ⟨rfl, hsame.waiting⟩⟩

/-! ### Looks -/

/-- A getter that is blocked will not look. -/
theorem looks_of_blocked (h : ∀ g ∈ gs, g.isBlocked = true) : total Getter.looks gs = 0 := by
  induction gs with
  | nil => rfl
  | cons g rest ih =>
    obtain ⟨hg, hrest⟩ := List.forall_mem_cons.mp h
    obtain ⟨hlooked, hnone⟩ := Getter.isBlocked_iff.mp hg
    have hlooks : g.looks = 0 := by simp [Getter.looks, hlooked, hnone]
    show g.looks + total Getter.looks rest = 0
    rw [hlooks, ih hrest]

/-! ### Blocked getters -/

/-- Whether some getter is blocked. -/
def Blocks (gs : List Getter) : Prop :=
  ∃ g ∈ gs, g.isBlocked = true

/-- A getter that is still blocked after a notification was blocked before it, and another look is
due then. -/
theorem blocks_notifyFirst (h : Blocks (notifyFirst gs).1) :
    Blocks gs ∧ total Getter.looks (notifyFirst gs).1 = total Getter.looks gs + 1 := by
  obtain ⟨g, hg, hblocked⟩ := h
  obtain ⟨-, hnone⟩ := Getter.isBlocked_iff.mp hblocked
  have hmem := mem_of_mem_notifyFirst hg hnone
  refine ⟨⟨g, hmem, hblocked⟩, ?_⟩
  have hlook : ∀ g : Getter, g.signal = none →
      Getter.looks { g with signal := some .single } = g.looks + 1 := by
    intro g hnone
    simp [Getter.looks, hnone]
  rcases total_notifyFirst hlook gs with ⟨hall, -⟩ | ⟨-, hmore⟩
  · -- somebody was there to be notified
    have hsome := hall g hmem
    rw [hnone] at hsome
    cases hsome
  · exact hmore

/-- A getter that leaves unblocks nobody. -/
theorem blocks_of_leave {id : Nat} (h : Blocks (s.leave id).getters) : Blocks s.getters := by
  obtain ⟨g, hg, hblocked⟩ := h
  exact ⟨g, List.mem_of_mem_filter hg, hblocked⟩

/-- A getter that registers has not looked. -/
theorem blocks_of_register {id : Nat} (h : Blocks (s.register id).getters) :
    Blocks s.getters := by
  obtain ⟨g, hg, hblocked⟩ := h
  rcases List.mem_append.mp hg with hg | hg
  · exact ⟨g, hg, hblocked⟩
  · obtain rfl := List.mem_singleton.mp hg
    split at hblocked
    · cases hblocked
    · cases hblocked

theorem looks_register (s : SharedQueue) (id : Nat) :
    total Getter.looks (s.register id).getters = total Getter.looks s.getters + 1 := by
  unfold register
  dsimp only
  rw [total_append]
  split
  · rfl
  · rfl

/-- Once all are notified, nobody is blocked. -/
theorem not_blocks_notifyAll (s : SharedQueue) : ¬ Blocks s.notifyAll.getters := by
  rintro ⟨g, hg, hblocked⟩
  obtain ⟨g', -, rfl⟩ := List.mem_map.mp hg
  cases hsignal : g'.signal with
  | none => simp [Getter.isBlocked, hsignal] at hblocked
  | some signal => simp [Getter.isBlocked, hsignal] at hblocked

/-! ### The invariants -/

/-- While a getter is blocked, each key that waits has a look coming: that of a getter, or one for
which a notification is owed or is just being given. -/
def Covered (s : SharedQueue) (given : Nat) : Prop :=
  s.queue.closed = false → Blocks s.getters →
    s.queue.waiting.length ≤ s.owed + given + total Getter.looks s.getters

/-- What holds in every run. The second argument counts the notifications that are just being
given, of which there are none between two moves. -/
structure Sound (s : SharedQueue) (given : Nat) : Prop where
  named : s.ids.Nodup
  covered : s.Covered given
  /-- Nobody is blocked when the shutdown has been announced. -/
  announced : s.queue.closed = true → s.broadcastOwed = false → ¬ Blocks s.getters

theorem sound_start : Sound {} 0 where
  named := List.nodup_nil
  covered := fun _ _ => Nat.le_refl _
  announced := fun _ _ ⟨_, hg, _⟩ => nomatch hg

/-- A notification that is given leads to a look, or there is nobody to look. -/
theorem Sound.notifyOne (h : s.Sound 1) : s.notifyOne.Sound 0 where
  named := by
    rw [ids_notifyOne]
    exact h.named
  covered := by
    intro hopen hblocks
    obtain ⟨hbefore, hlooks⟩ := blocks_notifyFirst hblocks
    have hcovered := h.covered hopen hbefore
    show s.queue.waiting.length ≤ s.owed + 0 + total Getter.looks (notifyFirst s.getters).1
    omega
  announced := fun hclosed howed hblocks =>
    h.announced hclosed howed (blocks_notifyFirst hblocks).1

/-- A getter that leaves takes its looks along. That is made up for by keys that do not wait any
more and by a notification that is given in turn. -/
theorem Sound.leave {queue : WorkQueue} {given : Nat} (h : s.Sound 0) (hg : g ∈ s.getters)
    (hclosed : queue.closed = s.queue.closed)
    (hlooks : queue.closed = false →
      queue.waiting.length + g.looks ≤ s.queue.waiting.length + given) :
    (SharedQueue.leave { s with queue } g.id).Sound given where
  named := (nodup_leave h.named hg).2
  covered := by
    intro hopen hblocks
    have hleft := total_leave Getter.looks h.named hg
    have hcovered := h.covered (hclosed ▸ hopen) (blocks_of_leave hblocks)
    have hmade := hlooks hopen
    show queue.waiting.length ≤ s.owed + given + total Getter.looks (s.leave g.id).getters
    omega
  announced := fun hshut howed hblocks =>
    h.announced (hclosed ▸ hshut) howed (blocks_of_leave hblocks)

/-- A getter that takes a key, or learns of the shutdown, used up one look. It passes on the
notification that somebody else may wait for. -/
theorem Sound.finish {queue : WorkQueue} (h : s.Sound 0) (hg : g ∈ s.getters)
    (hlooked : g.looked = false) (hclosed : queue.closed = s.queue.closed)
    (hserved : queue.closed = false → queue.waiting.length < s.queue.waiting.length) :
    (SharedQueue.finish { s with queue } g).Sound 0 := by
  have hown : g.looks = 1 + if g.signal = some .single then 1 else 0 := by
    simp [Getter.looks, hlooked]
  have hleave : (SharedQueue.leave { s with queue } g.id).Sound
      (if g.signal = some .single then 1 else 0) := by
    refine h.leave hg hclosed fun hopen => ?_
    have hless := hserved hopen
    omega
  unfold SharedQueue.finish
  by_cases hsingle : g.signal = some .single
  · rw [if_pos hsingle] at hleave ⊢
    exact hleave.notifyOne
  · rw [if_neg hsingle] at hleave ⊢
    exact hleave

/-- Somebody who registers will look. -/
theorem Sound.register {id : Nat} (h : s.Sound 1) (hnew : id ∉ s.ids) :
    (s.register id).Sound 0 where
  named := by
    rw [ids_register, (List.perm_append_singleton id s.ids).nodup_iff]
    exact List.nodup_cons.mpr ⟨hnew, h.named⟩
  covered := by
    intro hopen hblocks
    have hcovered := h.covered hopen (blocks_of_register hblocks)
    have hlooks := s.looks_register id
    show s.queue.waiting.length ≤ s.owed + 0 + total Getter.looks (s.register id).getters
    omega
  announced := fun hclosed howed hblocks =>
    h.announced hclosed howed (blocks_of_register hblocks)

/-- Each step keeps the invariants. -/
theorem Sound.of_does {step : Step} (h : s.Sound 0) (hdoes : s.Does step s' got) :
    s'.Sound 0 := by
  cases hdoes with
  | notify owed howed =>
    have hgiven : Sound { s with owed } 1 :=
      { named := h.named
        covered := by
          intro hopen hblocks
          have hcovered := h.covered hopen hblocks
          show s.queue.waiting.length ≤ owed + 1 + total Getter.looks s.getters
          omega
        announced := h.announced }
    exact hgiven.notifyOne
  | broadcast hbroadcast =>
    have hnone := not_blocks_notifyAll { s with broadcastOwed := false }
    refine ⟨?_, fun _ hblocks => absurd hblocks hnone, fun _ _ => hnone⟩
    rw [ids_notifyAll]
    exact h.named
  | miss g hg hlooked hopen =>
    -- no key waits any more
    refine ⟨?_, fun _ _ => Nat.zero_le _, fun hclosed => ?_⟩
    · rw [ids_markLooked]
      exact h.named
    · cases hopen.symm.trans hclosed
  | serve g queue item hg hlooked htake =>
    obtain ⟨-, hclosed, hless⟩ := WorkQueue.take_item htake
    exact h.finish hg hlooked hclosed fun _ => hless
  | refuse g hg hlooked hclosed =>
    exact h.finish hg hlooked rfl fun hopen => nomatch hclosed.symm.trans hopen
  | resume g hg hlooked hsignal =>
    -- it has looked in vain, and its notification makes it look again
    have hown : g.looks ≤ 1 := by
      unfold Getter.looks
      rw [hlooked, if_pos rfl]
      split
      · exact Nat.le_refl 1
      · exact Nat.zero_le 1
    have hleave : (s.leave g.id).Sound 1 := by
      refine h.leave hg rfl fun _ => ?_
      omega
    exact hleave.register (nodup_leave h.named hg).1

/-- Each move keeps the invariants. -/
theorem Sound.of_move {move : Move} (h : s.Sound 0) (hmove : s.move? move = some (s', got)) :
    s'.Sound 0 := by
  cases move with
  | use use =>
    obtain ⟨rfl, -⟩ := Prod.mk.inj (Option.some.inj hmove)
    obtain ⟨hclosed, hwaiting⟩ := use.apply_cases s.queue
    refine ⟨h.named, ?_, fun hshut => h.announced (hclosed.symm.trans hshut)⟩
    intro hopen hblocks
    have hcovered := h.covered (hclosed.symm.trans hopen) hblocks
    unfold update
    rcases hwaiting with ⟨hwoke, hwaiting⟩ | ⟨-, hwoke, key, hwaiting⟩
    · rw [hwoke, hwaiting]
      exact hcovered
    · -- for a key that starts to wait a notification is owed
      rw [hwoke, hwaiting, List.length_append, List.length_singleton]
      show s.queue.waiting.length + 1 ≤ s.owed + 1 + 0 + total Getter.looks s.getters
      omega
  -- the new getter has a look ahead of it, which covers one key more
  | get id =>
    obtain ⟨hnew, rfl, -⟩ := get_cases hmove
    have hmore : s.Sound 1 :=
      { named := h.named
        covered := by
          intro hopen hblocks
          have hcovered := h.covered hopen hblocks
          omega
        announced := h.announced }
    exact hmore.register hnew
  | shutDown =>
    obtain ⟨rfl, -⟩ := Prod.mk.inj (Option.some.inj hmove)
    exact ⟨h.named, nofun, nofun⟩
  | step step => exact h.of_does (does_of_step hmove)

theorem Run.sound {moves : List Move} {answers : List (Nat × Taken)} (h : Run s moves answers s')
    (hs : s.Sound 0) : s'.Sound 0 := by
  induction h with
  | nil => exact hs
  | cons hmove _ ih => exact ih (hs.of_move hmove)

/-- Where nobody can take a step, nobody is blocked while a key waits or after the shutdown. -/
theorem Sound.still (h : s.Sound 0) (hstill : s.Still) (hg : g ∈ s.getters) :
    s.queue.closed = false ∧ s.queue.waiting = [] := by
  obtain ⟨hblocked, howed, hannounced⟩ := hstill.blocked h.named
  have hblocks : Blocks s.getters := ⟨g, hg, hblocked g hg⟩
  have hopen : s.queue.closed = false := by
    by_contra hclosed
    rw [Bool.not_eq_false] at hclosed
    exact h.announced hclosed hannounced hblocks
  have hcovered := h.covered hopen hblocks
  rw [howed, looks_of_blocked hblocked] at hcovered
  exact ⟨hopen, List.length_eq_zero_iff.mp (Nat.le_zero.mp hcovered)⟩

/-! ### Everything that can run has run -/

/-- Steps are only taken while they make the effort smaller. -/
theorem Run.length_add_effort_le {steps : List Step} {answers : List (Nat × Taken)}
    (h : Run s (steps.map .step) answers s') (hs : s.Sound 0) :
    steps.length + s'.effort ≤ s.effort := by
  induction steps generalizing s answers with
  | nil =>
    cases h with
    | nil => exact Nat.le_of_eq (Nat.zero_add _)
  | cons step steps ih =>
    cases h with
    | cons hmove hrest =>
      have hdoes := does_of_step hmove
      have hless := effort_lt_of_does hs.named hdoes
      have hmore := ih hrest (hs.of_does hdoes)
      rw [List.length_cons]
      omega

/-- Taking steps while there is one is a run of steps, and it goes on until there is none if it may
go on for long enough. -/
theorem settleWithin_spec {bound : Nat} (hs : s.Sound 0) (hbound : s.effort ≤ bound) :
    (s.settleWithin bound).1.Still ∧
      ∃ steps : List Step, Run s (steps.map .step) (s.settleWithin bound).2
        (s.settleWithin bound).1 := by
  induction bound generalizing s with
  | zero =>
    rcases next?_cases hs.named with ⟨-, hstill⟩ | ⟨step, -, hstep⟩
    · exact ⟨hstill, [], .nil s⟩
    · obtain ⟨⟨s', got⟩, hstep⟩ := Option.isSome_iff_exists.mp hstep
      have hless := effort_lt_of_does hs.named (does_of_step hstep)
      omega
  | succ bound ih =>
    unfold settleWithin
    rcases next?_cases hs.named with ⟨hnone, hstill⟩ | ⟨step, hnext, hstep⟩
    · rw [hnone]
      exact ⟨hstill, [], .nil s⟩
    · obtain ⟨⟨s', got⟩, hstep⟩ := Option.isSome_iff_exists.mp hstep
      have hdoes := does_of_step hstep
      have hless := effort_lt_of_does hs.named hdoes
      obtain ⟨hstill, steps, hrun⟩ := ih (hs.of_does hdoes) (by omega)
      rw [hnext, Option.bind_some, hstep]
      exact ⟨hstill, step :: steps, .cons hstep hrun⟩

/-! ### Answers -/

/-- A call that is made gets one answer or is still there. -/
theorem ids_of_move {move : Move} (hnamed : s.ids.Nodup)
    (h : s.move? move = some (s', got)) :
    (s.ids ++ calls [move]).Perm (got.toList.map (·.1) ++ s'.ids) := by
  cases move with
  | use use =>
    obtain ⟨rfl, rfl⟩ := Prod.mk.inj (Option.some.inj h)
    exact .of_eq (List.append_nil _)
  | get id =>
    obtain ⟨-, rfl, rfl⟩ := get_cases h
    rw [ids_register]
    exact .refl _
  | shutDown =>
    obtain ⟨rfl, rfl⟩ := Prod.mk.inj (Option.some.inj h)
    exact .of_eq (List.append_nil _)
  | step step =>
    have hsame : s.ids ++ calls [.step step] = s.ids := List.append_nil _
    rw [hsame]
    exact ids_of_does hnamed (does_of_step h)

/-- The calls that were there before a run or made in it are those that it answers and those that
are there after it, each as often. -/
theorem Run.ids_perm {moves : List Move} {answers : List (Nat × Taken)}
    (h : Run s moves answers s') (hs : s.Sound 0) :
    (s.ids ++ calls moves).Perm (answers.map (·.1) ++ s'.ids) := by
  induction h with
  | nil s => exact .of_eq (List.append_nil _)
  | @cons s s' s'' move moves got answers hmove _ ih =>
    have hone := ids_of_move hs.named hmove
    have hrest := ih (hs.of_move hmove)
    have hcalls : calls (move :: moves) = calls [move] ++ calls moves :=
      List.filterMap_append (l := [move])
    calc s.ids ++ calls (move :: moves)
        = (s.ids ++ calls [move]) ++ calls moves := by rw [hcalls, List.append_assoc]
      _ ~ (got.toList.map (·.1) ++ s'.ids) ++ calls moves := hone.append_right _
      _ = got.toList.map (·.1) ++ (s'.ids ++ calls moves) := List.append_assoc ..
      _ ~ got.toList.map (·.1) ++ (answers.map (·.1) ++ s''.ids) := hrest.append_left _
      _ = (got.toList ++ answers).map (·.1) ++ s''.ids := by
        rw [List.map_append, List.append_assoc]

/-- After the shutdown no key starts or ceases to wait, and a call that is answered gets nothing. -/
theorem closed_of_move {move : Move} (hclosed : s.queue.closed = true)
    (h : s.move? move = some (s', got)) :
    s'.queue.closed = true ∧ s'.queue.waiting = s.queue.waiting ∧
      ∀ answer ∈ got, answer.2 = .closed := by
  cases move with
  | use use =>
    obtain ⟨rfl, rfl⟩ := Prod.mk.inj (Option.some.inj h)
    obtain ⟨hsame, ⟨-, hwaiting⟩ | ⟨hopen, -⟩⟩ := use.apply_cases s.queue
    · exact ⟨hsame.trans hclosed, hwaiting, nofun⟩
    · cases hopen.symm.trans hclosed
  | get id =>
    obtain ⟨-, rfl, rfl⟩ := get_cases h
    exact ⟨hclosed, rfl, nofun⟩
  | shutDown =>
    obtain ⟨rfl, rfl⟩ := Prod.mk.inj (Option.some.inj h)
    exact ⟨rfl, rfl, nofun⟩
  | step step =>
    -- all that a closed queue answers to a look is that it is closed
    cases does_of_step h with
    | notify owed => exact ⟨hclosed, rfl, nofun⟩
    | broadcast => exact ⟨hclosed, rfl, nofun⟩
    | miss g _ _ hopen => cases hopen.symm.trans hclosed
    | serve g queue item _ _ htake => cases (WorkQueue.take_item htake).1.symm.trans hclosed
    | refuse g =>
      have hqueue : (s.finish g).queue = s.queue := by
        unfold finish
        split
        · rfl
        · rfl
      rw [hqueue]
      refine ⟨hclosed, rfl, fun answer hanswer => ?_⟩
      obtain rfl := Option.some.inj hanswer
      rfl
    | resume g => exact ⟨hclosed, rfl, nofun⟩

theorem Run.closed {moves : List Move} {answers : List (Nat × Taken)}
    (h : Run s moves answers s') (hclosed : s.queue.closed = true) :
    s'.queue.closed = true ∧ s'.queue.waiting = s.queue.waiting ∧
      ∀ answer ∈ answers, answer.2 = .closed := by
  induction h with
  | nil => exact ⟨hclosed, rfl, nofun⟩
  | cons hmove _ ih =>
    obtain ⟨hclosed', hwaiting, hgot⟩ := closed_of_move hclosed hmove
    obtain ⟨hclosed'', hwaiting', hanswers⟩ := ih hclosed'
    refine ⟨hclosed'', hwaiting'.trans hwaiting, fun answer hanswer => ?_⟩
    rcases List.mem_append.mp hanswer with hanswer | hanswer
    · exact hgot answer (Option.mem_toList.mp hanswer)
    · exact hanswers answer hanswer

/-- A queue is closed once it was shut down. -/
theorem Run.closed_of_mem {moves : List Move} {answers : List (Nat × Taken)}
    (h : Run s moves answers s') (hmem : .shutDown ∈ moves) : s'.queue.closed = true := by
  induction h with
  | nil => cases hmem
  | cons hmove hrest ih =>
    rcases List.mem_cons.mp hmem with rfl | hmem
    · obtain ⟨rfl, -⟩ := Prod.mk.inj (Option.some.inj hmove)
      exact (hrest.closed rfl).1
    · exact ih hmem

/-- No wake-up is lost: where everything that can run has run, which it has after a bounded number
of steps however they are chosen, a call is only blocked if the queue is open and no key waits.

And the shutdown is final: from then on the keys that wait stay the same, whatever is added,
released or comes back, every answer is that the queue is closed, and where everything that can run
has run each call that was blocked or was made since then has got its one answer. -/
theorem Run.blocked_only_when_idle {before : List Move} {answers : List (Nat × Taken)}
    (h : Run {} before answers s) :
    (s.Still → ∀ g ∈ s.getters,
      g.isBlocked = true ∧ s.queue.closed = false ∧ s.queue.waiting = []) ∧
    ((∀ (steps : List Step) got s', Run s (steps.map .step) got s' → steps.length ≤ s.stepBound) ∧
      s.settle.1.Still ∧ ∃ steps : List Step, Run s (steps.map .step) s.settle.2 s.settle.1) ∧
    (.shutDown ∈ before → ∀ after later s', Run s after later s' →
      s'.queue.waiting = s.queue.waiting ∧ (∀ answer ∈ later, answer.2 = .closed) ∧
      (s'.Still → (s.ids ++ calls after).Perm (later.map (·.1)))) := by
  have hs := h.sound sound_start
  refine ⟨fun hstill g hg => ⟨(hstill.blocked hs.named).1 g hg, hs.still hstill hg⟩,
    ⟨fun steps got s' hsteps => ?_, settleWithin_spec hs s.effort_le_stepBound⟩,
    fun hshut after later s' hafter => ?_⟩
  · have hlength := hsteps.length_add_effort_le hs
    have hbound := s.effort_le_stepBound
    omega
  · obtain ⟨hclosed, hwaiting, hrefused⟩ := hafter.closed (h.closed_of_mem hshut)
    refine ⟨hwaiting, hrefused, fun hstill => ?_⟩
    have hs' := hafter.sound hs
    have hgone : s'.getters = [] := by
      refine List.eq_nil_iff_forall_not_mem.mpr fun g hg => ?_
      have hopen := (hs'.still hstill hg).1
      cases hopen.symm.trans hclosed
    have hperm := hafter.ids_perm hs
    have hnone : s'.ids = [] := by rw [ids, hgone, List.map_nil]
    rwa [hnone, List.append_nil] at hperm

/-- A call finds nothing, and another one takes the item that is added then before the notification
is given. The first one is woken up in vain and is blocked with good reason. When the queue is shut
down while a second key waits, it gets to know, and so does a third call. -/
theorem blocked_only_when_idle_overtaken :
    let item : WorkItem := ⟨"ns/x", .pods, .create, some "1"⟩
    let other : WorkItem := ⟨"ns/y", .pods, .create, some "2"⟩
    let before : List Move := [.get 0, .step (.look 0), .use (.add item), .get 1, .step (.look 1),
      .step .notify, .step (.resume 0), .step (.look 0)]
    let after : List Move := [.get 2, .step (.look 2), .step .notify, .use (.done "ns/x"),
      .step .broadcast, .step (.resume 0), .use (.add item), .step (.look 0)]
    (∃ s, Run {} before [(1, .item item)] s ∧ s.Still ∧ s.ids = [0] ∧
      s.queue.closed = false ∧ s.queue.waiting = []) ∧
    ∃ s s', Run {} (before ++ [.use (.add other), .shutDown]) [(1, .item item)] s ∧
      Run s after [(2, .closed), (0, .closed)] s' ∧ s'.Still ∧
      s'.queue.waiting = ["ns/y"] ∧ (s.ids ++ calls after).Perm [2, 0] := by
  intro item other before after
  constructor
  · have hmade : ((run? {} before).map fun r => (r.1, r.2.ids, r.2.next?)) =
        some ([(1, .item item)], [0], none) := by decide
    obtain ⟨⟨answers, s⟩, hrun, heq⟩ := Option.map_eq_some_iff.mp hmade
    simp only [Prod.mk.injEq] at heq
    obtain ⟨rfl, hids, hnext⟩ := heq
    replace hrun := run_of_run? hrun
    have hstill := still_of_next? (hids ▸ List.nodup_singleton 0) hnext
    obtain ⟨g, hg, -⟩ := List.mem_map.mp (hids ▸ List.mem_singleton_self 0 : 0 ∈ s.ids)
    exact ⟨s, hrun, hstill, hids, (hrun.blocked_only_when_idle.1 hstill g hg).2⟩
  · have hmade : ((run? {} (before ++ [.use (.add other), .shutDown])).map fun r =>
        (r.1, r.2.queue.waiting)) = some ([(1, .item item)], ["ns/y"]) := by decide
    have hmore : ((run? {} (before ++ [.use (.add other), .shutDown])).bind fun r =>
        (r.2.run? after).map fun r' => (r'.1, r'.2.ids, r'.2.next?)) =
        some ([(2, .closed), (0, .closed)], [], none) := by decide
    obtain ⟨⟨answers, s⟩, hrun, heq⟩ := Option.map_eq_some_iff.mp hmade
    rw [hrun, Option.bind_some] at hmore
    obtain ⟨⟨later, s'⟩, hafter, heq'⟩ := Option.map_eq_some_iff.mp hmore
    simp only [Prod.mk.injEq] at heq heq'
    obtain ⟨rfl, hwaiting⟩ := heq
    obtain ⟨rfl, hids, hnext⟩ := heq'
    replace hrun := run_of_run? hrun
    replace hafter := run_of_run? hafter
    have hstill := still_of_next? (hids ▸ List.nodup_nil) hnext
    obtain ⟨hsame, -, hanswered⟩ :=
      hrun.blocked_only_when_idle.2.2 (by decide) after _ s' hafter
    exact ⟨s, s', hrun, hafter, hstill, hsame.trans hwaiting, hanswered hstill⟩

end SharedQueue

end ClusterWatch
