import ClusterWatch.Proofs.Queue.Operations
import ClusterWatch.Queue.Shared
import Mathlib.Data.List.Nodup
/-!
# Getters of a shared queue

What the steps of the getters and of those who owe notifications do, and why they come to an end.

- `notifyFirst_cases`, `perm_leave`: the list of getters when one is notified and when one leaves.
- `total`: the sum of a number over getters; `total_notifyFirst` says by how much it grows when one
  is notified.
- `Does`: everything that a step can come to; `does_of_step` says that nothing else happens.
- `Still`: nobody can take a step; `Still.blocked` and `next?_cases` say when that is so.
- `effort`: a number that every step makes smaller (`effort_lt_of_does`) and that is at most
  `stepBound` (`effort_le_stepBound`), so that nobody can take more steps than that.
-/

namespace ClusterWatch

open WorkQueue (Taken)

/-- What it takes until a getter has nothing to do: a look, and for a notification another round. -/
def Getter.effort (g : Getter) : Nat :=
  (if g.looked then 0 else 1) + if g.signal.isSome then 2 else 0

theorem Getter.isBlocked_iff {g : Getter} :
    g.isBlocked = true ↔ g.looked = true ∧ g.signal = none := by
  simp [Getter.isBlocked]

namespace SharedQueue

variable {s s' : SharedQueue} {g : Getter} {gs : List Getter} {got : Option (Nat × Taken)}

/-! ### Lists of getters -/

/-- The ids of the getters. -/
def ids (s : SharedQueue) : List Nat :=
  s.getters.map (·.id)

/-- A single notification goes to the first getter without one, if there is any. -/
theorem notifyFirst_cases (gs : List Getter) :
    ((∀ g ∈ gs, g.signal.isSome) ∧ notifyFirst gs = (gs, false)) ∨
    ∃ front g back, gs = front ++ g :: back ∧ g.signal = none ∧
      notifyFirst gs = (front ++ { g with signal := some .single } :: back, true) := by
  induction gs with
  | nil => simp [notifyFirst]
  | cons g rest ih =>
    rw [notifyFirst]
    by_cases hnone : g.signal.isNone = true
    · rw [if_pos hnone]
      exact .inr ⟨[], g, rest, rfl, Option.isNone_iff_eq_none.mp hnone, rfl⟩
    · rw [if_neg hnone]
      have hsome : g.signal.isSome := by simpa [Option.isSome_iff_ne_none] using hnone
      rcases ih with ⟨hall, hrest⟩ | ⟨front, g', back, rfl, hnone', hrest⟩
      · rw [hrest]
        exact .inl ⟨List.forall_mem_cons.mpr ⟨hsome, hall⟩, rfl⟩
      · rw [hrest]
        exact .inr ⟨g :: front, g', back, rfl, hnone', rfl⟩

theorem map_id_notifyFirst (gs : List Getter) :
    (notifyFirst gs).1.map (·.id) = gs.map (·.id) := by
  rcases notifyFirst_cases gs with ⟨-, hsame⟩ | ⟨front, g, back, rfl, -, hfound⟩
  · rw [hsame]
  · rw [hfound]
    simp

/-- A getter that has no notification afterwards had none before and was not touched. -/
theorem mem_of_mem_notifyFirst (hg : g ∈ (notifyFirst gs).1) (hnone : g.signal = none) :
    g ∈ gs := by
  rcases notifyFirst_cases gs with ⟨-, hsame⟩ | ⟨front, g', back, rfl, -, hfound⟩
  · rw [hsame] at hg
    exact hg
  · rw [hfound] at hg
    rcases List.mem_append.mp hg with hfront | hback
    · exact List.mem_append_left _ hfront
    · rcases List.mem_cons.mp hback with rfl | hback
      · cases hnone
      · exact List.mem_append_right _ (List.mem_cons_of_mem _ hback)

/-- Ids name getters, so that the others are left when the one of an id leaves. -/
theorem perm_leave (hnamed : (gs.map (·.id)).Nodup) (hg : g ∈ gs) :
    gs.Perm (g :: gs.filter fun g' => g'.id != g.id) := by
  induction gs with
  | nil => cases hg
  | cons g' rest ih =>
    obtain ⟨hnew, hnamed⟩ := List.nodup_cons.mp hnamed
    rcases List.mem_cons.mp hg with rfl | hg
    · have hrest : rest.filter (fun g' => g'.id != g.id) = rest := by
        refine List.filter_eq_self.mpr fun g' hg' => ?_
        have hne : g'.id ≠ g.id := fun heq => hnew (List.mem_map.mpr ⟨g', hg', heq⟩)
        simpa using hne
      rw [List.filter_cons_of_neg (by simp), hrest]
    · have hne : g'.id ≠ g.id := fun heq => hnew (List.mem_map.mpr ⟨g, hg, heq.symm⟩)
      rw [List.filter_cons_of_pos (by simpa using hne)]
      exact ((ih hnamed hg).cons g').trans (.swap g g' _)

theorem getter?_of_mem (hnamed : s.ids.Nodup) (hg : g ∈ s.getters) :
    s.getter? g.id = some g := by
  have hfound : (s.getter? g.id).isSome :=
    List.find?_isSome.mpr ⟨g, hg, by simp⟩
  obtain ⟨g', hg'⟩ := Option.isSome_iff_exists.mp hfound
  have hid : g'.id = g.id := by simpa using List.find?_some hg'
  have hsame : g' = g := List.inj_on_of_nodup_map hnamed (List.mem_of_find?_eq_some hg') hg hid
  rw [hg', hsame]

theorem mem_of_getter? {id : Nat} (hg : s.getter? id = some g) : g ∈ s.getters ∧ g.id = id :=
  ⟨List.mem_of_find?_eq_some hg, by simpa using List.find?_some hg⟩

/-- A getter that has looked in vain is as before but for that. -/
theorem perm_markLooked (hnamed : (gs.map (·.id)).Nodup) (hg : g ∈ gs) :
    (gs.map fun g' => if g'.id = g.id then { g' with looked := true } else g').Perm
      ({ g with looked := true } :: gs.filter fun g' => g'.id != g.id) := by
  refine ((perm_leave hnamed hg).map _).trans ?_
  rw [List.map_cons, if_pos rfl]
  refine .of_eq (congrArg _ ?_)
  conv_rhs => rw [← List.map_id (gs.filter _)]
  refine List.map_congr_left fun g' hg' => ?_
  have hne : g'.id ≠ g.id := by simpa using (List.mem_filter.mp hg').2
  exact if_neg hne

@[simp] theorem ids_notifyOne (s : SharedQueue) : s.notifyOne.ids = s.ids :=
  map_id_notifyFirst s.getters

@[simp] theorem ids_notifyAll (s : SharedQueue) : s.notifyAll.ids = s.ids := by
  unfold ids notifyAll
  rw [List.map_map]
  refine List.map_congr_left fun g _ => ?_
  show (if g.signal.isNone then _ else g).id = g.id
  split
  · rfl
  · rfl

@[simp] theorem ids_markLooked (s : SharedQueue) (id : Nat) : (s.markLooked id).ids = s.ids := by
  unfold ids markLooked
  rw [List.map_map]
  refine List.map_congr_left fun g _ => ?_
  show (if g.id = id then _ else g).id = g.id
  split
  · rfl
  · rfl

@[simp] theorem ids_register (s : SharedQueue) (id : Nat) :
    (s.register id).ids = s.ids ++ [id] := by
  unfold ids register
  rw [List.map_append]
  cases s.permit with
  | false => rfl
  | true => rfl

theorem ids_leave (hnamed : s.ids.Nodup) (hg : g ∈ s.getters) :
    s.ids.Perm (g.id :: (s.leave g.id).ids) :=
  (perm_leave hnamed hg).map _

theorem nodup_leave (hnamed : s.ids.Nodup) (hg : g ∈ s.getters) :
    g.id ∉ (s.leave g.id).ids ∧ (s.leave g.id).ids.Nodup :=
  List.nodup_cons.mp ((ids_leave hnamed hg).nodup_iff.mp hnamed)

@[simp] theorem ids_finish (s : SharedQueue) (g : Getter) :
    (s.finish g).ids = (s.leave g.id).ids := by
  unfold finish
  split
  · exact ids_notifyOne _
  · rfl

/-- The sum of a number over getters. -/
def total (f : Getter → Nat) : List Getter → Nat
  | [] => 0
  | g :: gs => f g + total f gs

theorem total_append (f : Getter → Nat) (gs gs' : List Getter) :
    total f (gs ++ gs') = total f gs + total f gs' := by
  induction gs with
  | nil => exact (Nat.zero_add _).symm
  | cons g rest ih =>
    show f g + total f (rest ++ gs') = f g + total f rest + total f gs'
    omega

theorem total_perm (f : Getter → Nat) {gs' : List Getter} (h : gs.Perm gs') :
    total f gs = total f gs' := by
  induction h with
  | nil => rfl
  | cons g _ ih => exact congrArg (f g + ·) ih
  | swap g g' rest =>
    show f g' + (f g + total f rest) = f g + (f g' + total f rest)
    omega
  | trans _ _ ih ih' => exact ih.trans ih'

theorem total_leave (f : Getter → Nat) (hnamed : s.ids.Nodup) (hg : g ∈ s.getters) :
    total f s.getters = f g + total f (s.leave g.id).getters :=
  total_perm f (perm_leave hnamed hg)

/-- A notification changes the sum by what it means for the getter that gets it. -/
theorem total_notifyFirst {f : Getter → Nat} {n : Nat}
    (hf : ∀ g, g.signal = none → f { g with signal := some .single } = f g + n)
    (gs : List Getter) :
    ((∀ g ∈ gs, g.signal.isSome) ∧ notifyFirst gs = (gs, false)) ∨
      (notifyFirst gs).2 = true ∧ total f (notifyFirst gs).1 = total f gs + n := by
  rcases notifyFirst_cases gs with hall | ⟨front, g, back, rfl, hnone, hfound⟩
  · exact .inl hall
  · have hg := hf g hnone
    rw [hfound, total_append, total_append]
    refine .inr ⟨rfl, ?_⟩
    show total f front + (f _ + total f back) = total f front + (f g + total f back) + n
    omega

/-! ### Steps -/

/-- What a step comes to: the state after it, and the getter that finished with what it got. -/
inductive Does (s : SharedQueue) : Step → SharedQueue → Option (Nat × Taken) → Prop
  /-- An owed notification is given. -/
  | notify (owed : Nat) : s.owed = owed + 1 → Does s .notify (notifyOne { s with owed }) none
  /-- All are notified of the shutdown. -/
  | broadcast : s.broadcastOwed = true →
      Does s .broadcast (notifyAll { s with broadcastOwed := false }) none
  /-- A getter looks in vain. -/
  | miss (g : Getter) : g ∈ s.getters → g.looked = false → s.queue.closed = false →
      Does s (.look g.id)
        (markLooked { s with queue := { s.queue with waiting := [] } } g.id) none
  /-- A getter gets an item. -/
  | serve (g : Getter) (queue : WorkQueue) (item : WorkItem) : g ∈ s.getters → g.looked = false →
      s.queue.take = (queue, .item item) →
      Does s (.look g.id) (finish { s with queue } g) (some (g.id, .item item))
  /-- A getter learns that the queue was shut down. -/
  | refuse (g : Getter) : g ∈ s.getters → g.looked = false → s.queue.closed = true →
      Does s (.look g.id) (s.finish g) (some (g.id, .closed))
  /-- A getter that was notified registers again. -/
  | resume (g : Getter) : g ∈ s.getters → g.looked = true → g.signal.isSome →
      Does s (.resume g.id) ((s.leave g.id).register g.id) none

/-- A step that can be taken does one of these things. -/
theorem does_of_step {step : Step} (h : s.step step = some (s', got)) : s.Does step s' got := by
  cases step with
  | notify =>
    simp only [SharedQueue.step] at h
    split at h
    · cases h
    · next owed howed =>
      obtain ⟨rfl, rfl⟩ := Prod.mk.inj (Option.some.inj h)
      exact .notify owed howed
  | broadcast =>
    simp only [SharedQueue.step] at h
    split at h
    · next hbroadcast =>
      obtain ⟨rfl, rfl⟩ := Prod.mk.inj (Option.some.inj h)
      exact .broadcast hbroadcast
    · cases h
  | look id =>
    simp only [SharedQueue.step] at h
    split at h
    · next g hg =>
      obtain ⟨hmem, rfl⟩ := mem_of_getter? hg
      split at h
      · cases h
      · next hlooked =>
        have hlooked : g.looked = false := by simpa using hlooked
        -- what a look finds depends on the queue alone
        rcases s.queue.take_cases with ⟨hclosed, htake⟩ | ⟨hopen, -, htake⟩ |
          ⟨-, _, _, _, item, -, -, -, htake⟩
        · rw [htake] at h
          obtain ⟨rfl, rfl⟩ := Prod.mk.inj (Option.some.inj h)
          exact .refuse g hmem hlooked hclosed
        · rw [htake] at h
          obtain ⟨rfl, rfl⟩ := Prod.mk.inj (Option.some.inj h)
          exact .miss g hmem hlooked hopen
        · rw [htake] at h
          obtain ⟨rfl, rfl⟩ := Prod.mk.inj (Option.some.inj h)
          exact .serve g _ item hmem hlooked htake
    · cases h
  | resume id =>
    simp only [SharedQueue.step] at h
    split at h
    · next g hg =>
      obtain ⟨hmem, rfl⟩ := mem_of_getter? hg
      split at h
      · next hnotified =>
        obtain ⟨rfl, rfl⟩ := Prod.mk.inj (Option.some.inj h)
        rw [Bool.and_eq_true] at hnotified
        exact .resume g hmem hnotified.1 hnotified.2
      · cases h
    · cases h

/-- A step answers a getter, which leaves, or all stay. -/
theorem ids_of_does {step : Step} (hnamed : s.ids.Nodup) (h : s.Does step s' got) :
    s.ids.Perm (got.toList.map (·.1) ++ s'.ids) := by
  cases h with
  | notify owed =>
    rw [ids_notifyOne]
    exact .refl _
  | broadcast =>
    rw [ids_notifyAll]
    exact .refl _
  | miss g =>
    rw [ids_markLooked]
    exact .refl _
  | serve g queue item hg =>
    rw [ids_finish]
    exact ids_leave hnamed hg
  | refuse g hg =>
    rw [ids_finish]
    exact ids_leave hnamed hg
  | resume g hg =>
    rw [ids_register]
    exact (ids_leave hnamed hg).trans (List.perm_append_singleton _ _).symm

/-- Nobody can take a step. -/
def Still (s : SharedQueue) : Prop :=
  ∀ step, s.step step = none

/-- A getter that has not looked can do so. -/
theorem step_look (hnamed : s.ids.Nodup) (hg : g ∈ s.getters)
    (hlooked : g.looked = false) : (s.step (.look g.id)).isSome := by
  simp only [SharedQueue.step, getter?_of_mem hnamed hg, hlooked, Bool.false_eq_true, if_false]
  split
  · rfl
  · rfl

/-- A getter that has looked and was notified can go on. -/
theorem step_resume (hnamed : s.ids.Nodup) (hg : g ∈ s.getters)
    (hlooked : g.looked = true) (hsignal : g.signal.isSome) :
    (s.step (.resume g.id)).isSome := by
  simp only [SharedQueue.step, getter?_of_mem hnamed hg, hlooked, hsignal]
  rfl

/-- Where nobody can take a step, all getters are blocked and nothing is owed. -/
theorem Still.blocked (h : s.Still) (hnamed : s.ids.Nodup) :
    (∀ g ∈ s.getters, g.isBlocked = true) ∧ s.owed = 0 ∧ s.broadcastOwed = false := by
  refine ⟨fun g hg => ?_, ?_, ?_⟩
  · cases hlooked : g.looked with
    | false =>
      have hstep := step_look hnamed hg hlooked
      rw [h] at hstep
      cases hstep
    | true =>
      cases hsignal : g.signal with
      | none => exact Getter.isBlocked_iff.mpr ⟨hlooked, hsignal⟩
      | some signal =>
        have hstep := step_resume hnamed hg hlooked (by rw [hsignal]; rfl)
        rw [h] at hstep
        cases hstep
  · have hnotify := h .notify
    simp only [SharedQueue.step] at hnotify
    split at hnotify
    · assumption
    · cases hnotify
  · have hbroadcast := h .broadcast
    simp only [SharedQueue.step] at hbroadcast
    split at hbroadcast
    · cases hbroadcast
    · next hnot => simpa using hnot

/-- The search for a step finds one unless there is none. -/
theorem next?_cases (hnamed : s.ids.Nodup) :
    (s.next? = none ∧ s.Still) ∨ ∃ step, s.next? = some step ∧ (s.step step).isSome := by
  unfold next?
  by_cases hbroadcast : s.broadcastOwed = true
  · rw [if_pos hbroadcast]
    exact .inr ⟨_, rfl, by simp [SharedQueue.step, hbroadcast]⟩
  rw [if_neg hbroadcast]
  by_cases howed : 0 < s.owed
  · rw [if_pos howed]
    obtain ⟨owed, heq⟩ := Nat.exists_eq_add_one.mpr howed
    exact .inr ⟨_, rfl, by simp [SharedQueue.step, heq]⟩
  rw [if_neg howed]
  cases hfind : s.getters.findSome? _ with
  | some step =>
    obtain ⟨g, hg, hstep⟩ := List.exists_of_findSome?_eq_some hfind
    refine .inr ⟨step, rfl, ?_⟩
    cases hlooked : g.looked with
    | false =>
      rw [hlooked] at hstep
      obtain rfl := Option.some.inj hstep
      exact step_look hnamed hg hlooked
    | true =>
      rw [hlooked] at hstep
      cases hsignal : g.signal.isSome with
      | false =>
        rw [hsignal] at hstep
        cases hstep
      | true =>
        rw [hsignal] at hstep
        obtain rfl := Option.some.inj hstep
        exact step_resume hnamed hg hlooked hsignal
  | none =>
    -- nobody has anything to do
    have hidle : ∀ g ∈ s.getters, g.looked = true ∧ g.signal = none := by
      intro g hg
      have hnone := List.findSome?_eq_none_iff.mp hfind g hg
      cases hlooked : g.looked with
      | false => simp [hlooked] at hnone
      | true =>
        cases hsignal : g.signal with
        | none => exact ⟨rfl, rfl⟩
        | some signal => simp [hlooked, hsignal] at hnone
    refine .inl ⟨rfl, fun step => ?_⟩
    by_contra hsome
    obtain ⟨⟨s', got⟩, hstep⟩ := Option.ne_none_iff_exists'.mp hsome
    cases does_of_step hstep with
    | notify owed heq => omega
    | broadcast hb => exact hbroadcast hb
    | miss g hg hlooked | serve g _ _ hg hlooked | refuse g hg hlooked =>
      rw [(hidle g hg).1] at hlooked
      cases hlooked
    | resume g hg _ hsignal =>
      rw [(hidle g hg).2] at hsignal
      cases hsignal

theorem still_of_next? (hnamed : s.ids.Nodup) (h : s.next? = none) : s.Still := by
  rcases next?_cases hnamed with ⟨-, hstill⟩ | ⟨step, hnext, -⟩
  · exact hstill
  · cases h.symm.trans hnext

/-! ### Steps come to an end -/

/-- What it takes to notify all of the shutdown. -/
def announcement (broadcastOwed : Bool) (registered : Nat) : Nat :=
  if broadcastOwed then 2 * registered + 1 else 0

/-- What it takes until nobody can take a step. -/
def effort (s : SharedQueue) : Nat :=
  3 * s.owed + 2 * s.permit.toNat + total Getter.effort s.getters +
    announcement s.broadcastOwed s.getters.length

theorem announcement_mono (broadcastOwed : Bool) {n m : Nat} (h : n ≤ m) :
    announcement broadcastOwed n ≤ announcement broadcastOwed m := by
  cases broadcastOwed with
  | false => exact Nat.le_refl _
  | true =>
    show 2 * n + 1 ≤ 2 * m + 1
    omega

/-- A notification costs its getter another round; when nobody takes it, it costs the next one. -/
theorem effort_notifyOne_le (s : SharedQueue) : s.notifyOne.effort ≤ s.effort + 2 := by
  have hlength : (notifyFirst s.getters).1.length = s.getters.length := by
    simpa using congrArg List.length (map_id_notifyFirst s.getters)
  have hcost : ∀ g : Getter, g.signal = none →
      Getter.effort { g with signal := some .single } = g.effort + 2 := by
    intro g hnone
    simp [Getter.effort, hnone]
  show 3 * s.owed + 2 * (s.permit || !(notifyFirst s.getters).2).toNat +
    total Getter.effort (notifyFirst s.getters).1 +
    announcement s.broadcastOwed (notifyFirst s.getters).1.length ≤ s.effort + 2
  rw [hlength]
  unfold effort
  rcases total_notifyFirst hcost s.getters with ⟨-, hsame⟩ | ⟨hfound, hmore⟩
  · have hpermit : (s.permit || !false).toNat ≤ 1 := Bool.toNat_le _
    rw [hsame]
    dsimp only
    omega
  · rw [hfound, hmore, Bool.not_true, Bool.or_false]
    omega

/-- To notify all costs each getter at most another round. -/
theorem effort_notifyAll_le (gs : List Getter) :
    total Getter.effort (gs.map fun g =>
        if g.signal.isNone then { g with signal := some .broadcast } else g) ≤
      total Getter.effort gs + 2 * gs.length := by
  induction gs with
  | nil => exact Nat.le_refl _
  | cons g rest ih =>
    have hone : Getter.effort
        (if g.signal.isNone then { g with signal := some .broadcast } else g) ≤ g.effort + 2 := by
      cases hsignal : g.signal with
      | none => simp [Getter.effort, hsignal]
      | some signal => simp [Getter.effort, hsignal]
    rw [List.map_cons, List.length_cons]
    show Getter.effort _ + total Getter.effort _ ≤ g.effort + total Getter.effort rest +
      2 * (rest.length + 1)
    omega

theorem length_leave_lt (hg : g ∈ s.getters) : (s.leave g.id).getters.length < s.getters.length :=
  List.length_filter_lt_length_iff_exists.mpr ⟨g, hg, by simp⟩

/-- A getter that leaves saves at least its own look, also when it passes its notification on. -/
theorem effort_finish_lt (hnamed : s.ids.Nodup) (hg : g ∈ s.getters)
    (hlooked : g.looked = false) : (s.finish g).effort < s.effort := by
  have hleave : (s.leave g.id).effort + g.effort ≤ s.effort := by
    have hleft := total_leave Getter.effort hnamed hg
    have hannounce := announcement_mono s.broadcastOwed (Nat.le_of_lt (length_leave_lt hg))
    show 3 * s.owed + 2 * s.permit.toNat + total Getter.effort (s.leave g.id).getters +
      announcement s.broadcastOwed (s.leave g.id).getters.length + g.effort ≤ s.effort
    unfold effort
    omega
  unfold finish
  split
  · next hsingle =>
    have hpass := effort_notifyOne_le (s.leave g.id)
    have hown : g.effort = 3 := by simp [Getter.effort, hlooked, hsingle]
    omega
  · have hown : 1 ≤ g.effort := by simp [Getter.effort, hlooked]
    omega

/-- A getter that registers again saves its notification, also when it takes along one that was
left. -/
theorem effort_register_lt (hnamed : s.ids.Nodup) (hg : g ∈ s.getters)
    (hlooked : g.looked = true) (hsignal : g.signal.isSome) :
    ((s.leave g.id).register g.id).effort < s.effort := by
  have hleft := total_leave Getter.effort hnamed hg
  have hown : g.effort = 2 := by simp [Getter.effort, hlooked, hsignal]
  have hlength := length_leave_lt hg
  have hannounce : announcement s.broadcastOwed ((s.leave g.id).getters.length + 1) ≤
      announcement s.broadcastOwed s.getters.length := announcement_mono _ hlength
  unfold effort
  simp only [register, total_append, List.length_append, List.length_singleton]
  show 3 * s.owed + 2 * 0 + (total Getter.effort (s.leave g.id).getters +
      total Getter.effort [if s.permit then _ else _]) +
      announcement s.broadcastOwed ((s.leave g.id).getters.length + 1) < _
  cases s.permit with
  | false =>
    have hnew : total Getter.effort [Getter.registered g.id] = 1 := rfl
    rw [if_neg Bool.false_ne_true, hnew, Bool.toNat_false]
    omega
  | true =>
    have hnew : total Getter.effort [{ Getter.registered g.id with signal := some .permit }] = 3 :=
      rfl
    rw [if_pos rfl, hnew, Bool.toNat_true]
    omega

/-- Every step makes the effort smaller. -/
theorem effort_lt_of_does {step : Step} (hnamed : s.ids.Nodup)
    (h : s.Does step s' got) : s'.effort < s.effort := by
  cases h with
  -- an owed notification is worth more than the permit or the waking that it becomes
  | notify owed howed =>
    have hpass := effort_notifyOne_le { s with owed }
    have hpaid : effort { s with owed } + 3 = s.effort := by
      unfold effort
      dsimp only
      omega
    omega
  | broadcast hbroadcast =>
    have hall := effort_notifyAll_le s.getters
    have hannounce : announcement s.broadcastOwed s.getters.length = 2 * s.getters.length + 1 := by
      rw [hbroadcast]
      rfl
    have hnone : announcement false s.getters.length = 0 := rfl
    unfold effort notifyAll
    dsimp only
    rw [List.length_map, hnone]
    omega
  -- a look in vain is spent, and the getter stays
  | miss g hg hlooked =>
    have hleft := total_leave Getter.effort hnamed hg
    have hmarked : total Getter.effort (s.markLooked g.id).getters =
        Getter.effort { g with looked := true } + total Getter.effort (s.leave g.id).getters := by
      exact total_perm _ (perm_markLooked hnamed hg)
    have hown : g.effort = Getter.effort { g with looked := true } + 1 := by
      simp [Getter.effort, hlooked, Nat.add_comm]
    have hlength : (s.markLooked g.id).getters.length = s.getters.length := List.length_map _
    show 3 * s.owed + 2 * s.permit.toNat + total Getter.effort (s.markLooked g.id).getters +
      announcement s.broadcastOwed (s.markLooked g.id).getters.length < s.effort
    rw [hlength]
    unfold effort
    omega
  | serve g queue item hg hlooked =>
    exact effort_finish_lt (s := { s with queue }) hnamed hg hlooked
  | refuse g hg hlooked => exact effort_finish_lt hnamed hg hlooked
  | resume g hg hlooked hsignal => exact effort_register_lt hnamed hg hlooked hsignal

theorem total_effort_le (gs : List Getter) : total Getter.effort gs ≤ 3 * gs.length := by
  induction gs with
  | nil => exact Nat.le_refl _
  | cons g rest ih =>
    have hone : g.effort ≤ 3 := by
      unfold Getter.effort
      split <;> split <;> omega
    show g.effort + total Getter.effort rest ≤ 3 * (rest.length + 1)
    omega

/-- The bound on the number of steps is large enough. -/
theorem effort_le_stepBound (s : SharedQueue) : s.effort ≤ s.stepBound := by
  have hgetters := total_effort_le s.getters
  have hpermit := s.permit.toNat_le
  have hannounce : announcement s.broadcastOwed s.getters.length ≤ 2 * s.getters.length + 1 := by
    cases s.broadcastOwed with
    | false => exact Nat.zero_le _
    | true => exact Nat.le_refl _
  have hbound : (s.owed + s.getters.length + 2) * 2 * 4 ≤ s.stepBound :=
    Nat.mul_le_mul_right 4 (Nat.mul_le_mul_left _ (Nat.le_add_left 2 _))
  unfold effort
  omega

end SharedQueue

end ClusterWatch
