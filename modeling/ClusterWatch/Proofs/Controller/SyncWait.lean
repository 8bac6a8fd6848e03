import ClusterWatch.Config.Document
import ClusterWatch.Proofs.Controller.Stages
import ClusterWatch.Proofs.Path
import Mathlib.Order.Bounds.Basic
/-!
# Waiting for the cache

Before a run gets to work it waits for its cache, on a clock with exact timers: a step is taken at
the time at which it can be taken first, and the clock goes on only to what is due next. Besides,
notifications come in at any time.

- `Schedule`: when the cache is complete, and when the run is asked to stop.
- `SyncWait`, `SyncWait.Move`, `SyncWait.advance?`: a controller that waits for its cache.
- `Schedule.Ends`: what a wait comes to, and when, by the schedule alone.
- `SyncWait.Standing`: the invariant. It says at which look the wait has come and how many moves
  were made up to there.

Main result: `SyncWait.ends_as_scheduled`, for timeouts that end before the clock does. Settings
with others are taken for valid, and a run with them never gets to look at its cache:
`SyncWait.never_begins`.
-/

namespace ClusterWatch.Controller

/-- What a run meets while it waits for its cache. -/
structure Schedule where
  /-- Whether the cache is complete at a time. -/
  synced : Nat → Bool
  /-- When the run is asked to stop, if it is. -/
  stop : Option Nat

/-- A controller that waits for its cache. -/
structure SyncWait where
  controller : Controller
  now : Nat
  /-- When the next look at the cache is due. -/
  due : Option Nat := none
  /-- When the cache was looked at, the last time first. -/
  looks : List Nat := []

/-- What can happen to a controller that waits for its cache. -/
inductive SyncWait.Move where
  /-- A notification comes in. -/
  | notify (call : Watch.Call)
  /-- A step is taken. -/
  | act (step : Step)
  /-- The clock goes on to what is due next. -/
  | pass

/-- Whether a move is one of the wait itself. -/
def SyncWait.Move.isOwn : SyncWait.Move → Bool
  | .notify _ => false
  | .act _ | .pass => true

namespace SyncWait

/-- What the wait has come to: whether the cache was found complete, or the failure. -/
def result? (x : SyncWait) : Option (Except Fault Bool) :=
  match x.controller.stage with
  | .running => some (.ok true)
  | .stopped none => some (.ok false)
  | .stopped (some fault) => some (.error fault)
  | _ => none

/-- Whether a step may be taken at this time. A look finds what the schedule says. -/
def isTimely (s : Schedule) (x : SyncWait) : Step → Bool
  | .check now synced => now = x.now ∧ synced = s.synced x.now
  | .tick => x.due = some x.now
  | .stop => s.stop = some x.now ∧ x.controller.stopRequested = false
  | .halt => true
  | _ => false

/-- The time of the next look that was asked for. -/
def askedLook? (effects : List Effect) : Option Nat :=
  effects.findSome? fun
    | .checkAt time => some time
    | _ => none

/-- The wait after a step that was taken. -/
def after (x : SyncWait) (step : Step) (result : Controller × List Effect) : SyncWait where
  controller := result.1
  now := x.now
  due := match step with
    | .tick => none
    | _ => askedLook? result.2 <|> x.due
  looks := match step with
    | .check now _ => now :: x.looks
    | _ => x.looks

/-- What the run waits for: the next look, and the request to stop until it was made. -/
def awaited (s : Schedule) (x : SyncWait) : List Nat :=
  x.due.toList ++ if x.controller.stopRequested then [] else s.stop.toList

/-- Whether the run can take a step of its own accord. -/
def isBusy (s : Schedule) (x : SyncWait) : Bool :=
  (x.controller.runStep? ⟨fun _ => .ok none, s.synced x.now⟩ x.now).isSome

/-- The wait after a move, none when it cannot be made. The clock does not pass what is due, and it
stands while the run is busy. Nothing is followed beyond the end of the wait. -/
def advance? (s : Schedule) (x : SyncWait) (move : Move) : Option SyncWait :=
  if x.result?.isSome then none
  else
    match move with
    | .notify call => some { x with controller := call.notify x.controller }
    | .act step =>
      if x.isTimely s step then (x.controller.step step).map (x.after step) else none
    | .pass =>
      match (x.awaited s).min? with
      | some time =>
        if x.now < time ∧ x.isBusy s = false then some { x with now := time } else none
      | none => none

end SyncWait

variable {s : Schedule} {c c' : Controller} {start last n moves : Nat} {x x' : SyncWait}

/-! ### What a wait comes to -/

/-- The time of a look at the cache. -/
def lookTime (c : Controller) (start n : Nat) : Nat :=
  start + n * c.tuning.pollInterval.total

/-- The times of the first looks, the last one first. -/
def lookTimes (c : Controller) (start count : Nat) : List Nat :=
  ((List.range count).map (c.lookTime start)).reverse

/-- What a wait comes to, and when. The look of number `last` is the first one at or after the
deadline. -/
inductive Schedule.Ends (s : Schedule) (c : Controller) (start last : Nat) :
    Except Fault Bool → Nat → Prop
  /-- The first look that finds the cache complete comes before the request to stop. -/
  | synced {n : Nat} : n ≤ last → IsLeast {n | s.synced (c.lookTime start n) = true} n →
      (∀ t, s.stop = some t → c.lookTime start n < t) → Ends s c start last (.ok true)
        (c.lookTime start n)
  /-- The request to stop comes before such a look and before the last one. -/
  | stopped {t : Nat} : s.stop = some t → t < c.lookTime start last →
      (∀ n, c.lookTime start n < t → s.synced (c.lookTime start n) = false) →
      Ends s c start last (.ok false) t
  /-- Neither comes up to the last look. -/
  | late : (∀ n ≤ last, s.synced (c.lookTime start n) = false) →
      (∀ t, s.stop = some t → c.lookTime start last < t) →
      Ends s c start last (.error (.cacheSync c.kind.name c.tuning.syncTimeout))
        (c.lookTime start last)

/-- Whether a look can come about: none before it has found the cache complete. -/
def Schedule.Looks (s : Schedule) (c : Controller) (start last n : Nat) : Prop :=
  n ≤ last ∧ ∀ m < n, s.synced (c.lookTime start m) = false

theorem lookTime_succ (c : Controller) (start n : Nat) :
    c.lookTime start (n + 1) = c.lookTime start n + c.tuning.pollInterval.total := by
  unfold lookTime
  rw [Nat.succ_mul]
  omega

theorem lookTime_mono (c : Controller) (start : Nat) {m n : Nat} (h : m ≤ n) :
    c.lookTime start m ≤ c.lookTime start n :=
  Nat.add_le_add_left (Nat.mul_le_mul_right _ h) _

@[simp] theorem length_lookTimes (c : Controller) (start count : Nat) :
    (c.lookTimes start count).length = count := by
  simp [lookTimes]

theorem lookTimes_succ (c : Controller) (start count : Nat) :
    c.lookTimes start (count + 1) = c.lookTime start count :: c.lookTimes start count := by
  unfold lookTimes
  rw [List.range_succ, List.map_append, List.reverse_append]
  rfl

/-- A schedule leaves one end only. -/
theorem Schedule.Ends.unique {r r' : Except Fault Bool} {t t' : Nat}
    (h : s.Ends c start last r t) (h' : s.Ends c start last r' t') : r' = r ∧ t' = t := by
  cases h with
  | @synced n hn hfirst hbefore =>
    cases h' with
    | synced hn' hfirst' hbefore' =>
      obtain rfl := hfirst.unique hfirst'
      exact ⟨rfl, rfl⟩
    | stopped hstop hless hnone =>
      exact absurd hfirst.1 (by simp [hnone n (hbefore _ hstop)])
    | late hnone hstop => exact absurd hfirst.1 (by simp [hnone n hn])
  | stopped hstop hless hnone =>
    cases h' with
    | @synced n hn' hfirst' hbefore' =>
      exact absurd hfirst'.1 (by simp [hnone n (hbefore' _ hstop)])
    | stopped hstop' hless' hnone' => exact ⟨rfl, Option.some.inj (hstop'.symm.trans hstop)⟩
    | late hnone' hstop' => exact absurd (hstop' _ hstop) (Nat.lt_asymm hless)
  | late hnone hstop =>
    cases h' with
    | @synced n hn' hfirst' hbefore' => exact absurd hfirst'.1 (by simp [hnone n hn'])
    | stopped hstop' hless' hnone' => exact absurd (hstop _ hstop') (Nat.lt_asymm hless')
    | late hnone' hstop' => exact ⟨rfl, rfl⟩

/-- No wait fails before its deadline. -/
theorem Schedule.Ends.deadline_le {fault : Fault} {t : Nat}
    (h : s.Ends c start last (.error fault) t)
    (hlast : IsLeast {n | c.tuning.syncTimeout.total ≤ n * c.tuning.pollInterval.total} last) :
    start + c.tuning.syncTimeout.total ≤ t := by
  cases h with
  | late hnone hstop => exact Nat.add_le_add_left hlast.1 _

/-! ### Moves -/

namespace SyncWait

/-- A move that can be made is a notification, a step whose time has come, or the time passes. -/
theorem advance?_cases {move : Move} (h : x.advance? s move = some x') :
    x.result? = none ∧
    ((∃ call, move = .notify call ∧ x' = { x with controller := call.notify x.controller }) ∨
      (∃ step c effects, move = .act step ∧ x.isTimely s step = true ∧
        x.controller.Does step c effects ∧ x' = x.after step (c, effects)) ∨
      ∃ time, move = .pass ∧ (x.awaited s).min? = some time ∧ x.now < time ∧
        x.isBusy s = false ∧ x' = { x with now := time }) := by
  unfold advance? at h
  split at h
  · cases h
  · next hover =>
    refine ⟨by simpa using hover, ?_⟩
    cases move with
    | notify call => exact .inl ⟨call, rfl, (Option.some.inj h).symm⟩
    | act step =>
      refine .inr (.inl ?_)
      dsimp only at h
      split at h
      · next htimely =>
        obtain ⟨⟨c, effects⟩, htaken, rfl⟩ := Option.map_eq_some_iff.mp h
        exact ⟨step, c, effects, rfl, htimely, does_of_step htaken, rfl⟩
      · cases h
    | pass =>
      refine .inr (.inr ?_)
      dsimp only at h
      split at h
      · next time htime =>
        split at h
        · next hless => exact ⟨time, rfl, htime, hless.1, hless.2, (Option.some.inj h).symm⟩
        · cases h
      · cases h

/-! ### The invariant -/

/-- What is known after a look that was not the last. -/
structure Rests (s : Schedule) (c : Controller) (start last n : Nat) (x : SyncWait) : Prop where
  early : n < last
  stage : x.controller.stage = .syncing (start + c.tuning.syncTimeout.total) true
  due : x.due = some (c.lookTime start (n + 1))
  looks : x.looks = c.lookTimes start (n + 1)
  unsynced : ∀ m ≤ n, s.synced (c.lookTime start m) = false

/-- How far a wait has come, and with how many moves. -/
inductive Standing (s : Schedule) (c : Controller) (start last : Nat) : Nat → SyncWait → Prop
  /-- It is about to look at the cache. -/
  | looking {n : Nat} {x : SyncWait} : n ≤ last →
      x.controller.stage = .syncing (start + c.tuning.syncTimeout.total) false →
      x.controller.stopRequested = false → x.now = c.lookTime start n → x.due = none →
      x.looks = c.lookTimes start n →
      (∀ m < n, s.synced (c.lookTime start m) = false) →
      (∀ t, s.stop = some t → x.now < t) → Standing s c start last (3 * n) x
  /-- It has looked in vain. -/
  | resting {n : Nat} {x : SyncWait} : Rests s c start last n x →
      x.controller.stopRequested = false → x.now = c.lookTime start n →
      (∀ t, s.stop = some t → x.now < t) → Standing s c start last (3 * n + 1) x
  /-- Something that it waits for has come. -/
  | woken {n : Nat} {x : SyncWait} : Rests s c start last n x →
      x.controller.stopRequested = false → c.lookTime start n < x.now →
      x.now ≤ c.lookTime start (n + 1) → (∀ t, s.stop = some t → x.now ≤ t) →
      x.now = c.lookTime start (n + 1) ∨ s.stop = some x.now →
      Standing s c start last (3 * n + 2) x
  /-- It was asked to stop. -/
  | asked {n : Nat} {x : SyncWait} : Rests s c start last n x →
      x.controller.stopRequested = true → s.stop = some x.now →
      x.now < c.lookTime start (n + 1) → Standing s c start last (3 * n + 3) x
  | ended {moves n : Nat} {x : SyncWait} {r : Except Fault Bool} : x.result? = some r →
      s.Ends c start last r x.now → n ≤ last → x.looks = c.lookTimes start (n + 1) →
      moves ≤ 3 * last + 1 → Standing s c start last moves x

theorem Rests.of_same (h : Rests s c start last n x)
    (hstage : x'.controller.stage = x.controller.stage) (hdue : x'.due = x.due)
    (hlooks : x'.looks = x.looks) : Rests s c start last n x' :=
  ⟨h.early, hstage.trans h.stage, hdue.trans h.due, hlooks.trans h.looks, h.unsynced⟩

/-- After a look in vain there can be another one. -/
theorem Rests.looks_next (h : Rests s c start last n x) : s.Looks c start last (n + 1) :=
  ⟨h.early, fun m hm => h.unsynced m (Nat.le_of_lt_succ hm)⟩

/-- Only the end of a wait has a result. -/
theorem result?_of_syncing {deadline : Nat} {resting : Bool}
    (h : x.controller.stage = .syncing deadline resting) : x.result? = none := by
  rw [result?, h]

/-- A wait that is over has ended as the schedule says. -/
theorem Standing.ends {r : Except Fault Bool} (h : Standing s c start last moves x)
    (hover : x.result? = some r) : s.Ends c start last r x.now := by
  cases h with
  | looking _ hstage => simp [result?_of_syncing hstage] at hover
  | resting hrests | woken hrests | asked hrests =>
    simp [result?_of_syncing hrests.stage] at hover
  | ended hresult hends =>
    obtain rfl := Option.some.inj (hresult.symm.trans hover)
    exact hends

/-- A run that begins is about to look at its cache. -/
theorem standing_of_begin {effects : List Effect}
    (hbegin : c.step (.start start) = some (c', effects)) (hfree : c.stopRequested = false)
    (hahead : ∀ t, s.stop = some t → start < t) :
    Standing s c start last 0 { controller := c', now := start } ∧ c.SameSettings c' := by
  obtain ⟨-, -, -, rfl⟩ := stepStart_cases hbegin
  refine ⟨.looking (n := 0) (Nat.zero_le _) rfl hfree ?_ rfl rfl (by simp) hahead,
    rfl, rfl, rfl, rfl⟩
  simp [lookTime]

/-- A notification is none of the wait's business. -/
theorem Standing.notify (h : Standing s c start last moves x) (call : Watch.Call) :
    Standing s c start last moves { x with controller := call.notify x.controller } := by
  obtain ⟨-, hcalm, hstage⟩ := x.controller.notify_frame call
  cases h with
  | looking hn hlooking hfree hnow hdue hlooks hnone hahead =>
    exact .looking hn (hstage.trans hlooking) (hcalm.trans hfree) hnow hdue hlooks hnone hahead
  | resting hrests hfree hnow hahead =>
    exact .resting (hrests.of_same hstage rfl rfl) (hcalm.trans hfree) hnow hahead
  | woken hrests hfree hafter hupto hahead hcome =>
    exact .woken (hrests.of_same hstage rfl rfl) (hcalm.trans hfree) hafter hupto hahead hcome
  | asked hrests hstop hnow hbefore =>
    exact .asked (hrests.of_same hstage rfl rfl) (hcalm.trans hstop) hnow hbefore
  | ended hresult hends hn hlooks hmoves =>
    refine .ended ?_ hends hn hlooks hmoves
    rw [← hresult, result?, result?, hstage]

section

variable (hpoll : 0 < c.tuning.pollInterval.total)
  (hlast : IsLeast {n | c.tuning.syncTimeout.total ≤ n * c.tuning.pollInterval.total} last)
  (hapart : ∀ t, s.stop = some t → ∀ n, s.Looks c start last n → t ≠ c.lookTime start n)

include hlast in
/-- The last look is the first one at which the deadline has come. -/
theorem deadline_le_iff (hn : n ≤ last) :
    start + c.tuning.syncTimeout.total ≤ c.lookTime start n ↔ n = last := by
  constructor
  · intro hover
    exact Nat.le_antisymm hn (hlast.2 (Nat.le_of_add_le_add_left hover))
  · rintro rfl
    exact Nat.add_le_add_left hlast.1 _

include hpoll in
theorem lookTime_lt_succ : c.lookTime start n < c.lookTime start (n + 1) := by
  rw [lookTime_succ]
  omega

include hlast in
/-- A look at the cache ends the wait, or there will be another one. -/
theorem Standing.look {step : Step} {effects : List Effect} {next : Controller} (hn : n ≤ last)
    (hstage : x.controller.stage = .syncing (start + c.tuning.syncTimeout.total) false)
    (hfree : x.controller.stopRequested = false) (hnow : x.now = c.lookTime start n)
    (hdue : x.due = none) (hlooks : x.looks = c.lookTimes start n)
    (hnone : ∀ m < n, s.synced (c.lookTime start m) = false)
    (hahead : ∀ t, s.stop = some t → x.now < t) (hsettings : c.SameSettings x.controller)
    (htimely : x.isTimely s step = true) (hdoes : x.controller.Does step next effects) :
    Standing s c start last (3 * n + 1) (x.after step (next, effects)) := by
  have hlooks' : x.now :: x.looks = c.lookTimes start (n + 1) := by
    rw [lookTimes_succ, hlooks, hnow]
  -- a look in vain adds to those before it
  have hupto : s.synced (c.lookTime start n) = false →
      ∀ m ≤ n, s.synced (c.lookTime start m) = false := by
    intro hsynced m hm
    rcases Nat.lt_or_eq_of_le hm with hless | rfl
    · exact hnone m hless
    · exact hsynced
  cases hdoes with
  | begun now deadline _ =>
    obtain ⟨rfl, hsynced⟩ : now = x.now ∧ true = s.synced x.now := by simpa [isTimely] using htimely
    rw [hnow] at hsynced
    refine .ended rfl ?_ hn hlooks' (by omega)
    show s.Ends c start last (.ok true) x.now
    rw [hnow] at hahead ⊢
    refine .synced hn ⟨hsynced.symm, fun m hm => ?_⟩ hahead
    by_contra hless
    exact absurd hm (by simp [hnone m (Nat.lt_of_not_le hless)])
  -- the deadline has come, so this is the last look
  | late now deadline hdeadline hover =>
    obtain ⟨rfl, hsynced⟩ : now = x.now ∧ false = s.synced x.now := by
      simpa [isTimely] using htimely
    obtain rfl : start + c.tuning.syncTimeout.total = deadline := by
      simpa using hstage.symm.trans hdeadline
    rw [hnow, deadline_le_iff hlast hn] at hover
    subst hover
    refine .ended rfl ?_ hn hlooks' (by omega)
    show s.Ends c start n (.error _) x.now
    rw [hsettings.kind, hsettings.tuning, hnow]
    rw [hnow] at hahead hsynced
    exact .late (hupto hsynced.symm) hahead
  | early now deadline hdeadline hless =>
    obtain ⟨rfl, hsynced⟩ : now = x.now ∧ false = s.synced x.now := by
      simpa [isTimely] using htimely
    obtain rfl : start + c.tuning.syncTimeout.total = deadline := by
      simpa using hstage.symm.trans hdeadline
    have hearly : n < last := by
      refine Nat.lt_of_le_of_ne hn fun heq => ?_
      rw [hnow, ← Nat.not_le, deadline_le_iff hlast hn] at hless
      exact hless heq
    rw [hnow] at hsynced
    refine .resting ⟨hearly, rfl, ?_, hlooks', hupto hsynced.symm⟩ hfree hnow hahead
    show some (x.now + x.controller.tuning.pollInterval.total) = _
    rw [hsettings.tuning, hnow, lookTime_succ]
  -- nothing else is due while a look is
  | tick => simp [isTimely, hdue] at htimely
  | stop =>
    have hcome : s.stop = some x.now := by
      simp only [isTimely, decide_eq_true_eq] at htimely
      exact htimely.1
    exact absurd (hahead _ hcome) (Nat.lt_irrefl _)
  | abandon deadline hstop => simp [hfree] at hstop
  | drain hstop => simp [hfree] at hstop
  | _ => simp [isTimely] at htimely

/-- What the wait rests for is due at the next look or when it is asked to stop. -/
theorem Rests.time_of_pass (h : Rests s c start last n x)
    (hfree : x.controller.stopRequested = false) {time : Nat}
    (htime : (x.awaited s).min? = some time) :
    time ≤ c.lookTime start (n + 1) ∧ (∀ t, s.stop = some t → time ≤ t) ∧
      (time = c.lookTime start (n + 1) ∨ s.stop = some time) := by
  have hmem : ∀ t, t ∈ x.awaited s ↔ t = c.lookTime start (n + 1) ∨ s.stop = some t := by
    intro t
    simp [awaited, h.due, hfree]
  obtain ⟨hcome, hleast⟩ := List.min?_eq_some_iff.mp htime
  exact ⟨hleast _ ((hmem _).mpr (.inl rfl)), fun t ht => hleast _ ((hmem t).mpr (.inr ht)),
    (hmem time).mp hcome⟩

/-- A wait that rests goes on when its next look is due, or when it is asked to stop. -/
theorem Rests.step_cases (h : Rests s c start last n x) {step : Step} {effects : List Effect}
    {next : Controller} (htimely : x.isTimely s step = true)
    (hdoes : x.controller.Does step next effects) :
    (x.now = c.lookTime start (n + 1) ∧ x.after step (next, effects) = { x with
      controller := { x.controller with
        stage := .syncing (start + c.tuning.syncTimeout.total) false }
      due := none }) ∨
    (s.stop = some x.now ∧ x.controller.stopRequested = false ∧
      x.after step (next, effects) = { x with
        controller := { x.controller with stopRequested := true } }) ∨
    (x.controller.stopRequested = true ∧
      x.after step (next, effects) = { x with controller := x.controller.stopWith none }) := by
  have hstage := h.stage
  cases hdoes with
  | tick deadline hsyncing =>
    have hdue : x.due = some x.now := by simpa [isTimely] using htimely
    obtain rfl : start + c.tuning.syncTimeout.total = deadline := by
      simpa using hstage.symm.trans hsyncing
    exact .inl ⟨Option.some.inj (hdue.symm.trans h.due), rfl⟩
  | stop =>
    obtain ⟨hcome, hfree⟩ : s.stop = some x.now ∧ x.controller.stopRequested = false := by
      simpa [isTimely] using htimely
    exact .inr (.inl ⟨hcome, hfree, rfl⟩)
  | abandon deadline hstop => exact .inr (.inr ⟨hstop, rfl⟩)
  | begun now deadline hsyncing => cases hstage.symm.trans hsyncing
  | late now deadline hsyncing => cases hstage.symm.trans hsyncing
  | early now deadline hsyncing => cases hstage.symm.trans hsyncing
  | drain hstop hrunning => cases hstage.symm.trans hrunning
  | _ => simp [isTimely] at htimely

include hpoll hlast hapart in
/-- A step of a wait takes it to the next look, or to its end. -/
theorem Standing.act {step : Step} {effects : List Effect} {next : Controller}
    (h : Standing s c start last moves x) (hsettings : c.SameSettings x.controller)
    (hresult : x.result? = none) (htimely : x.isTimely s step = true)
    (hdoes : x.controller.Does step next effects) :
    Standing s c start last (moves + 1) (x.after step (next, effects)) := by
  cases h with
  | looking hn hstage hfree hnow hdue hlooks hnone hahead =>
    exact .look hlast hn hstage hfree hnow hdue hlooks hnone hahead hsettings htimely hdoes
  -- nothing that it waits for has come
  | @resting n _ hrests hfree hnow hahead =>
    have hless : c.lookTime start n < c.lookTime start (n + 1) := lookTime_lt_succ hpoll
    rcases hrests.step_cases htimely hdoes with ⟨hnext, -⟩ | ⟨hcome, -⟩ | ⟨hstop, -⟩
    · omega
    · exact absurd (hahead _ hcome) (Nat.lt_irrefl _)
    · simp [hfree] at hstop
  | @woken n _ hrests hfree hafter hupto hahead hcome =>
    rcases hrests.step_cases htimely hdoes with ⟨hnext, heq⟩ | ⟨hstop, -, heq⟩ | ⟨hstop, -⟩
    · -- a request to stop does not come at the time of a look, so it is still ahead
      rw [heq]
      refine .looking (n := n + 1) hrests.early rfl hfree hnext rfl hrests.looks
        (fun m hm => hrests.unsynced m (Nat.le_of_lt_succ hm)) fun t ht => ?_
      exact Nat.lt_of_le_of_ne (hahead t ht) fun hsame =>
        hapart t ht _ hrests.looks_next (hsame.symm.trans hnext)
    · rw [heq]
      refine .asked (hrests.of_same rfl rfl rfl) rfl hstop ?_
      exact Nat.lt_of_le_of_ne hupto (hapart _ hstop _ hrests.looks_next)
    · simp [hfree] at hstop
  | @asked n _ hrests hstop hnow hbefore =>
    rcases hrests.step_cases htimely hdoes with ⟨hnext, -⟩ | ⟨-, hfree, -⟩ | ⟨-, heq⟩
    · omega
    · simp [hfree] at hstop
    · have hearly := hrests.early
      rw [heq]
      refine .ended rfl (.stopped hnow ?_ fun m hm => ?_) (Nat.le_of_lt hearly) hrests.looks
        (by omega)
      · exact Nat.lt_of_lt_of_le hbefore (c.lookTime_mono start hearly)
      · refine hrests.unsynced m (Nat.le_of_not_lt fun hlater => ?_)
        have hle := c.lookTime_mono start hlater
        exact absurd (Nat.lt_of_le_of_lt hle hm) (Nat.lt_asymm hbefore)
  | ended hover => simp [hover] at hresult

/-- The time that passes takes a wait to what it waits for first. -/
theorem Standing.pass {time : Nat} (h : Standing s c start last moves x)
    (hresult : x.result? = none) (htime : (x.awaited s).min? = some time) (hlater : x.now < time)
    (hidle : x.isBusy s = false) :
    Standing s c start last (moves + 1) { x with now := time } := by
  cases h with
  | looking hn hstage => simp [isBusy, runStep?, hstage] at hidle
  | resting hrests hfree hnow hahead =>
    obtain ⟨hupto, hfirst, hcome⟩ := hrests.time_of_pass hfree htime
    exact .woken (hrests.of_same rfl rfl rfl) hfree (hnow ▸ hlater) hupto hfirst hcome
  | woken hrests hfree hafter hupto hahead hcome =>
    -- the time does not pass what has come
    obtain ⟨hupto', hfirst, -⟩ := hrests.time_of_pass hfree htime
    rcases hcome with hdue | hstop
    · omega
    · exact absurd (hfirst _ hstop) (Nat.not_le.mpr hlater)
  | asked hrests hstop => simp [isBusy, runStep?, hrests.stage, hstop] at hidle
  | ended hover => simp [hover] at hresult

include hpoll hlast hapart in
/-- **Each move keeps the invariant**, and those of the wait itself are counted. -/
theorem Standing.move {move : Move} (h : Standing s c start last moves x)
    (hsettings : c.SameSettings x.controller) (hmove : x.advance? s move = some x') :
    Standing s c start last (if move.isOwn then moves + 1 else moves) x' ∧
      c.SameSettings x'.controller := by
  obtain ⟨hresult, ⟨call, rfl, rfl⟩ | ⟨step, next, effects, rfl, htimely, hdoes, rfl⟩ |
    ⟨time, rfl, htime, hlater, hidle, rfl⟩⟩ := advance?_cases hmove
  · exact ⟨h.notify call, hsettings.trans (x.controller.notify_frame call).1⟩
  · exact ⟨h.act hpoll hlast hapart hsettings hresult htimely hdoes,
      hsettings.trans hdoes.sameSettings⟩
  · exact ⟨h.pass hresult htime hlater hidle, hsettings⟩

/-! ### Getting to the end -/

include hpoll in
/-- A wait that is not over can go on. -/
theorem Standing.goes_on (h : Standing s c start last moves x) (hresult : x.result? = none) :
    ∃ move x', move.isOwn = true ∧ x.advance? s move = some x' := by
  have hgo : ∀ step, x.isTimely s step = true → (x.controller.step step).isSome = true →
      ∃ move x', move.isOwn = true ∧ x.advance? s move = some x' := by
    intro step htimely hstep
    obtain ⟨result, hresult'⟩ := Option.isSome_iff_exists.mp hstep
    refine ⟨.act step, x.after step result, rfl, ?_⟩
    simp [advance?, hresult, htimely, hresult']
  cases h with
  | looking hn hstage =>
    refine hgo (.check x.now (s.synced x.now)) (by simp [isTimely]) ?_
    simp only [Controller.step, stepCheck, hstage]
    split
    · rfl
    · split <;> rfl
  | @resting n _ hrests hfree hnow hahead =>
    have hless : c.lookTime start n < c.lookTime start (n + 1) := lookTime_lt_succ hpoll
    obtain ⟨time, htime⟩ : ∃ time, (x.awaited s).min? = some time := by
      rw [← Option.isSome_iff_exists, List.isSome_min?_iff]
      simp [awaited, hrests.due]
    obtain ⟨-, -, hcome⟩ := hrests.time_of_pass hfree htime
    have hlater : x.now < time := by
      rcases hcome with rfl | hstop
      · omega
      · exact hahead time hstop
    refine ⟨.pass, { x with now := time }, rfl, ?_⟩
    simp [advance?, hresult, htime, hlater, isBusy, runStep?, hrests.stage, hfree]
  | woken hrests hfree hafter hupto hahead hcome =>
    rcases hcome with hnext | hstop
    · refine hgo .tick ?_ ?_
      · simp [isTimely, hrests.due, hnext]
      · simp [Controller.step, stepTick, hrests.stage]
    · exact hgo .stop (by simp [isTimely, hstop, hfree]) rfl
  | asked hrests hstop =>
    refine hgo .halt rfl ?_
    simp [Controller.step, stepHalt, hstop, hrests.stage]
  | ended hover => simp [hover] at hresult

/-- A wait that is not over has not made all its moves. -/
theorem Standing.moves_le (h : Standing s c start last moves x) : moves ≤ 3 * last + 1 := by
  cases h with
  | looking hn => omega
  | resting hrests | woken hrests | asked hrests =>
    have hearly := hrests.early
    omega
  | ended _ _ _ _ hmoves => exact hmoves

include hpoll hlast hapart in
/-- A wait comes to its end. -/
theorem Standing.comes_to_end (h : Standing s c start last moves x)
    (hsettings : c.SameSettings x.controller) :
    ∃ later y r, Path (advance? s) x later y ∧ y.result? = some r := by
  -- induction on the number of moves that are left
  induction hleft : 3 * last + 1 - moves using Nat.strong_induction_on generalizing moves x with
  | _ left ih =>
    cases hresult : x.result? with
    | some r => exact ⟨[], x, r, .start, hresult⟩
    | none =>
      obtain ⟨move, x', hown, hmove⟩ := h.goes_on hpoll hresult
      obtain ⟨hnext, hsettings'⟩ := h.move hpoll hlast hapart hsettings hmove
      rw [if_pos hown] at hnext
      have hbound := hnext.moves_le
      obtain ⟨later, y, r, hpath, hover⟩ := ih _ (by omega) hnext hsettings' rfl
      exact ⟨_, y, r, (Path.move .start hmove).append hpath, hover⟩

include hpoll hlast hapart in
theorem standing_of_path {past : List (SyncWait × Move)}
    (h : Standing s c start last 0 x) (hsettings : c.SameSettings x.controller)
    (hpath : Path (advance? s) x past x') :
    Standing s c start last (past.countP fun m => m.2.isOwn) x' ∧
      c.SameSettings x'.controller := by
  induction hpath with
  | start => exact ⟨h, hsettings⟩
  | @move past y z move _ hmove ih =>
    have hnext := ih.1.move hpoll hlast hapart ih.2 hmove
    rw [List.countP_cons]
    cases hown : move.isOwn with
    | false => simpa [hown] using hnext
    | true => simpa [hown] using hnext

/-- The looks come at their times, and none after the last one. -/
theorem Standing.looks (h : Standing s c start last moves x) :
    ∃ count ≤ last + 1, x.looks = c.lookTimes start count := by
  cases h with
  | looking hn _ _ _ _ hlooks => exact ⟨_, Nat.le_succ_of_le hn, hlooks⟩
  | resting hrests | woken hrests | asked hrests =>
    exact ⟨_, Nat.le_succ_of_le hrests.early, hrests.looks⟩
  | ended _ _ hn hlooks => exact ⟨_, Nat.succ_le_succ hn, hlooks⟩

end

end SyncWait

/-- **Waiting for the cache.** When the deadline is a time of the clock, the run begins, and the
schedule alone says what its wait comes to, and when: the first look that finds the cache complete,
up to the first one at or after the deadline; the request to stop, if it comes before; or the
failure to be complete in time, and that never before the deadline. Every run of the wait, whatever
notifications come in between, takes looks at their times and none after the last, makes only so
many moves of its own, can go on to its end from wherever it is, and ends as the schedule says. When
the deadline lies beyond the clock, the run breaks down before its first look. -/
theorem SyncWait.ends_as_scheduled (hstage : c.stage = .initializing)
    (hfree : c.stopRequested = false) (hpoll : 0 < c.tuning.pollInterval.total)
    (hlast : IsLeast {n | c.tuning.syncTimeout.total ≤ n * c.tuning.pollInterval.total} last)
    (hstop : ∀ t, s.stop = some t →
      start < t ∧ ∀ n, s.Looks c start last n → t ≠ c.lookTime start n) :
    (start + c.tuning.syncTimeout.total < clockEnd →
      ∃ c', c.step (.start start) = some (c', []) ∧
      ∃ r t, s.Ends c start last r t ∧
        (∀ r' t', s.Ends c start last r' t' → r' = r ∧ t' = t) ∧
        (∀ fault, r = .error fault → start + c.tuning.syncTimeout.total ≤ t) ∧
        ∀ past x, Path (advance? s) { controller := c', now := start } past x →
          x.looks.length ≤ last + 1 ∧ x.looks = c.lookTimes start x.looks.length ∧
          (past.countP fun m => m.2.isOwn) ≤ 3 * last + 1 ∧
          (∀ r', x.result? = some r' → r' = r ∧ x.now = t) ∧
          ∃ later y, Path (advance? s) x later y ∧ y.result? = some r) ∧
    (clockEnd ≤ start + c.tuning.syncTimeout.total → c.step (.start start) = none) := by
  refine ⟨fun hfits => ?_, stepStart_of_beyond⟩
  have hbegin := stepStart_of_fits hstage hfits
  have hapart : ∀ t, s.stop = some t → ∀ n, s.Looks c start last n → t ≠ c.lookTime start n :=
    fun t ht => (hstop t ht).2
  obtain ⟨hbeginning, hsettings⟩ := standing_of_begin hbegin hfree fun t ht => (hstop t ht).1
  have hend : ∀ past x r, Path (advance? s) ⟨_, start, none, []⟩ past x → x.result? = some r →
      s.Ends c start last r x.now := fun past x r hpath hover =>
    (standing_of_path hpoll hlast hapart hbeginning hsettings hpath).1.ends hover
  obtain ⟨way, y, r, hway, hover⟩ := hbeginning.comes_to_end hpoll hlast hapart hsettings
  have hends := hend way y r hway hover
  refine ⟨_, hbegin, r, y.now, hends, fun r' t' h' => hends.unique h', ?_, fun past x hpath => ?_⟩
  · rintro fault rfl
    exact hends.deadline_le hlast
  · obtain ⟨hstanding, hsame⟩ := standing_of_path hpoll hlast hapart hbeginning hsettings hpath
    obtain ⟨count, hcount, hlooks⟩ := hstanding.looks
    have hlength : x.looks.length = count := by rw [hlooks, length_lookTimes]
    refine ⟨hlength ▸ hcount, hlength ▸ hlooks, hstanding.moves_le, fun r' hr' => ?_, ?_⟩
    · exact hends.unique (hend past x r' hpath hr')
    · obtain ⟨later, z, r', hlater, hover'⟩ := hstanding.comes_to_end hpoll hlast hapart hsame
      obtain ⟨rfl, -⟩ := hends.unique (hend _ z r' (hpath.append hlater) hover')
      exact ⟨later, z, hlater, hover'⟩

/-- A cache that is complete after the deadline, but before the last look, is in time. -/
theorem SyncWait.ends_as_scheduled_after_deadline :
    ∃ (s : Schedule) (c c' : Controller), c.step (.start 0) = some (c', []) ∧
      c.tuning.syncTimeout.total = 250000000 ∧ c.tuning.pollInterval.total = 100000000 ∧
      IsLeast {n | c.tuning.syncTimeout.total ≤ n * c.tuning.pollInterval.total} 3 ∧
      (∀ t, s.synced t = decide (280000000 ≤ t)) ∧ s.stop = some 390000000 ∧
      ∃ past x, Path (advance? s) { controller := c', now := 0 } past x ∧
        x.result? = some (.ok true) ∧ x.now = 300000000 := by
  let c : Controller := .new .nodes { syncTimeout := .ofMillis 250 } [] (.ofSecond 0)
  let s : Schedule := ⟨fun t => decide (280000000 ≤ t), some 390000000⟩
  have htimeout : c.tuning.syncTimeout.total = 250000000 := by decide
  have hpoll : c.tuning.pollInterval.total = 100000000 := by decide
  have hsynced : ∀ t, s.synced t = decide (280000000 ≤ t) := fun _ => rfl
  have hlook : ∀ n, c.lookTime 0 n = n * 100000000 := fun n => by rw [lookTime, hpoll, Nat.zero_add]
  have hlast : IsLeast {n | c.tuning.syncTimeout.total ≤ n * c.tuning.pollInterval.total} 3 := by
    rw [htimeout, hpoll]
    refine ⟨by decide, fun n hn => ?_⟩
    have hle : 250000000 ≤ n * 100000000 := hn
    omega
  have hstop : ∀ t, s.stop = some t → 0 < t ∧ ∀ n, s.Looks c 0 3 n → t ≠ c.lookTime 0 n := by
    rintro t ⟨⟩
    refine ⟨by decide, fun n _ => ?_⟩
    rw [hlook]
    omega
  have hdue : s.Ends c 0 3 (.ok true) (c.lookTime 0 3) := by
    refine .synced (Nat.le_refl 3) ⟨?_, fun n hn => ?_⟩ ?_
    · show s.synced (c.lookTime 0 3) = true
      rw [hsynced, hlook, decide_eq_true_eq]
      omega
    · have hfound : s.synced (c.lookTime 0 n) = true := hn
      rw [hsynced, hlook, decide_eq_true_eq] at hfound
      omega
    · rintro t ⟨⟩
      rw [hlook]
      omega
  have hfits : 0 + c.tuning.syncTimeout.total < clockEnd := by
    rw [htimeout]
    decide
  obtain ⟨c', hbegin, r, t, -, hunique, -, hruns⟩ :=
    (ends_as_scheduled (s := s) (c := c) rfl rfl (by rw [hpoll]; decide) hlast hstop).1 hfits
  obtain ⟨rfl, rfl⟩ := hunique _ _ hdue
  obtain ⟨-, -, -, -, later, y, hpath, hover⟩ := hruns [] _ .start
  obtain ⟨-, -, -, hresult, -⟩ := hruns later y hpath
  refine ⟨s, c, c', hbegin, htimeout, hpoll, hlast, hsynced, rfl, later, y, hpath, hover, ?_⟩
  rw [(hresult _ hover).2, hlook]

/-- The longest timeout that a file of settings can have is taken for valid, and there is a look at
or after it. But the clock ends before it does, for it shows a second at least when a program
starts: no run with it begins to wait. -/
theorem SyncWait.never_begins :
    let settings : Config := { process := { syncTimeoutSeconds := 9223372036854775807 } }
    settings.validate = .ok () ∧ 0 < settings.tuning.pollInterval.total ∧
    (∃ last, IsLeast {n | settings.tuning.syncTimeout.total ≤
      n * settings.tuning.pollInterval.total} last) ∧
    ∀ kind slots start now, Time.nanosPerSecond ≤ now →
      (Controller.new kind settings.tuning slots start).step (.start now) = none := by
  intro settings
  have htimeout : settings.tuning.syncTimeout.total = 9223372036854775807000000000 := by decide
  have hpoll : settings.tuning.pollInterval.total = 100000000 := by decide
  have hend : clockEnd = 9223372036854775808000000000 := by decide
  have hlast : IsLeast {n | settings.tuning.syncTimeout.total ≤
      n * settings.tuning.pollInterval.total} 92233720368547758070 := by
    rw [htimeout, hpoll]
    constructor
    · rw [Set.mem_ofPred_eq]
    · intro n hn
      rw [Set.mem_ofPred_eq] at hn
      omega
  have hpositive : 0 < settings.tuning.pollInterval.total := by
    rw [hpoll]
    decide
  refine ⟨rfl, hpositive, ⟨_, hlast⟩, fun kind slots start now hup => ?_⟩
  have hbeyond : clockEnd ≤
      now + (Controller.new kind settings.tuning slots start).tuning.syncTimeout.total := by
    show clockEnd ≤ now + settings.tuning.syncTimeout.total
    rw [htimeout, hend]
    have hsecond : 1000000000 ≤ now := hup
    omega
  have hnone := stepStart_of_beyond hbeyond
  exact hnone

end ClusterWatch.Controller
