import ClusterWatch.Retry
import Mathlib.Algebra.Order.Ring.Rat
import Mathlib.Data.Nat.Cast.Order.Ring
import Mathlib.Logic.Function.Iterate
import Mathlib.Order.Bounds.Basic
/-!
# Runs of calls

An operation that could be called for ever has its calls end in a sequence of ways, each of which
may depend on all that the calls before it have done. A policy stops somewhere in this sequence.

- `Attempt.isFinal`: whether no call follows, however many are allowed.
- `RetryPolicy.stateAfter`, `RetryPolicy.attemptAt`: the sequence of an operation.
- `RetryPolicy.scripted`: every sequence is that of an operation.
- `RetryPolicy.delayAt`: the delays of the pauses.
- `RetryPolicy.Retries`: a run stops after a number of further calls; `runFrom_retries` says that
  every run does.

Main result: `RetryPolicy.run_stops_at_first`.
-/

namespace ClusterWatch

/-- Whether no other call follows a call that ends this way. -/
def Attempt.isFinal {ε α : Type} : Attempt ε α → Bool
  | success _ => true
  | transient _ => false
  | permanent _ => true

namespace RetryPolicy

variable {ε α σ : Type} {p : RetryPolicy} {jitter : Nat → Rat} {operation : σ → Attempt ε α × σ}
  {further call n : Nat} {delay : Rat} {s : σ} {r : RetryRun ε α σ}

/-! ### The calls of an operation -/

/-- The state after a number of calls. -/
def stateAfter (operation : σ → Attempt ε α × σ) (s : σ) (n : Nat) : σ :=
  (fun s => (operation s).2)^[n] s

/-- How the call after a number of calls ends. -/
def attemptAt (operation : σ → Attempt ε α × σ) (s : σ) (n : Nat) : Attempt ε α :=
  (operation (stateAfter operation s n)).1

theorem stateAfter_succ (n : Nat) :
    stateAfter operation s (n + 1) = (operation (stateAfter operation s n)).2 :=
  Function.iterate_succ_apply' ..

/-- The operation whose calls end as a sequence says. Its state is the number of calls. -/
def scripted (outcomes : Nat → Attempt ε α) (n : Nat) : Attempt ε α × Nat :=
  (outcomes n, n + 1)

theorem stateAfter_scripted (outcomes : Nat → Attempt ε α) (n : Nat) :
    stateAfter (scripted outcomes) 0 n = n := by
  induction n with
  | zero => rfl
  | succ n ih => rw [stateAfter_succ, ih, scripted]

theorem attemptAt_scripted (outcomes : Nat → Attempt ε α) (n : Nat) :
    attemptAt (scripted outcomes) 0 n = outcomes n := by
  rw [attemptAt, stateAfter_scripted, scripted]

/-! ### Pauses -/

/-- The delay of each pause: the cap holds from the second on. -/
def delayAt (p : RetryPolicy) : Nat → Rat
  | 0 => p.initialDelay.total
  | i + 1 => min (p.delayAt i * p.multiplier) p.maxDelay.total

theorem iterate_nextDelay (p : RetryPolicy) (i : Nat) :
    p.nextDelay^[i] p.initialDelay.total = p.delayAt i := by
  induction i with
  | zero => rfl
  | succ i ih =>
    rw [Function.iterate_succ_apply', ih, delayAt, nextDelay, min_def]

/-- The pauses of a number of further calls, from a delay and a call on. -/
def pausesFrom (p : RetryPolicy) (jitter : Nat → Rat) (delay : Rat) (call n : Nat) : List Rat :=
  (List.range n).map fun i => pause (p.nextDelay^[i] delay) (jitter (call + i))

theorem pausesFrom_succ (p : RetryPolicy) (jitter : Nat → Rat) (delay : Rat) (call n : Nat) :
    p.pausesFrom jitter delay call (n + 1) =
      pause delay (jitter call) :: p.pausesFrom jitter (p.nextDelay delay) (call + 1) n := by
  rw [pausesFrom, List.range_succ_eq_map, List.map_cons, List.map_map, Function.iterate_zero_apply,
    Nat.add_zero]
  refine congrArg (List.cons _) (List.map_congr_left fun i _ => ?_)
  rw [Function.comp_apply, Nat.succ_eq_add_one, Function.iterate_succ_apply, Nat.add_assoc,
    Nat.add_comm 1 i]

theorem delayAt_nonneg (hmultiplier : 0 ≤ p.multiplier) (i : Nat) : 0 ≤ p.delayAt i := by
  induction i with
  | zero => exact Nat.cast_nonneg _
  | succ i ih => exact le_min (mul_nonneg ih hmultiplier) (Nat.cast_nonneg _)

theorem le_pause {part : Rat} (hdelay : 0 ≤ delay) (hpart : 0 ≤ part) : delay ≤ pause delay part :=
  le_add_of_nonneg_right (mul_nonneg hdelay hpart)

theorem pause_le {part : Rat} (hdelay : 0 ≤ delay) (hpart : part ≤ 1) :
    pause delay part ≤ 2 * delay := by
  rw [pause, two_mul]
  exact add_le_add_right (mul_le_of_le_one_right hdelay hpart) delay

/-! ### Where a run stops -/

/-- A run ends with a call that no other follows. -/
theorem runFrom_of_over (h : (operation s).1.isFinal = true ∨ further = 0) :
    p.runFrom jitter operation further delay call s = ⟨(operation s).1, (operation s).2, []⟩ := by
  rw [runFrom]
  rcases hcall : operation s with ⟨_ | _ | _, s'⟩
  · rfl
  · obtain hfinal | rfl := h
    · rw [hcall] at hfinal
      cases hfinal
    · rfl
  · rfl

/-- Otherwise it pauses and goes on with the next call. -/
theorem runFrom_of_retried (h : (operation s).1.isFinal = false) :
    p.runFrom jitter operation (further + 1) delay call s =
      { p.runFrom jitter operation further (p.nextDelay delay) (call + 1) (operation s).2 with
        pauses := pause delay (jitter call) ::
          (p.runFrom jitter operation further (p.nextDelay delay) (call + 1)
            (operation s).2).pauses } := by
  rw [runFrom]
  rcases hcall : operation s with ⟨_ | _ | _, s'⟩
  · rw [hcall] at h
    cases h
  · rfl
  · rw [hcall] at h
    cases h

/-- A run stops after `n` further calls: the calls before were worth another one, and the last was
not or no other is allowed. -/
structure Retries (p : RetryPolicy) (jitter : Nat → Rat) (operation : σ → Attempt ε α × σ)
    (further : Nat) (delay : Rat) (call : Nat) (s : σ) (n : Nat) (r : RetryRun ε α σ) : Prop where
  le : n ≤ further
  retried : ∀ k < n, (attemptAt operation s k).isFinal = false
  ended : (attemptAt operation s n).isFinal = true ∨ n = further
  last : r.last = attemptAt operation s n
  state : r.state = stateAfter operation s (n + 1)
  pauses : r.pauses = p.pausesFrom jitter delay call n

theorem Retries.alone (hover : (operation s).1.isFinal = true ∨ further = 0) :
    Retries p jitter operation further delay call s 0
      (p.runFrom jitter operation further delay call s) where
  le := Nat.zero_le _
  retried := fun _ hk => absurd hk (Nat.not_lt_zero _)
  ended := hover.imp_right Eq.symm
  last := by rw [runFrom_of_over hover]; rfl
  state := by rw [runFrom_of_over hover]; rfl
  pauses := by rw [runFrom_of_over hover]; rfl

theorem Retries.cons (hretried : (operation s).1.isFinal = false)
    (h : Retries p jitter operation further (p.nextDelay delay) (call + 1) (operation s).2 n
      (p.runFrom jitter operation further (p.nextDelay delay) (call + 1) (operation s).2)) :
    Retries p jitter operation (further + 1) delay call s (n + 1)
      (p.runFrom jitter operation (further + 1) delay call s) where
  le := Nat.succ_le_succ h.le
  retried := by
    intro k hk
    cases k with
    | zero => exact hretried
    | succ k => exact h.retried k (Nat.lt_of_succ_lt_succ hk)
  ended := h.ended.imp_right (congrArg Nat.succ)
  last := by rw [runFrom_of_retried hretried]; exact h.last
  state := by rw [runFrom_of_retried hretried]; exact h.state
  pauses := by rw [runFrom_of_retried hretried, h.pauses, pausesFrom_succ]

theorem runFrom_retries (p : RetryPolicy) (jitter : Nat → Rat) (operation : σ → Attempt ε α × σ)
    (further : Nat) (delay : Rat) (call : Nat) (s : σ) :
    ∃ n, Retries p jitter operation further delay call s n
      (p.runFrom jitter operation further delay call s) := by
  -- on the further calls; each continuation has a delay, a number and a state of its own
  induction further generalizing delay call s with
  | zero => exact ⟨0, .alone (.inr rfl)⟩
  | succ further ih =>
    cases hfinal : (operation s).1.isFinal with
    | true => exact ⟨0, .alone (.inl hfinal)⟩
    | false =>
      obtain ⟨n, hn⟩ := ih (p.nextDelay delay) (call + 1) (operation s).2
      exact ⟨n + 1, .cons hfinal hn⟩

/-- The calls of a run are the least number of calls after which it may stop. -/
theorem Retries.isLeast (h : Retries p jitter operation (p.attempts - 1) delay call s n r) :
    IsLeast {n | 0 < n ∧
      ((attemptAt operation s (n - 1)).isFinal = true ∨ n = max p.attempts 1)} (n + 1) := by
  have hle := h.le
  refine ⟨⟨Nat.succ_pos n, h.ended.imp_right fun hn => by omega⟩, ?_⟩
  rintro k ⟨hk, hfinal | hall⟩
  · -- a final call before would have been the last
    by_contra hlt
    have hretried := h.retried (k - 1) (by omega)
    rw [hretried] at hfinal
    cases hfinal
  · omega

/-- The pauses of a policy whose delays do not shrink below nothing lie between the delay and twice
the delay. -/
theorem pause_bounds (hmultiplier : 0 ≤ p.multiplier) (hjitter : ∀ k, 0 ≤ jitter k ∧ jitter k ≤ 1)
    {i : Nat} {length : Rat}
    (hi : (p.pausesFrom jitter p.initialDelay.total 0 n)[i]? = some length) :
    p.delayAt i ≤ length ∧ length ≤ 2 * p.delayAt i := by
  rw [pausesFrom, List.getElem?_map] at hi
  obtain ⟨k, hk, rfl⟩ := Option.map_eq_some_iff.mp hi
  obtain ⟨hlt, rfl⟩ := List.getElem?_eq_some_iff.mp hk
  rw [List.getElem_range, iterate_nextDelay, Nat.zero_add]
  have hdelay := p.delayAt_nonneg hmultiplier i
  exact ⟨le_pause hdelay (hjitter i).1, pause_le hdelay (hjitter i).2⟩

/-- **Where a run stops.** Whatever an operation does, and whatever policy it is called under: the
number of calls is the least one that is as many as the policy allows, which is one at least, or
whose last call succeeds or fails for good. The run comes to what that call came to, and leaves what
that call left. There is a pause between two calls. As long as the factor of the delays is not
negative, the pauses lie between the delay and twice the delay, where the first delay is the initial
one and each later one is a multiple of the one before up to the longest. -/
theorem run_stops_at_first {outcomes : Nat → Attempt ε α}
    (houtcomes : ∀ k, attemptAt operation s k = outcomes k) (p : RetryPolicy)
    (jitter : Nat → Rat) :
    ∃ n, IsLeast {n | 0 < n ∧ ((outcomes (n - 1)).isFinal = true ∨ n = max p.attempts 1)} n ∧
      (p.run jitter operation s).calls = n ∧
      (p.run jitter operation s).state = stateAfter operation s n ∧
      (p.run jitter operation s).outcome = (outcomes (n - 1)).outcome ∧
      (p.run jitter operation s).pauses.length = n - 1 ∧
      (0 ≤ p.multiplier → (∀ k, 0 ≤ jitter k ∧ jitter k ≤ 1) →
        ∀ i length, (p.run jitter operation s).pauses[i]? = some length →
          p.delayAt i ≤ length ∧ length ≤ 2 * p.delayAt i) := by
  obtain rfl : attemptAt operation s = outcomes := funext houtcomes
  obtain ⟨n, h⟩ := runFrom_retries p jitter operation (p.attempts - 1) p.initialDelay.total 0 s
  have hlength : (p.run jitter operation s).pauses.length = n := by
    rw [run, h.pauses, pausesFrom, List.length_map, List.length_range]
  refine ⟨n + 1, h.isLeast, congrArg Nat.succ hlength, h.state, congrArg Attempt.outcome h.last,
    hlength, fun hmultiplier hjitter i length hi => ?_⟩
  rw [run, h.pauses] at hi
  exact pause_bounds hmultiplier hjitter hi

/-- Two calls fail and the third is refused for good. The first delay exceeds the longest one, the
second does not. -/
theorem run_stops_at_first_refused :
    let p : RetryPolicy :=
      { initialDelay := .ofSeconds 10, maxDelay := .ofSeconds 3, multiplier := 3 / 2 }
    let outcomes (k : Nat) : Attempt String Nat :=
      if k < 2 then .transient "busy" else .permanent "refused"
    let r := p.run (fun _ => 1 / 2) (scripted outcomes) 0
    (∀ k, attemptAt (scripted outcomes) 0 k = outcomes k) ∧ 0 ≤ p.multiplier ∧
      r.calls = 3 ∧ r.state = 3 ∧ r.outcome = .error "refused" ∧ r.pauses.length = 2 ∧
      (∀ length, r.pauses[0]? = some length → 10000000000 ≤ length ∧ length ≤ 20000000000) ∧
      ∀ length, r.pauses[1]? = some length → 3000000000 ≤ length ∧ length ≤ 6000000000 := by
  intro p outcomes r
  have hmultiplier : 0 ≤ p.multiplier := by decide +kernel
  obtain ⟨n, hleast, hcalls, hstate, houtcome, hpauses, hbounds⟩ :=
    run_stops_at_first (attemptAt_scripted outcomes) p fun _ => 1 / 2
  obtain rfl : n = 3 := by
    refine hleast.unique ⟨⟨by decide, .inl rfl⟩, ?_⟩
    rintro k ⟨hk, hfinal | rfl⟩
    · by_contra hlt
      have hbusy : outcomes (k - 1) = .transient "busy" := if_pos (by omega)
      rw [hbusy] at hfinal
      cases hfinal
    · decide
  have hbetween := hbounds hmultiplier fun _ => by decide +kernel
  refine ⟨attemptAt_scripted outcomes, hmultiplier, hcalls, hstate.trans (stateAfter_scripted _ _),
    houtcome, hpauses, fun length hlength => ?_, fun length hlength => ?_⟩
  · have h := hbetween 0 length hlength
    have hdelay : p.delayAt 0 = 10000000000 := by decide +kernel
    rw [hdelay] at h
    exact ⟨h.1, h.2.trans (by decide +kernel)⟩
  · have h := hbetween 1 length hlength
    have hdelay : p.delayAt 1 = 3000000000 := by decide +kernel
    rw [hdelay] at h
    exact ⟨h.1, h.2.trans (by decide +kernel)⟩

end RetryPolicy

end ClusterWatch
