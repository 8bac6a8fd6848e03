import ClusterWatch.Log.Line
import ClusterWatch.Time.Span
/-!
# Retries

Running an operation that may fail again and again, with growing pauses, a bounded number of times.

- `Attempt`: how one call of an operation ends.
- `RetryPolicy`: how often to call and how long to pause.
- `RetryRun`: what became of the calls, and what is logged about them.
- `RetryPolicy.run`: calls an operation until it succeeds, fails for good, or was called as often
  as the policy allows. A pause is the current delay and a random part of it; the delay of the first
  pause is not capped.
-/

namespace ClusterWatch

open Time (Span)

/-- How one call of an operation ends. -/
inductive Attempt (ε α : Type) where
  | success (value : α)
  /-- Worth another call after a pause. -/
  | transient (error : ε)
  /-- Another call cannot help. -/
  | permanent (error : ε)
  deriving DecidableEq, Repr

/-- The error of a call that failed. -/
def Attempt.error? {ε α : Type} : Attempt ε α → Option ε
  | success _ => none
  | transient e => some e
  | permanent e => some e

/-- What a call came to, if it is the last one. -/
def Attempt.outcome {ε α : Type} : Attempt ε α → Except ε α
  | success value => .ok value
  | transient e => .error e
  | permanent e => .error e

/-- How often to call an operation and how long to pause between the calls. -/
structure RetryPolicy where
  /-- The number of calls, at least one whatever it says. -/
  attempts : Nat := 5
  /-- The delay of the first pause. -/
  initialDelay : Span := .ofSeconds 10
  /-- The longest delay of the later pauses. -/
  maxDelay : Span := .ofSeconds 300
  /-- The factor from one delay to the next. -/
  multiplier : Rat := 2
  deriving DecidableEq

/-- What a run of an operation came to. -/
structure RetryRun (ε α σ : Type) where
  /-- How the last call ended. -/
  last : Attempt ε α
  state : σ
  /-- The pauses between the calls, in nanoseconds. -/
  pauses : List Rat

namespace RetryRun

variable {ε α σ : Type}

/-- What the operation came to. -/
def outcome (r : RetryRun ε α σ) : Except ε α :=
  r.last.outcome

/-- The number of calls of a run. -/
def calls (r : RetryRun ε α σ) : Nat :=
  r.pauses.length + 1

/-- A line about retries. -/
def line (level : Log.Level) (message : String) : Log.Line :=
  ⟨level, "k8swatch::retry", message⟩

/-- What is logged about a run: each pause, and the end if it was a failure. -/
def lines (r : RetryRun ε α σ) : List Log.Line :=
  r.pauses.map (fun _ => line .warn "Operation failed, retrying") ++
    match r.last with
    | .success _ => []
    | .transient _ => [line .error "Operation failed after max retries"]
    | .permanent _ => [line .error "Operation failed with non-retryable error"]

end RetryRun

namespace RetryPolicy

variable {ε α σ : Type}

/-- The delay after the given one, in nanoseconds. -/
def nextDelay (p : RetryPolicy) (delay : Rat) : Rat :=
  -- the limit is for the later pauses, the first one is as long as it is
  let next := delay * p.multiplier
  if next ≤ p.maxDelay.total then next else p.maxDelay.total

/-- A delay and a part of it on top. -/
def pause (delay jitter : Rat) : Rat :=
  delay + delay * jitter

/-- Calls an operation at least once and at most `further` times more. The pause after the call
of a number gets the random part that `jitter` gives for it. -/
def runFrom (p : RetryPolicy) (jitter : Nat → Rat) (operation : σ → Attempt ε α × σ) :
    (further : Nat) → (delay : Rat) → (call : Nat) → σ → RetryRun ε α σ
  | further, delay, call, s =>
    match operation s with
    | (.success value, s) => ⟨.success value, s, []⟩
    | (.permanent e, s) => ⟨.permanent e, s, []⟩
    | (.transient e, s) =>
      match further with
      | 0 => ⟨.transient e, s, []⟩
      | further + 1 =>
        let rest := runFrom p jitter operation further (p.nextDelay delay) (call + 1) s
        { rest with pauses := pause delay (jitter call) :: rest.pauses }

/-- Calls an operation under a policy. -/
def run (p : RetryPolicy) (jitter : Nat → Rat) (operation : σ → Attempt ε α × σ) (s : σ) :
    RetryRun ε α σ :=
  runFrom p jitter operation (p.attempts - 1) p.initialDelay.total 0 s

end RetryPolicy

end ClusterWatch
