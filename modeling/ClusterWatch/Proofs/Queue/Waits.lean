import ClusterWatch.Queue.Backoff
import Mathlib.Algebra.Ring.Nat
/-!
# Exact waits

The wait of a failing item is a product that may be longer than any span. A product that was cut to
the longest span is still not shorter than the maximum of the waits, so that the cut cannot be seen
behind the maximum and the wait is what unbounded numbers give.

- `Span.scaled`: a multiple of a span, cut to the longest span.
- `Span.total_scaled`: its length.
- `Backoff.delay_eq_min`: a wait as a multiple that is cut twice.
- `Backoff.total_delay`: its length.

Main result: `Backoff.delay_exact`.
-/

namespace ClusterWatch

namespace Time.Span

/-- The longest span. -/
def longest : Span :=
  ⟨UInt64.size - 1, nanosPerSecond - 1, by decide, by decide⟩

/-- A multiple of a span, cut to the longest span. -/
def scaled (s : Span) (factor : Nat) : Span :=
  (s.scaled? factor).getD longest

variable {s t : Span} {factor : Nat}

theorem total_longest : longest.total + 1 = UInt64.size * nanosPerSecond := by
  decide

/-- Lengths are the numbers below a bound. -/
theorem total_lt (s : Span) : s.total < UInt64.size * nanosPerSecond := by
  have hseconds := s.seconds_lt
  have hnanos := s.nanos_lt
  unfold total UInt64.size nanosPerSecond at *
  omega

theorem total_le_longest (s : Span) : s.total ≤ longest.total := by
  have hbound := s.total_lt
  have hlongest := total_longest
  omega

/-- What the nanoseconds carry into the seconds is neither lost nor counted twice. -/
theorem total_carry (s : Span) (factor : Nat) :
    (s.seconds * factor + s.nanos * factor / nanosPerSecond) * nanosPerSecond +
        s.nanos * factor % nanosPerSecond = s.total * factor := by
  have hcarry := Nat.div_add_mod (s.nanos * factor) nanosPerSecond
  calc
    _ = s.seconds * factor * nanosPerSecond +
          (nanosPerSecond * (s.nanos * factor / nanosPerSecond) +
            s.nanos * factor % nanosPerSecond) := by
      rw [Nat.add_mul, Nat.mul_comm (s.nanos * factor / nanosPerSecond), Nat.add_assoc]
    _ = s.seconds * factor * nanosPerSecond + s.nanos * factor := by rw [hcarry]
    _ = s.total * factor := by rw [total, Nat.add_mul, Nat.mul_right_comm]

/-- A multiple that is a span has the length of the product. -/
theorem total_of_scaled? (h : s.scaled? factor = some t) : t.total = s.total * factor := by
  unfold scaled? at h
  dsimp only at h
  split at h
  · obtain rfl := Option.some.inj h
    exact total_carry s factor
  · cases h

/-- A multiple that is no span is longer than all of them. -/
theorem longest_lt_of_scaled? (h : s.scaled? factor = none) :
    longest.total < s.total * factor := by
  unfold scaled? at h
  dsimp only at h
  split at h
  · cases h
  · next hseconds =>
    have hcarry := total_carry s factor
    have hlongest := total_longest
    -- that many whole seconds alone exceed the longest span
    have hwhole := Nat.mul_le_mul_right nanosPerSecond (Nat.not_lt.mp hseconds)
    omega

/-- The length of a multiple is the product, cut to the greatest length. -/
theorem total_scaled (s : Span) (factor : Nat) :
    (s.scaled factor).total = min (s.total * factor) longest.total := by
  unfold scaled
  cases h : s.scaled? factor with
  | none => exact (Nat.min_eq_right (Nat.le_of_lt (longest_lt_of_scaled? h))).symm
  | some t =>
    show t.total = _
    rw [← total_of_scaled? h, Nat.min_eq_left t.total_le_longest]

theorem min_longest (s : Span) : min longest s = s :=
  total_injective <| by rw [total_min, Nat.min_eq_right s.total_le_longest]

end Time.Span

namespace Backoff

open Time (Span)

variable {b : Backoff} {failures more : Nat}

/-- The doublings are counted up to a number at which their product still fits 32 bits. -/
theorem factor_eq (failures : Nat) :
    min (2 ^ min failures maxDoublings) (UInt32.size - 1) = 2 ^ min failures maxDoublings := by
  have hpow : 2 ^ min failures maxDoublings ≤ 2 ^ maxDoublings :=
    Nat.pow_le_pow_right (by decide) (Nat.min_le_right _ _)
  exact Nat.min_eq_left (Nat.le_trans hpow (by decide))

/-- A wait is a multiple of the base by a power of two, where the power is cut to 32 bits, the
multiple to the longest span and the wait to the maximum. -/
theorem delay_eq_min (b : Backoff) (failures : Nat) :
    b.delay failures =
      min (b.base.scaled (min (2 ^ min failures maxDoublings) (UInt32.size - 1))) b.max := by
  rw [factor_eq]
  unfold delay Span.scaled
  show _ = min ((b.base.scaled? (Nat.pow 2 (min failures maxDoublings))).getD Span.longest) b.max
  cases b.base.scaled? (Nat.pow 2 (min failures maxDoublings)) with
  | some wait => rfl
  | none => exact b.max.min_longest.symm

/-- The length of a wait: the maximum leaves nothing to see of the cut to the longest span. -/
theorem total_delay (b : Backoff) (failures : Nat) :
    (b.delay failures).total = min (b.base.total * 2 ^ min failures maxDoublings) b.max.total := by
  rw [delay_eq_min, factor_eq, Span.total_min, Span.total_scaled, Nat.min_assoc,
    Nat.min_eq_right b.max.total_le_longest]

theorem delay_le_max (b : Backoff) (failures : Nat) : b.delay failures ≤ b.max := by
  show (b.delay failures).total ≤ b.max.total
  rw [total_delay]
  exact Nat.min_le_right _ _

/-- More failures never make a wait shorter. -/
theorem delay_mono (h : failures ≤ more) : b.delay failures ≤ b.delay more := by
  show (b.delay failures).total ≤ (b.delay more).total
  rw [total_delay, total_delay]
  have hpow : 2 ^ min failures maxDoublings ≤ 2 ^ min more maxDoublings :=
    Nat.pow_le_pow_right (by decide) (by omega)
  have hproduct := Nat.mul_le_mul_left b.base.total hpow
  omega

/-- The doublings that are not counted would not be seen behind the maximum. -/
theorem total_delay_of_reached
    (h : failures ≤ maxDoublings ∨ b.max.total ≤ b.base.total * 2 ^ maxDoublings) :
    (b.delay failures).total = min (b.base.total * 2 ^ failures) b.max.total := by
  rw [total_delay]
  rcases h with hfew | hmax
  · rw [Nat.min_eq_left hfew]
  · -- with and without the further doublings the product reaches the maximum
    rcases Nat.le_total failures maxDoublings with hfew | hmany
    · rw [Nat.min_eq_left hfew]
    · have hpow : b.base.total * 2 ^ maxDoublings ≤ b.base.total * 2 ^ failures :=
        Nat.mul_le_mul_left _ (Nat.pow_le_pow_right (by decide) hmany)
      rw [Nat.min_eq_right hmany, Nat.min_eq_right hmax, Nat.min_eq_right (Nat.le_trans hmax hpow)]

/-- **Waits are exact.** A wait is the base doubled with every failure, up to the 31st, and cut to
the maximum, as unbounded numbers give it, also where the product is no span any more. It never
exceeds the maximum, it never gets shorter with another failure, and the limit on the doublings
shows only after 31 failures of a base that has not reached the maximum by then. -/
theorem delay_exact (b : Backoff) :
    (∀ failures, (b.delay failures).total =
        min (b.base.total * 2 ^ min failures 31) b.max.total) ∧
      (∀ failures, b.delay failures ≤ b.max) ∧
      (∀ failures more, failures ≤ more → b.delay failures ≤ b.delay more) ∧
      ∀ failures, failures ≤ 31 ∨ b.max.total ≤ b.base.total * 2 ^ 31 →
        (b.delay failures).total = min (b.base.total * 2 ^ failures) b.max.total := by
  refine ⟨?_, ?_, ?_, ?_⟩
  · intro failures
    exact b.total_delay failures
  · intro failures
    exact b.delay_le_max failures
  · intro failures more hmore
    exact delay_mono hmore
  · intro failures hreached
    exact total_delay_of_reached hreached

/-- A base that no longer doubles within the seconds of a span, and one nanosecond below that. -/
example :
    let b : Backoff := ⟨.ofSeconds (2 ^ 63), .longest⟩
    let b' : Backoff := ⟨⟨2 ^ 63 - 1, 999999999, by decide, by decide⟩, .longest⟩
    b.delay 1 = .longest ∧ (b'.delay 1).total + 1 = Span.longest.total ∧
      b'.delay 2 = .longest := by
  decide

end Backoff

end ClusterWatch
