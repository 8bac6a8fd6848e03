import ClusterWatch.Classification.Staleness
import ClusterWatch.Event.Normalize
import ClusterWatch.Proofs.Time.Stamps
/-!
# When events are stale

The stamp of an event has lost the fraction of its second, the distance to the current time is cut
to whole seconds, and it has to exceed the window. All three together err by less than a second, and
always towards the fresh side.

- `Instant.clock`: instants outside of leap seconds as numbers.
- `Event.isStale_iff`: staleness as a bound on the distance to the stamp.
- `Event.isStale_mono`: an event stays stale.

Main result: `Event.isStale_sound_and_tight`.
-/

namespace ClusterWatch

namespace Time.Instant

/-- An instant outside of leap seconds. -/
def IsPlain (t : Instant) : Prop :=
  t.nanos < nanosPerSecond

instance (t : Instant) : Decidable t.IsPlain :=
  inferInstanceAs (Decidable (_ < _))

/-- The nanoseconds since 1970, for instants outside of leap seconds. -/
def clock (t : Instant) : Int :=
  t.second * nanosPerSecond + t.nanos

variable {a b t now later last : Instant}

/-- A leap second before an instant outside of them adds one second at most. -/
theorem leapAdjustment_bounds (ha : a.IsPlain) (b : Instant) :
    0 ≤ leapAdjustment a b ∧ leapAdjustment a b ≤ 1 := by
  unfold leapAdjustment
  rw [if_neg (Nat.not_le.mpr ha)]
  split
  · split <;> decide
  · split <;> decide

/-- Outside of leap seconds a distance is the difference of two numbers. -/
theorem nanosSince_of_isPlain (ha : a.IsPlain) (hb : b.IsPlain) :
    a.nanosSince b = a.clock - b.clock := by
  have hadjust : leapAdjustment a b = 0 := by
    unfold leapAdjustment
    rw [if_neg (Nat.not_le.mpr hb), if_neg (Nat.not_le.mpr ha), ite_self, ite_self]
  unfold clock nanosPerSecond
  rw [nanosSince, hadjust, nanosPerSecond]
  omega

theorem clock_atSecond (h : t.IsPlain) : t.atSecond.clock = t.second * nanosPerSecond := by
  unfold IsPlain at h
  rw [clock, atSecond, Nat.mod_eq_of_lt h, Nat.sub_self]
  exact Int.add_zero _

theorem isPlain_atSecond (h : t.IsPlain) : t.atSecond.IsPlain := by
  unfold IsPlain at h
  simp only [atSecond, IsPlain]
  omega

/-- What is `n` seconds away from the beginning of a second stays as far away. -/
theorem nanosSince_mono {n : Int} (hnow : now.IsPlain) (hlater : later.IsPlain)
    (hlast : last.atSecond = last) (h : now < later)
    (hfar : n * nanosPerSecond ≤ now.nanosSince last) :
    n * nanosPerSecond ≤ later.nanosSince last := by
  have hwhole : last.nanos % nanosPerSecond = 0 := by
    have := congrArg Instant.nanos hlast
    have := Nat.mod_le last.nanos nanosPerSecond
    simp only [atSecond] at *
    omega
  have hbounds := leapAdjustment_bounds hnow last
  have hbounds' := leapAdjustment_bounds hlater last
  -- a leap second that counted now may not count later, but then another second has passed
  have hsame : now.second = later.second → leapAdjustment now last = leapAdjustment later last := by
    intro hsecond
    unfold IsPlain at hnow hlater
    simp only [leapAdjustment, secondOfDay, hsecond, Nat.not_le.mpr hnow, Nat.not_le.mpr hlater]
  unfold IsPlain at hnow hlater
  unfold nanosSince at hfar ⊢
  unfold nanosPerSecond at *
  rcases h with h | ⟨hsecond, hnanos⟩
  · omega
  · rw [← hsame hsecond, ← hsecond]
    omega

end Time.Instant

namespace Event

open Time (Instant nanosPerSecond)

variable {e : Event} {t now later : Instant}

/-- The distance to the stamp of a stale event is longer than the window by a whole second. -/
theorem isStale_iff : e.isStale now = true ↔
    ∃ last, e.lastSeen? = some last ∧ (30 * 60 + 1) * nanosPerSecond ≤ now.nanosSince last := by
  unfold isStale
  cases hlast : e.lastSeen? with
  | none => simp
  | some last =>
    simp only [decide_eq_true_eq, Option.some.injEq, exists_eq_left']
    unfold Instant.secondsSince stalenessWindow
    have hpos : (0 : Int) < nanosPerSecond := by decide
    rcases Int.le_total 0 (now.nanosSince last) with hnonneg | hnonpos
    · rw [Int.tdiv_eq_ediv_of_nonneg hnonneg, ← Int.le_ediv_iff_mul_le hpos]
      omega
    · -- an instant to come is never far enough back
      have hzero := Int.tdiv_le_tdiv hpos hnonpos
      rw [Int.zero_tdiv] at hzero
      unfold nanosPerSecond at *
      omega

/-- An event stays stale. -/
theorem isStale_mono (hnow : now.IsPlain) (hlater : later.IsPlain) (h : now < later)
    (hstale : e.isStale now = true) : e.isStale later = true := by
  obtain ⟨last, hlast, hfar⟩ := isStale_iff.mp hstale
  have hwhole := (Instant.isValid_of_ofStamp? hlast).2
  exact isStale_iff.mpr ⟨last, hlast, Instant.nanosSince_mono hnow hlater hwhole h hfar⟩

/-- The distance to the stamp of an instant. -/
theorem isStale_iff_of_stamp (ht : t.IsValid) (hplain : t.IsPlain) (hnow : now.IsPlain)
    (hlast : e.last = stampOf (some t)) :
    e.isStale now = true ↔
      (30 * 60 + 1) * nanosPerSecond ≤ now.clock - t.second * nanosPerSecond := by
  have hseen : e.lastSeen? = some t.atSecond := by
    rw [lastSeen?, hlast]
    exact ht.ofStamp?_stamp
  rw [isStale_iff, hseen]
  simp only [Option.some.injEq, exists_eq_left']
  rw [Instant.nanosSince_of_isPlain hnow (Instant.isPlain_atSecond hplain),
    Instant.clock_atSecond hplain]

/-- **Staleness errs by less than a second, and never on the stale side.** A stale event lies more
than half an hour back, and one that lies a second more than that back is stale; an event stays
stale, and one whose stamp cannot be read is never stale. -/
theorem isStale_sound_and_tight (ht : t.IsValid) (hplain : t.IsPlain)
    (hlast : e.last = stampOf (some t)) :
    (∀ now : Instant, now.IsPlain →
      (e.isStale now = true → 30 * 60 * nanosPerSecond < now.clock - t.clock) ∧
      ((30 * 60 + 1) * nanosPerSecond ≤ now.clock - t.clock → e.isStale now = true)) ∧
    (∀ (e' : Event) (now later : Instant), now.IsPlain → later.IsPlain → now < later →
      e'.isStale now = true → e'.isStale later = true) ∧
    ∀ (e' : Event) (now : Instant), e'.lastSeen? = none → e'.isStale now = false := by
  refine ⟨fun now hnow => ?_, fun e' now later hnow hlater => isStale_mono hnow hlater, ?_⟩
  · rw [isStale_iff_of_stamp ht hplain hnow hlast]
    unfold Instant.IsPlain at hplain
    unfold Instant.clock
    unfold nanosPerSecond at *
    omega
  · intro e' now hunread
    rw [isStale, hunread]

/-- Half an hour after an event in the last second before 1970, to the nanosecond, and a second
later. -/
theorem isStale_sound_and_tight_early :
    let t : Instant := ⟨-1, 500000000⟩
    let e : Event := { kind := "events", last := "1969-12-31 23:59:59" }
    t.IsValid ∧ t.IsPlain ∧ e.last = stampOf (some t) ∧
      e.isStale ⟨1800, 500000000⟩ = true ∧ e.isStale ⟨86400, 0⟩ = true ∧
      e.isStale ⟨1799, 500000000⟩ = false := by
  intro t e
  have ht : t.IsValid := by decide +kernel
  have hlast : e.last = stampOf (some t) := by decide +kernel
  obtain ⟨hexact, hmono, -⟩ := isStale_sound_and_tight ht (by decide) hlast
  have hstale := (hexact ⟨1800, 500000000⟩ (by decide)).2 (by decide)
  refine ⟨ht, by decide, hlast, hstale,
    hmono e ⟨1800, 500000000⟩ ⟨86400, 0⟩ (by decide) (by decide) (by decide) hstale, ?_⟩
  exact Bool.eq_false_iff.mpr fun hfresh =>
    absurd ((hexact ⟨1799, 500000000⟩ (by decide)).1 hfresh) (by decide)

end Event

end ClusterWatch
