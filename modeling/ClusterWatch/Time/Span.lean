import ClusterWatch.Text.Integer
/-!
# Spans of time

A length of time in whole seconds and nanoseconds, as timeouts, poll intervals and backoff delays
use it. The seconds fit 64 bits, so arithmetic has to say what happens beyond.

- `Span`: seconds below `2 ^ 64` and nanoseconds below `10 ^ 9`.
- `Span.total`: the length in nanoseconds, the view in which spans are compared and measured.
- `Span.scaled?`: a multiple of a span, none when it is too long to be a span.
- `Span.text`: the length in the largest unit that keeps a whole part.
-/

namespace ClusterWatch.Time

/-- The nanoseconds of a second. -/
def nanosPerSecond : Nat := 1000000000

/-- A length of time. -/
@[ext] structure Span where
  seconds : Nat
  nanos : Nat
  seconds_lt : seconds < UInt64.size
  nanos_lt : nanos < nanosPerSecond

namespace Span

/-- The length in nanoseconds. -/
def total (s : Span) : Nat :=
  s.seconds * nanosPerSecond + s.nanos

/-- The span of the given number of nanoseconds, when there is one. -/
def ofNanos? (n : Nat) : Option Span :=
  if h : n / nanosPerSecond < UInt64.size then
    some ⟨n / nanosPerSecond, n % nanosPerSecond, h, Nat.mod_lt _ (by decide)⟩
  else none

/-- The empty span. -/
def zero : Span :=
  ⟨0, 0, by decide, by decide⟩

instance : Inhabited Span := ⟨zero⟩

/-- A span of whole seconds. -/
def ofSeconds (n : Nat) (h : n < UInt64.size := by decide) : Span :=
  ⟨n, 0, h, by decide⟩

/-- A span of whole milliseconds. -/
def ofMillis (n : Nat) (h : n < UInt64.size := by decide) : Span :=
  ⟨n / 1000, n % 1000 * 1000000, Nat.lt_of_le_of_lt (Nat.div_le_self ..) h, by
    have := Nat.mod_lt n (show 0 < 1000 by decide)
    simp only [nanosPerSecond]
    omega⟩

/-- The whole milliseconds of a span. -/
def millis (s : Span) : Nat :=
  s.total / 1000000

/-- The least number of milliseconds that a span does not exceed. -/
def ceilMillis (s : Span) : Nat :=
  (s.total + 999999) / 1000000

/-- Spans are ordered by their length. -/
instance : LE Span := ⟨fun a b => a.total ≤ b.total⟩

instance (a b : Span) : Decidable (a ≤ b) :=
  inferInstanceAs (Decidable (a.total ≤ b.total))

/-- Spans compare as their lengths do. -/
theorem le_iff_total_le {a b : Span} : a ≤ b ↔ a.total ≤ b.total :=
  Iff.rfl

/-- The shorter of two spans. -/
instance : Min Span := ⟨fun a b => if a ≤ b then a else b⟩

/-- A length determines its span. -/
theorem total_injective {a b : Span} (h : a.total = b.total) : a = b := by
  have ha := a.nanos_lt
  have hb := b.nanos_lt
  simp only [total, nanosPerSecond] at h ha hb
  ext <;> omega

/-- Spans are equal exactly when their lengths are. -/
theorem total_inj {a b : Span} : a.total = b.total ↔ a = b :=
  ⟨total_injective, fun h => h ▸ rfl⟩

instance : DecidableEq Span := fun a b =>
  decidable_of_iff (a.total = b.total) total_inj

/-- The length of the shorter span is the lesser length. -/
@[simp] theorem total_min (a b : Span) : (min a b).total = min a.total b.total := by
  change (if a ≤ b then a else b).total = _
  by_cases h : a.total ≤ b.total
  · rw [if_pos (le_iff_total_le.2 h), Nat.min_eq_left h]
  · rw [if_neg (fun hab => h (le_iff_total_le.1 hab)),
      Nat.min_eq_right (Nat.le_of_lt (Nat.lt_of_not_le h))]

/-- The multiple of a span: the nanoseconds are multiplied first and carry into the seconds, and
seconds beyond 64 bits leave no span. -/
def scaled? (s : Span) (factor : Nat) : Option Span :=
  let nanos := s.nanos * factor
  let seconds := s.seconds * factor + nanos / nanosPerSecond
  if h : seconds < UInt64.size then
    some ⟨seconds, nanos % nanosPerSecond, h, Nat.mod_lt _ (by decide)⟩
  else none

/-- A decimal fraction without the zeros at its end, given by its value in units of the last of
`width` places. -/
def fractionText (width value : Nat) : List Char :=
  match ((Text.padded width value).reverse.dropWhile (· = '0')).reverse with
  | [] => []
  | digits => '.' :: digits

/-- The characters of a span in the largest unit that keeps a whole part. -/
def chars (s : Span) : List Char :=
  if 0 < s.seconds then
    Text.decimal s.seconds ++ fractionText 9 s.nanos ++ ['s']
  else if 1000000 ≤ s.nanos then
    Text.decimal (s.nanos / 1000000) ++ fractionText 6 (s.nanos % 1000000) ++ ['m', 's']
  else if 1000 ≤ s.nanos then
    Text.decimal (s.nanos / 1000) ++ fractionText 3 (s.nanos % 1000) ++ ['µ', 's']
  else Text.decimal s.nanos ++ ['n', 's']

/-- The text of a span, such as `60s`, `1.5s`, `250ms` or `0ns`. -/
def text (s : Span) : String :=
  String.ofList s.chars

instance : Repr Span := ⟨fun s _ => s.text⟩

end Span

end ClusterWatch.Time
