import ClusterWatch.Proofs.Text.Numbers
import ClusterWatch.Proofs.Time.Calendar
import ClusterWatch.Time.Stamp
/-!
# Stamps and instants

A stamp tells an instant to the second. What is written is read back whatever the year, in a leap
second as well, and the reader, which takes much more than what is written, makes nothing of any
text but instants that can be written.

- `takeYear?_yearChars`, `takeField?_padded`: the parts of a stamp, each read to its end.
- `IsValid.ofCivil?_eq`: the parts of a stamp make up the instant again.
- `isValid_of_ofStamp?`: what is read is an instant without a fraction of a second.

Main result: `stamp_roundTrip`.
-/

namespace ClusterWatch.Time.Instant

open Text (padded isDigit isBlank)

/-! ### Reading numbers -/

/-- A number is read up to its width or up to the first other character. -/
theorem takeNumber?_padded {width places n : Nat} {rest : List Char}
    (hfits : (padded places n).length ≤ width)
    (hstop : (padded places n).length = width ∨ ∀ c ∈ rest.head?, isDigit c = false) :
    takeNumber? width (padded places n ++ rest) = some (n, rest) := by
  have hrest : (rest.take (width - (padded places n).length)).takeWhile isDigit = [] := by
    rcases hstop with hfull | hother
    · rw [hfull, Nat.sub_self, List.take_zero, List.takeWhile_nil]
    · cases rest with
      | nil => rw [List.take_nil, List.takeWhile_nil]
      | cons c rest =>
        cases width - (padded places n).length with
        | zero => rw [List.take_zero, List.takeWhile_nil]
        | succ k =>
          rw [List.take_succ_cons, List.takeWhile_cons_of_neg (by simp [hother c rfl])]
  have hdigits : ((padded places n ++ rest).take width).takeWhile isDigit = padded places n := by
    rw [List.take_append, List.take_of_length_le hfits,
      List.takeWhile_append_of_pos fun c hc => Text.isDigit_of_mem_padded hc, hrest,
      List.append_nil]
  simp only [takeNumber?, hdigits, Text.natural?_padded, Option.map_some, List.drop_left]

/-- A number of two places. -/
theorem takeField?_padded {n : Nat} (h : n < 100) (rest : List Char) :
    takeField? 2 (padded 2 n ++ rest) = some (n, rest) := by
  have hlength : (padded 2 n).length = 2 :=
    Text.length_padded ((Nat.length_toDigits_le_iff (by decide) (by decide)).mpr h)
  rw [takeField?, Text.trimStart_eq_self fun c hc =>
    Text.isBlank_of_isDigit (Text.isDigit_of_mem_head? hc)]
  exact takeNumber?_padded hlength.le (.inl hlength)

/-- A number after the blank between date and time. -/
theorem takeField?_blank {n : Nat} (h : n < 100) (rest : List Char) :
    takeField? 2 (' ' :: (padded 2 n ++ rest)) = some (n, rest) :=
  takeField?_padded h rest

/-! ### Reading years -/

theorem head?_yearChars (year : Int) : ∀ c ∈ (yearChars year).head?, isBlank c = false := by
  unfold yearChars
  intro c hc
  split at hc
  · obtain rfl := Option.some.inj hc
    decide
  · split at hc
    · obtain rfl := Option.some.inj hc
      decide
    · exact Text.isBlank_of_isDigit (Text.isDigit_of_mem_padded (List.mem_of_mem_head? hc))

theorem yearChars_ne_nil (year : Int) : yearChars year ≠ [] := by
  unfold yearChars
  split
  · exact List.cons_ne_nil _ _
  · split
    · exact List.cons_ne_nil _ _
    · exact Text.padded_ne_nil _ _

/-- A year without a sign. -/
theorem takeYear?_padded {n : Nat} (h : n < 10000) (rest : List Char) :
    takeYear? (padded 4 n ++ rest) = some ((n : Int), rest) := by
  have hlength : (padded 4 n).length = 4 :=
    Text.length_padded ((Nat.length_toDigits_le_iff (by decide) (by decide)).mpr h)
  have hnumber : takeNumber? 4 (padded 4 n ++ rest) = some (n, rest) :=
    takeNumber?_padded hlength.le (.inl hlength)
  have hdigit : ∀ c ∈ (padded 4 n ++ rest).head?, isDigit c = true :=
    fun c hc => Text.isDigit_of_mem_head? hc
  rw [takeYear?, Text.trimStart_eq_self fun c hc => Text.isBlank_of_isDigit (hdigit c hc)]
  split
  · next heq =>
    rw [heq] at hdigit
    exact absurd (hdigit _ rfl) (by decide)
  · next heq =>
    rw [heq] at hdigit
    exact absurd (hdigit _ rfl) (by decide)
  · rw [hnumber, Option.map_some]

/-- A year reads as itself where something other than a digit follows. -/
theorem takeYear?_yearChars (year : Int) {rest : List Char}
    (hrest : ∀ c ∈ rest.head?, isDigit c = false) :
    takeYear? (yearChars year ++ rest) = some (year, rest) := by
  have hsigned : takeNumber? (padded 4 year.natAbs ++ rest).length (padded 4 year.natAbs ++ rest) =
      some (year.natAbs, rest) :=
    takeNumber?_padded (by simp) (.inr hrest)
  unfold yearChars
  by_cases hnegative : year < 0
  · rw [if_pos hnegative, List.cons_append, takeYear?,
      Text.trimStart_eq_self fun c hc => by obtain rfl := Option.some.inj hc; decide]
    simp only [hsigned, Option.map_some]
    congr 2
    omega
  · rw [if_neg hnegative]
    by_cases hlarge : 9999 < year
    · rw [if_pos hlarge, List.cons_append, takeYear?,
        Text.trimStart_eq_self fun c hc => by obtain rfl := Option.some.inj hc; decide]
      simp only [hsigned, Option.map_some]
      congr 2
      omega
    · rw [if_neg hlarge, takeYear?_padded (by omega)]
      congr 2
      omega

/-! ### Reading stamps -/

variable {t : Instant}

theorem secondOfDay_lt (t : Instant) : t.secondOfDay < 86400 := by
  unfold secondOfDay secondsPerDay
  omega

theorem second_eq (t : Instant) : t.second = t.dayNumber * secondsPerDay + t.secondOfDay := by
  unfold dayNumber secondOfDay secondsPerDay
  omega

/-- A second of a minute has two places, in a leap second too. -/
theorem IsValid.secondOfMinute_le (h : t.IsValid) : t.secondOfMinute ≤ 60 := by
  obtain ⟨-, hnanos, hleap⟩ := h
  unfold nanosPerSecond at hnanos hleap
  unfold secondOfMinute nanosPerSecond
  omega

theorem trim_stampChars (t : Instant) : Text.trim t.stampChars = t.stampChars := by
  apply Text.trim_eq_self
  · intro c hc
    cases hyear : yearChars t.date.year with
    | nil => exact absurd hyear (yearChars_ne_nil _)
    | cons d cs =>
      rw [stampChars, hyear] at hc
      obtain rfl := Option.some.inj hc
      exact head?_yearChars t.date.year d (by rw [hyear]; rfl)
  · intro c hc
    have hsecond : c ∈ (padded 2 t.secondOfMinute).getLast? := by
      rw [stampChars, List.getLast?_append, List.getLast?_cons] at hc
      cases hlast : (padded 2 t.secondOfMinute).getLast? with
      | none => exact absurd (List.getLast?_eq_none_iff.mp hlast) (Text.padded_ne_nil _ _)
      | some d => simpa [hlast] using hc
    exact Text.isBlank_of_isDigit (Text.isDigit_of_mem_padded (List.mem_of_getLast? hsecond))

/-- The parts of a stamp make up the instant again, without the fraction of its second. -/
theorem IsValid.ofCivil?_eq (h : t.IsValid) :
    ofCivil? t.date t.hour t.minute t.secondOfMinute 0 = some t.atSecond := by
  have hsecond := secondOfDay_lt t
  have hday : t.date.dayNumber = t.dayNumber := Date.dayNumber_ofDayNumber t.dayNumber
  have hparts := second_eq t
  have hclock : t.hour < 24 ∧ t.minute < 60 ∧
      t.secondOfDay = t.hour * 3600 + t.minute * 60 + t.secondOfDay % 60 := by
    unfold hour minute
    omega
  obtain ⟨⟨hfirst, hlast⟩, hnanos, hleap⟩ := id h
  rw [ofCivil?, if_pos ⟨Date.isValid_ofDayNumber _, hfirst, hlast, hclock.1, hclock.2.1,
    h.secondOfMinute_le⟩, hday]
  unfold nanosPerSecond at hnanos hleap
  by_cases hnine : t.nanos < 1000000000
  · have hplain : t.secondOfMinute = t.secondOfDay % 60 := by
      unfold secondOfMinute nanosPerSecond
      omega
    simp only [hplain, atSecond, nanosPerSecond]
    rw [if_neg (by omega)]
    congr 2 <;> omega
  · have hsixty : t.secondOfMinute = 60 := by
      unfold secondOfMinute nanosPerSecond
      omega
    simp only [hsixty, atSecond, nanosPerSecond, if_true]
    congr 2 <;> omega

theorem daysInMonth_le (year : Int) (month : Nat) : Date.daysInMonth year month ≤ 31 := by
  unfold Date.daysInMonth
  split
  · split <;> decide
  all_goals decide

theorem IsValid.ofStampChars?_stampChars (h : t.IsValid) :
    ofStampChars? t.stampChars = some t.atSecond := by
  have hsecond := secondOfDay_lt t
  have hmonth : t.date.month < 100 ∧ t.date.day < 100 := by
    obtain ⟨⟨-, hmonth⟩, -, hday⟩ := Date.isValid_ofDayNumber t.dayNumber
    have hdays := daysInMonth_le t.date.year t.date.month
    change t.date.month ≤ 12 at hmonth
    change t.date.day ≤ Date.daysInMonth t.date.year t.date.month at hday
    omega
  have hhour : t.hour < 100 := by
    unfold hour
    omega
  have hminute : t.minute < 100 := by
    unfold minute
    omega
  have hlast := takeField?_padded (n := t.secondOfMinute) (by have := h.secondOfMinute_le; omega) []
  rw [List.append_nil] at hlast
  -- each reader takes its own part off the front and leaves the rest to the next one
  rw [ofStampChars?, trim_stampChars, stampChars]
  simp only [List.append_assoc, List.cons_append]
  rw [takeYear?_yearChars _ (by simp; decide)]
  simp only [takeMark?, if_true, Option.bind_eq_bind, Option.bind_some,
    takeField?_padded hmonth.1, takeField?_padded hmonth.2, takeField?_blank hhour,
    takeField?_padded hminute, hlast, List.isEmpty_nil]
  exact h.ofCivil?_eq

theorem IsValid.ofStamp?_stamp (h : t.IsValid) : ofStamp? t.stamp = some t.atSecond := by
  rw [ofStamp?, stamp, String.toList_ofList]
  exact h.ofStampChars?_stampChars

/-! ### What is read -/

/-- An instant on the day of a date. -/
theorem isValid_of_dayNumber {date : Date} (hdate : date.IsValid)
    (hyear : firstYear ≤ date.year ∧ date.year ≤ lastYear) (hday : t.dayNumber = date.dayNumber)
    (hnanos : t.nanos < 2 * nanosPerSecond)
    (hleap : nanosPerSecond ≤ t.nanos → t.secondOfDay % 60 = 59) : t.IsValid := by
  have heq : t.date = date := by
    rw [Instant.date, hday]
    exact Date.ofDayNumber_dayNumber hdate
  exact ⟨heq ▸ hyear, hnanos, hleap⟩

/-- A date and a time of day make up an instant, if any, that has no fraction of a second. -/
theorem isValid_of_ofCivil? {date : Date} {hour minute second : Nat}
    (h : ofCivil? date hour minute second 0 = some t) : t.IsValid ∧ t.atSecond = t := by
  rw [ofCivil?] at h
  split at h
  · next hparts =>
    obtain ⟨hdate, hfirst, hlast, hhour, hminute, hsecond⟩ := hparts
    simp only [Nat.add_zero, secondsPerDay] at h
    -- the second 60 is kept as the second before it with a whole second of nanoseconds
    by_cases hsixty : second = 60
    · rw [if_pos hsixty] at h
      obtain rfl := Option.some.inj h
      refine ⟨isValid_of_dayNumber hdate ⟨hfirst, hlast⟩ ?_ ?_ fun _ => ?_,
        by simp [atSecond]⟩
      · simp only [dayNumber, secondsPerDay]
        omega
      · simp only [nanosPerSecond]
        omega
      · simp only [secondOfDay, secondsPerDay]
        omega
    · rw [if_neg hsixty] at h
      obtain rfl := Option.some.inj h
      refine ⟨isValid_of_dayNumber hdate ⟨hfirst, hlast⟩ ?_ ?_ nofun, rfl⟩
      · simp only [dayNumber, secondsPerDay]
        omega
      · simp only [nanosPerSecond]
        omega
  · cases h

theorem isValid_of_ofStamp? {s : String} (h : ofStamp? s = some t) :
    t.IsValid ∧ t.atSecond = t := by
  rw [ofStamp?, ofStampChars?] at h
  simp only [Option.bind_eq_bind, Option.bind_eq_some_iff] at h
  obtain ⟨year, -, _, -, month, -, _, -, day, -, hour, -, _, -, minute, -, _, -, second, -, h⟩ := h
  split at h
  · exact isValid_of_ofCivil? h
  · cases h

/-- **A stamp tells an instant to the second.** Reading the stamp of an instant gives the instant
without the fraction of its second, and whatever text is read, the stamp of the instant that it
stands for reads as that instant as well. -/
theorem stamp_roundTrip :
    (∀ t : Instant, t.IsValid → ofStamp? t.stamp = some t.atSecond) ∧
      ∀ (s : String) (t : Instant), ofStamp? s = some t → ofStamp? t.stamp = some t := by
  refine ⟨fun t h => h.ofStamp?_stamp, fun s t h => ?_⟩
  obtain ⟨hvalid, hsecond⟩ := isValid_of_ofStamp? h
  rw [hvalid.ofStamp?_stamp, hsecond]

/-- A leap second before the year 0, and one that is read from a text with blanks in it. -/
theorem stamp_roundTrip_leap :
    let t : Instant := ⟨-62198755201, 1500000000⟩
    let read : Instant := ⟨-61782627241, 1000000000⟩
    t.IsValid ∧ t.stamp = "-0002-12-31 23:59:60" ∧ ofStamp? t.stamp = some t.atSecond ∧
      ofStamp? " +12-3- 9  7:5:60\n" = some read ∧ ofStamp? read.stamp = some read := by
  intro t read
  have hvalid : t.IsValid := by decide +kernel
  have hread : ofStamp? " +12-3- 9  7:5:60\n" = some read := by decide +kernel
  exact ⟨hvalid, by decide +kernel, stamp_roundTrip.1 t hvalid, hread,
    stamp_roundTrip.2 _ read hread⟩

end ClusterWatch.Time.Instant
