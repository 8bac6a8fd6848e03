import ClusterWatch.Text.Blank
import ClusterWatch.Text.Integer
/-!
# Reading written numbers

A number filled up with zeros reads as the number again, wherever it stands: its characters are
digits, so that no blank, no sign and no mark is taken for a part of it.

- `naturalFrom?_of_digits`: reading digits.
- `natural?_padded`: a number that was written reads as itself.
- `signed?_integer`, `int64?_integer`: so does one with a sign.
- `trimStart_eq_self`, `trim_eq_self`: a text that begins and ends with other characters has no
  blanks to trim.
-/

namespace ClusterWatch.Text

/-! ### Digits -/

theorem isDigit_iff {c : Char} : isDigit c = true ↔ 48 ≤ c.toNat ∧ c.toNat ≤ 57 := by
  simp only [isDigit, Bool.and_eq_true, decide_eq_true_eq]
  exact Iff.rfl

theorem digitValue?_of_isDigit {c : Char} (h : isDigit c = true) :
    digitValue? 10 c = some (c.toNat - '0'.toNat) := by
  have hbounds := isDigit_iff.mp h
  have hrange : '0' ≤ c ∧ c ≤ '9' := by simpa [isDigit] using h
  have hzero : '0'.toNat = 48 := rfl
  rw [digitValue?, hexValue?, if_pos hrange, Option.filter_some, if_pos]
  simp only [decide_eq_true_eq]
  omega

/-- Digits are read from the front, each of them worth ten times what follows it. -/
theorem naturalFrom?_of_digits {cs : List Char} (h : ∀ c ∈ cs, isDigit c = true) (value : Nat) :
    naturalFrom? 10 value cs = some (Nat.ofDigitChars 10 cs value) := by
  induction cs generalizing value with
  | nil => rfl
  | cons c cs ih =>
    rw [naturalFrom?, digitValue?_of_isDigit (h c List.mem_cons_self), Nat.ofDigitChars_cons,
      Nat.mul_comm 10 value]
    exact ih (fun c hc => h c (List.mem_cons_of_mem _ hc)) _

/-! ### Written numbers -/

theorem isDigit_of_mem_padded {width n : Nat} {c : Char} (h : c ∈ padded width n) :
    isDigit c = true := by
  rcases List.mem_append.mp h with hzero | hdigit
  · obtain rfl := (List.mem_replicate.mp hzero).2
    decide
  · have := Nat.isDigit_of_mem_toDigits (by decide) (by decide) hdigit
    exact isDigit_iff.mpr (Char.isDigit_iff_toNat.mp this)

theorem length_padded {width n : Nat} (h : (decimal n).length ≤ width) :
    (padded width n).length = width := by
  rw [padded, List.length_append, List.length_replicate]
  omega

theorem padded_ne_nil (width n : Nat) : padded width n ≠ [] := by
  simp [padded, decimal, Nat.toDigits_ne_nil]

/-- A number that was written reads as itself. -/
theorem natural?_padded (width n : Nat) : natural? 10 (padded width n) = some n := by
  have hread : naturalFrom? 10 0 (padded width n) = some n := by
    rw [naturalFrom?_of_digits fun c hc => isDigit_of_mem_padded hc, padded,
      Nat.ofDigitChars_append, Nat.ofDigitChars_replicate_zero, Nat.mul_zero, decimal,
      Nat.ofDigitChars_toDigits (by decide) (by decide)]
  cases hpadded : padded width n with
  | nil => exact absurd hpadded (padded_ne_nil width n)
  | cons c cs =>
    rw [hpadded] at hread
    exact hread

theorem isDigit_of_mem_head? {width n : Nat} {rest : List Char} {c : Char}
    (h : c ∈ (padded width n ++ rest).head?) : isDigit c = true := by
  cases hpadded : padded width n with
  | nil => exact absurd hpadded (padded_ne_nil width n)
  | cons d cs =>
    rw [hpadded] at h
    obtain rfl := Option.some.inj h
    exact isDigit_of_mem_padded (hpadded ▸ List.mem_cons_self)

/-! ### Written integers -/

theorem padded_zero (n : Nat) : padded 0 n = decimal n := by
  rw [padded, Nat.zero_sub]
  rfl

theorem isDigit_of_mem_decimal {n : Nat} {c : Char} (h : c ∈ decimal n) : isDigit c = true := by
  rw [← padded_zero] at h
  exact isDigit_of_mem_padded h

theorem natural?_decimal (n : Nat) : natural? 10 (decimal n) = some n := by
  rw [← padded_zero]
  exact natural?_padded 0 n

/-- The characters of a written integer. -/
theorem isDigit_or_eq_of_mem_integer {n : Int} {c : Char} (h : c ∈ integer n) :
    isDigit c = true ∨ c = '-' := by
  unfold integer at h
  split at h
  · rcases List.mem_cons.mp h with hsign | hdigit
    · exact .inr hsign
    · exact .inl (isDigit_of_mem_decimal hdigit)
  · exact .inl (isDigit_of_mem_decimal h)

/-- An integer that was written reads as itself. -/
theorem signed?_integer (n : Int) : signed? 10 (integer n) = some n := by
  unfold integer
  split
  · next hneg =>
    rw [signed?, natural?_decimal]
    show some (-(n.natAbs : Int)) = some n
    congr 1
    omega
  · next hnonneg =>
    have hread : signed? 10 (decimal n.natAbs) =
        (natural? 10 (decimal n.natAbs)).map Int.ofNat := by
      -- the first character is a digit, so that it is not taken for a sign
      cases hdigits : decimal n.natAbs with
      | nil => rfl
      | cons c cs =>
        have hc : isDigit c = true := isDigit_of_mem_decimal (hdigits ▸ List.mem_cons_self)
        unfold signed?
        split
        · next h => exact absurd (List.cons.inj h).1 (by rintro rfl; cases hc)
        · next h => exact absurd (List.cons.inj h).1 (by rintro rfl; cases hc)
        · rfl
    rw [hread, natural?_decimal]
    show some (n.natAbs : Int) = some n
    congr 1
    omega

/-- An integer that fits 64 bits is found to fit. -/
theorem int64?_integer {n : Int} (h : int64Min ≤ n ∧ n ≤ int64Max) :
    int64? 10 (integer n) = some n := by
  rw [int64?, signed?_integer, Option.filter_some, if_pos (by simpa using h)]

/-! ### Blanks around numbers -/

theorem isBlank_of_isDigit {c : Char} (h : isDigit c = true) : isBlank c = false := by
  have hbounds := isDigit_iff.mp h
  simp only [isBlank, blankRanges, List.any_cons, List.any_nil, Bool.or_false, Bool.or_eq_false_iff,
    Bool.and_eq_false_iff, decide_eq_false_iff_not]
  omega

/-- A text with no blank at its start. -/
theorem trimStart_eq_self {cs : List Char} (h : ∀ c ∈ cs.head?, isBlank c = false) :
    trimStart cs = cs := by
  cases cs with
  | nil => rfl
  | cons c cs => rw [trimStart, List.dropWhile_cons_of_neg (by simp [h c rfl])]

/-- A text with no blank at either end. -/
theorem trim_eq_self {cs : List Char} (hfirst : ∀ c ∈ cs.head?, isBlank c = false)
    (hlast : ∀ c ∈ cs.getLast?, isBlank c = false) : trim cs = cs := by
  rw [trim, trimStart_eq_self hfirst, trimStart_eq_self (by rwa [List.head?_reverse]),
    List.reverse_reverse]

end ClusterWatch.Text
