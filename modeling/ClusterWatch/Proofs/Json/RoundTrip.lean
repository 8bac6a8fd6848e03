import ClusterWatch.Json.Reader
import ClusterWatch.Json.Text
import ClusterWatch.Proofs.Text.Numbers
import Mathlib.Data.List.Basic
import Mathlib.Data.List.TakeDrop
import Mathlib.Tactic.IntervalCases
import Mathlib.Tactic.SplitIfs
/-!
# JSON texts read back

A tree whose numbers are integers of 64 bits reads back from its text, whatever its strings are. A
string is closed by the first quote that is not escaped, a number ends before the mark that follows
it, and an array or object is nested no deeper than the reader goes.

- `Value.Fits`: the trees that read back.
- `readString_quote`: a string literal reads as its string.
- `readNumber_integer`: an integer in front of a mark reads as itself.
- `readValue_chars`: a tree in front of a mark reads as itself.

Main result: `read_text`.
-/

namespace ClusterWatch.Json

/-! ### String literals -/

theorem natural?_hexDigits :
    ∀ n < 32, Text.natural? 16 ['0', '0', hexDigit (n / 16), hexDigit (n % 16)] = some n := by
  decide

/-- The escape of a control character. -/
theorem readEscape_control {c : Char} (h : c.toNat < 0x20) (rest : List Char) :
    readEscape ('u' :: '0' :: '0' :: hexDigit (c.toNat / 16) :: hexDigit (c.toNat % 16) :: rest) =
      .ok (c, rest) := by
  have hunit : readUnit ('0' :: '0' :: hexDigit (c.toNat / 16) :: hexDigit (c.toNat % 16) :: rest) =
      .ok (c.toNat, rest) := by
    rw [readUnit, natural?_hexDigits c.toNat h]
  show readUnicode _ = _
  rw [readUnicode, hunit]
  show (if _ then _ else if _ then _ else Except.ok (Char.ofNat c.toNat, rest)) = _
  rw [if_neg (by omega), if_neg (by omega), Char.ofNat_toNat]

/-- A character reads back from how it stands in a literal, and the rest of the literal is read
after it. -/
theorem readBody_escapeChar (c : Char) (bound : Nat) (rest : List Char) :
    readBody (bound + 1) (escapeChar c ++ rest) =
      (readBody bound rest).bind fun (body, rest) => .ok (c :: body, rest) := by
  unfold escapeChar
  split_ifs with hquote hback hbell hfeed hline hreturn htab hcontrol
  · subst hquote; rfl
  · subst hback; rfl
  · subst hbell; rfl
  · subst hfeed; rfl
  · subst hline; rfl
  · subst hreturn; rfl
  · subst htab; rfl
  · show (readEscape ('u' :: '0' :: '0' :: _ :: _ :: rest)).bind _ = _
    rw [readEscape_control hcontrol]
    rfl
  · rw [List.singleton_append, readBody]
    · rw [if_neg hcontrol]
      rfl
    · rintro rfl
      exact hquote rfl
    · rintro rfl
      exact hback rfl

/-- The body of a literal ends at the quote that was put behind it. -/
theorem readBody_escape (cs rest : List Char) {bound : Nat}
    (h : (escape cs).length < bound) :
    readBody bound (escape cs ++ '"' :: rest) = .ok (cs, rest) := by
  induction cs generalizing bound with
  | nil =>
    obtain ⟨bound, rfl⟩ := Nat.exists_eq_succ_of_ne_zero (Nat.ne_of_gt (Nat.zero_lt_of_lt h))
    rfl
  | cons c cs ih =>
    obtain ⟨bound, rfl⟩ := Nat.exists_eq_succ_of_ne_zero (Nat.ne_of_gt (Nat.zero_lt_of_lt h))
    have hpos : 0 < (escapeChar c).length := by
      unfold escapeChar
      split_ifs <;> exact Nat.zero_lt_succ _
    have hlength : (escape cs).length < bound := by
      rw [escape, List.flatMap_cons, List.length_append] at h
      rw [escape]
      omega
    show readBody _ (escapeChar c ++ escape cs ++ _) = _
    rw [List.append_assoc, readBody_escapeChar, ih hlength]
    rfl

/-- A string literal reads as its string. -/
theorem readString_quote (s : String) (rest : List Char) :
    readString (escape s.toList ++ '"' :: rest) = .ok (s, rest) := by
  have hlength : (escape s.toList).length < (escape s.toList ++ '"' :: rest).length + 1 := by
    rw [List.length_append]
    omega
  rw [readString, readBody_escape s.toList rest hlength]
  show Except.ok (String.ofList s.toList, rest) = _
  rw [String.ofList_toList]

/-! ### Integers -/

/-- What may follow a value in a text: nothing, or a mark. -/
def Stops (rest : List Char) : Prop :=
  ∀ c ∈ rest.head?, c = ',' ∨ c = ']' ∨ c = '\x7d'

theorem stops_cons {c : Char} {rest : List Char} (h : c = ',' ∨ c = ']' ∨ c = '\x7d') :
    Stops (c :: rest) := by
  rintro d hd
  obtain rfl := Option.some.inj hd
  exact h

theorem stops_nil : Stops [] := by
  rintro c ⟨⟩

theorem skipBlanks_cons {c : Char} {cs : List Char} (h : isBlank c = false) :
    skipBlanks (c :: cs) = c :: cs := by
  rw [skipBlanks, List.dropWhile_cons_of_neg (by simp [h])]

theorem Stops.skipBlanks {rest : List Char} (h : Stops rest) : skipBlanks rest = rest := by
  cases rest with
  | nil => rfl
  | cons c cs =>
    refine skipBlanks_cons ?_
    rcases h c rfl with rfl | rfl | rfl <;> rfl

/-- A run of digits ends at a mark. -/
theorem Stops.span {rest digits : List Char} (h : Stops rest)
    (hdigits : ∀ c ∈ digits, Text.isDigit c = true) :
    (digits ++ rest).span Text.isDigit = (digits, rest) := by
  have hother : rest.takeWhile Text.isDigit = [] ∧ rest.dropWhile Text.isDigit = rest := by
    cases rest with
    | nil => exact ⟨rfl, rfl⟩
    | cons c cs =>
      have hc : Text.isDigit c = false := by
        rcases h c rfl with rfl | rfl | rfl <;> rfl
      rw [List.takeWhile_cons_of_neg (by simp [hc]), List.dropWhile_cons_of_neg (by simp [hc])]
      exact ⟨rfl, rfl⟩
  rw [List.span_eq_takeWhile_dropWhile, List.takeWhile_append_of_pos hdigits,
    List.dropWhile_append_of_pos hdigits, hother.1, hother.2, List.append_nil]

theorem Stops.readFraction {rest : List Char} (h : Stops rest) :
    readFraction rest = .ok (none, rest) := by
  unfold Json.readFraction
  split
  · next rest => exact absurd (h '.' rfl) (by decide)
  · rfl

theorem Stops.readExponent {rest : List Char} (h : Stops rest) :
    readExponent rest = .ok (none, rest) := by
  cases rest with
  | nil => rfl
  | cons c cs =>
    have hmark : ¬(c = 'e' ∨ c = 'E') := by
      rcases h c rfl with rfl | rfl | rfl <;> decide
    unfold Json.readExponent
    exact if_neg hmark

/-- The first digit of a positive number is not zero. -/
theorem head?_decimal {n : Nat} (h : 0 < n) : (Text.decimal n).head? ≠ some '0' := by
  unfold Text.decimal
  induction n using Nat.strong_induction_on with
  | h n ih =>
    by_cases hlt : n < 10
    · rw [Nat.toDigits_of_lt_base hlt]
      interval_cases n <;> decide
    · rw [Nat.toDigits_of_base_le (by decide) (by omega),
        List.head?_append_of_ne_nil _ Nat.toDigits_ne_nil]
      exact ih (n / 10) (by omega) (by omega)

theorem digitsValue_decimal (n : Nat) : digitsValue (Text.decimal n) = n := by
  have hread : Text.naturalFrom? 10 0 (Text.decimal n) = some n := by
    rw [Text.naturalFrom?_of_digits fun c hc => Text.isDigit_of_mem_decimal hc, Text.decimal,
      Nat.ofDigitChars_toDigits (by decide) (by decide)]
  rw [digitsValue, hread]
  rfl

/-- The integers that are written and read without becoming floating point numbers. -/
def IsInt64 (n : Int) : Prop :=
  Text.int64Min ≤ n ∧ n < UInt64.size

theorem numberOf_decimal {n : Int} (h : IsInt64 n) :
    numberOf (decide (n < 0)) (Text.decimal n.natAbs) none none = .ok (.integer n) := by
  unfold IsInt64 Text.int64Min at h
  unfold numberOf
  simp only [digitsValue_decimal]
  by_cases hneg : n < 0
  · have hrange : 0 < n.natAbs ∧ n.natAbs ≤ Text.int64Min.natAbs := by
      unfold Text.int64Min
      omega
    rw [if_pos (decide_eq_true hneg), if_pos hrange]
    congr 2
    omega
  · have hrange : n.natAbs < UInt64.size := by omega
    rw [if_neg (by simpa using hneg), if_pos hrange]
    congr 2
    omega

/-- A number after its sign. -/
def readUnsigned (negative : Bool) (cs : List Char) : Except ReadError (Number × List Char) :=
  match cs.span Text.isDigit with
  | ([], _) => throw .badNumber
  | (whole, rest) => do
    if whole.head? = some '0' ∧ 1 < whole.length then throw .badNumber
    let (fraction, rest) ← readFraction rest
    let (exponent, rest) ← readExponent rest
    return (← numberOf negative whole fraction exponent, rest)

theorem readNumber_minus (cs : List Char) : readNumber ('-' :: cs) = readUnsigned true cs :=
  rfl

theorem readNumber_of_ne {c : Char} (h : c ≠ '-') (cs : List Char) :
    readNumber (c :: cs) = readUnsigned false (c :: cs) := by
  unfold readNumber readUnsigned
  split
  next negative digits hsign =>
    split at hsign
    · next hcons => exact absurd (List.cons.inj hcons).1 h
    · obtain ⟨rfl, rfl⟩ := Prod.mk.inj hsign
      rfl

/-- Digits in front of a mark are a number, unless a zero stands in front of them. -/
theorem readUnsigned_decimal {n : Nat} {rest : List Char} (hrest : Stops rest) (negative : Bool) :
    readUnsigned negative (Text.decimal n ++ rest) =
      (numberOf negative (Text.decimal n) none none).map fun m => (m, rest) := by
  have hzero : ¬((Text.decimal n).head? = some '0' ∧ 1 < (Text.decimal n).length) := by
    rintro ⟨hhead, hlength⟩
    rcases Nat.eq_zero_or_pos n with rfl | hpos
    · exact absurd hlength (by decide)
    · exact head?_decimal hpos hhead
  rw [readUnsigned, hrest.span fun c hc => Text.isDigit_of_mem_decimal hc]
  cases hdigits : Text.decimal n with
  | nil => exact absurd hdigits Nat.toDigits_ne_nil
  | cons c cs =>
    rw [hdigits] at hzero
    simp only [if_neg hzero, hrest.readFraction]
    show (readExponent rest).bind _ = _
    rw [hrest.readExponent]
    rfl

/-- An integer in front of a mark reads as itself. -/
theorem readNumber_integer {n : Int} (h : IsInt64 n) {rest : List Char} (hrest : Stops rest) :
    readNumber (Text.integer n ++ rest) = .ok (.integer n, rest) := by
  have hnumber := numberOf_decimal h
  unfold Text.integer
  split
  · next hneg =>
    rw [decide_eq_true hneg] at hnumber
    rw [List.cons_append, readNumber_minus, readUnsigned_decimal hrest, hnumber]
    rfl
  · next hneg =>
    rw [decide_eq_false hneg] at hnumber
    have hread : readNumber (Text.decimal n.natAbs ++ rest) =
        readUnsigned false (Text.decimal n.natAbs ++ rest) := by
      cases hdigits : Text.decimal n.natAbs with
      | nil => exact absurd hdigits Nat.toDigits_ne_nil
      | cons c cs =>
        have hc : Text.isDigit c = true :=
          Text.isDigit_of_mem_decimal (hdigits ▸ List.mem_cons_self)
        exact readNumber_of_ne (by rintro rfl; cases hc) _
    rw [hread, readUnsigned_decimal hrest, hnumber]
    rfl

/-! ### Trees -/

mutual

/-- The trees that read back: numbers are integers of 64 bits, and arrays and objects are nested no
deeper than the given number. -/
def Value.Fits : Nat → Value → Prop
  | _, .number (.integer n) => IsInt64 n
  | _, .number (.float _) => False
  | 0, .array _ => False
  | depth + 1, .array items => ItemsFit depth items
  | 0, .object _ => False
  | depth + 1, .object members => MembersFit depth members
  | _, _ => True

/-- `Fits` for every item. -/
def Value.ItemsFit : Nat → List Value → Prop
  | _, [] => True
  | depth, v :: rest => v.Fits depth ∧ ItemsFit depth rest

/-- `Fits` for the value of every member. -/
def Value.MembersFit : Nat → List (String × Value) → Prop
  | _, [] => True
  | depth, (_, v) :: rest => v.Fits depth ∧ MembersFit depth rest

end

theorem Value.itemsFit_iff {depth : Nat} {items : List Value} :
    ItemsFit depth items ↔ ∀ v ∈ items, v.Fits depth := by
  induction items with
  | nil => simp [ItemsFit]
  | cons v items ih => rw [ItemsFit, ih, List.forall_mem_cons]

theorem Value.membersFit_iff {depth : Nat} {members : List (String × Value)} :
    MembersFit depth members ↔ ∀ m ∈ members, m.2.Fits depth := by
  induction members with
  | nil => simp [MembersFit]
  | cons m members ih =>
    obtain ⟨name, v⟩ := m
    rw [MembersFit, ih, List.forall_mem_cons]

variable {depth bound : Nat} {v : Value} {c : Char} {cs rest : List Char}

theorem isBlank_of_isDigit (h : Text.isDigit c = true) : isBlank c = false := by
  by_contra hblank
  simp only [isBlank, Bool.not_eq_false, Bool.or_eq_true, decide_eq_true_eq] at hblank
  rcases hblank with ((rfl | rfl) | rfl) | rfl <;> cases h

/-- A text begins with a character that is no blank and does not close an array. -/
theorem Value.chars_eq_cons (h : v.Fits depth) :
    ∃ c cs, v.chars = c :: cs ∧ isBlank c = false ∧ c ≠ ']' := by
  match v with
  | .null => exact ⟨_, _, rfl, by decide, by decide⟩
  | .bool true => exact ⟨_, _, rfl, by decide, by decide⟩
  | .bool false => exact ⟨_, _, rfl, by decide, by decide⟩
  | .string s => exact ⟨_, _, rfl, by decide, by decide⟩
  | .array items => exact ⟨_, _, rfl, by decide, by decide⟩
  | .object members => exact ⟨_, _, rfl, by decide, by decide⟩
  | .number (.float x) => exact absurd h (by simp [Value.Fits])
  | .number (.integer n) =>
    show ∃ c cs, Text.integer n = c :: cs ∧ _
    cases hinteger : Text.integer n with
    | nil =>
      unfold Text.integer at hinteger
      split at hinteger
      · cases hinteger
      · exact absurd hinteger Nat.toDigits_ne_nil
    | cons c cs =>
      refine ⟨c, cs, rfl, ?_⟩
      rcases Text.isDigit_or_eq_of_mem_integer (hinteger ▸ List.mem_cons_self) with hdigit | rfl
      · exact ⟨isBlank_of_isDigit hdigit, by rintro rfl; cases hdigit⟩
      · exact ⟨by decide, by decide⟩

/-- A string literal is read as a string. -/
theorem readValue_quote (s : String) :
    readValue (bound + 1) depth (quote s ++ rest) = .ok (.string s, rest) := by
  have hquote : quote s ++ rest = '"' :: (escape s.toList ++ '"' :: rest) := by
    simp [quote]
  rw [hquote]
  show (readString (escape s.toList ++ '"' :: rest)).bind _ = _
  rw [readString_quote]
  rfl

/-- An integer is read as a number. -/
theorem readValue_integer {n : Int} (h : IsInt64 n) (hrest : Stops rest) :
    readValue (bound + 1) depth (Text.integer n ++ rest) = .ok (.number (.integer n), rest) := by
  have hnumber := readNumber_integer h hrest
  have hfits : (Value.number (.integer n)).Fits depth := by
    rw [Value.Fits]
    exact h
  obtain ⟨c, cs, hchars, hblank, -⟩ := Value.chars_eq_cons hfits
  have hinteger : Text.integer n = c :: cs := hchars
  have hfirst : c = '-' ∨ Text.isDigit c = true :=
    (Text.isDigit_or_eq_of_mem_integer (hinteger ▸ List.mem_cons_self)).symm
  rw [hinteger, List.cons_append] at hnumber ⊢
  unfold readValue
  rw [skipBlanks_cons hblank]
  split
  case h_1 hcons => cases hcons
  case h_8 c' cs' _ _ _ _ _ _ hcons =>
    obtain ⟨rfl, rfl⟩ := List.cons.inj hcons
    rw [if_pos hfirst, hnumber]
    rfl
  -- all other texts begin with neither a sign nor a digit
  all_goals
    next hcons =>
      obtain rfl := (List.cons.inj hcons).1
      exact absurd hfirst (by decide)

/-- An array with items is read item by item. -/
theorem readValue_array (h : isBlank c = false) (hclose : c ≠ ']') :
    readValue (bound + 1) (depth + 1) ('[' :: c :: cs) =
      (readItems bound depth (c :: cs)).bind fun (items, rest) => .ok (.array items, rest) := by
  have hskip : skipBlanks ('[' :: c :: cs) = '[' :: c :: cs := skipBlanks_cons (by decide)
  rw [readValue, hskip]
  simp only [skipBlanks_cons h]
  split
  · next hcons => exact absurd (List.cons.inj hcons).1 hclose
  · rfl

/-- An object with members is read member by member. -/
theorem readValue_object :
    readValue (bound + 1) (depth + 1) ('\x7b' :: '"' :: cs) =
      (readMembers bound depth ('"' :: cs)).bind fun (members, rest) =>
        .ok (.object members, rest) :=
  rfl

/-- An item in front of a comma is followed by the other items. -/
theorem readItems_comma (h : readValue bound depth cs = .ok (v, ',' :: rest)) :
    readItems (bound + 1) depth cs =
      (readItems bound depth rest).bind fun (items, rest) => .ok (v :: items, rest) := by
  rw [readItems, h]
  rfl

/-- The last item stands in front of a bracket. -/
theorem readItems_close (h : readValue bound depth cs = .ok (v, ']' :: rest)) :
    readItems (bound + 1) depth cs = .ok ([v], rest) := by
  rw [readItems, h]
  rfl

/-- A member begins with its name. -/
theorem readMembers_quote (name : String) :
    readMembers (bound + 1) depth (quote name ++ ':' :: cs) =
      (readValue bound depth cs).bind fun (v, rest) =>
        match skipBlanks rest with
        | ',' :: rest => (readMembers bound depth rest).bind fun (members, rest) =>
          .ok ((name, v) :: members, rest)
        | '\x7d' :: rest => .ok ([(name, v)], rest)
        | [] => .error .unexpectedEnd
        | _ => .error .unexpectedCharacter := by
  have hquote : quote name ++ ':' :: cs = '"' :: (escape name.toList ++ '"' :: ':' :: cs) := by
    simp [quote]
  rw [hquote]
  show (readString (escape name.toList ++ '"' :: ':' :: cs)).bind _ = _
  rw [readString_quote]
  rfl

theorem Value.itemChars_cons_cons (v w : Value) (items : List Value) :
    itemChars (v :: w :: items) = v.chars ++ ',' :: itemChars (w :: items) :=
  rfl

theorem Value.memberChars_cons_cons (name : String) (v : Value) (m : String × Value)
    (members : List (String × Value)) :
    memberChars ((name, v) :: m :: members) =
      quote name ++ ':' :: v.chars ++ ',' :: memberChars (m :: members) :=
  rfl

/-- An array whose items are read is read. -/
theorem readValue_items {items : List Value} (h : v.Fits depth)
    (hitems : readItems bound depth (Value.itemChars (v :: items) ++ ']' :: rest) =
      .ok (v :: items, rest)) :
    readValue (bound + 1) (depth + 1) ((Value.array (v :: items)).chars ++ rest) =
      .ok (.array (v :: items), rest) := by
  obtain ⟨c, cs, hchars, hblank, hclose⟩ := Value.chars_eq_cons h
  obtain ⟨cs, hitemChars⟩ : ∃ cs, Value.itemChars (v :: items) = c :: cs := by
    cases items with
    | nil => exact ⟨_, hchars⟩
    | cons w items => exact ⟨cs ++ _, by rw [Value.itemChars_cons_cons, hchars]; rfl⟩
  have harray : (Value.array (v :: items)).chars ++ rest =
      '[' :: (Value.itemChars (v :: items) ++ ']' :: rest) := by
    simp [Value.chars]
  rw [hitemChars] at harray hitems
  rw [harray, List.cons_append, readValue_array hblank hclose, ← List.cons_append, hitems]
  rfl

/-- An object whose members are read is read. -/
theorem readValue_members {name : String} {members : List (String × Value)}
    (hmembers : readMembers bound depth
      (Value.memberChars ((name, v) :: members) ++ '\x7d' :: rest) =
        .ok ((name, v) :: members, rest)) :
    readValue (bound + 1) (depth + 1) ((Value.object ((name, v) :: members)).chars ++ rest) =
      .ok (.object ((name, v) :: members), rest) := by
  obtain ⟨cs, hmemberChars⟩ : ∃ cs, Value.memberChars ((name, v) :: members) = '"' :: cs := by
    cases members with
    | nil => exact ⟨_, rfl⟩
    | cons m members => exact ⟨_, rfl⟩
  have hobject : (Value.object ((name, v) :: members)).chars ++ rest =
      '\x7b' :: (Value.memberChars ((name, v) :: members) ++ '\x7d' :: rest) := by
    simp [Value.chars]
  rw [hmemberChars] at hobject hmembers
  rw [hobject, List.cons_append, readValue_object, ← List.cons_append, hmembers]
  rfl

mutual

/-- A tree in front of a mark reads as itself. -/
theorem readValue_chars {depth bound : Nat} {v : Value} {rest : List Char} (h : v.Fits depth)
    (hrest : Stops rest) (hbound : v.chars.length ≤ bound) :
    readValue bound depth (v.chars ++ rest) = .ok (v, rest) := by
  obtain ⟨bound, rfl⟩ : ∃ b, bound = b + 1 := by
    obtain ⟨c, cs, hchars, -⟩ := Value.chars_eq_cons h
    rw [hchars, List.length_cons] at hbound
    exact ⟨bound - 1, by omega⟩
  -- the cases follow the trees that fit, and an empty list has no items to read
  match v, depth with
  | .null, _ => rfl
  | .bool true, _ => rfl
  | .bool false, _ => rfl
  | .number (.float x), _ => exact absurd h (by simp [Value.Fits])
  | .number (.integer n), _ =>
    rw [Value.Fits] at h
    exact readValue_integer h hrest
  | .string s, _ => exact readValue_quote s
  | .array items, 0 => exact absurd h (by simp [Value.Fits])
  | .object members, 0 => exact absurd h (by simp [Value.Fits])
  | .array [], depth + 1 => rfl
  | .object [], depth + 1 => rfl
  | .array (v :: items), depth + 1 =>
    rw [Value.Fits] at h
    have hlength : (Value.itemChars (v :: items)).length + 1 ≤ bound := by
      rw [Value.chars] at hbound
      simp only [List.length_append, List.length_cons, List.length_nil] at hbound
      omega
    exact readValue_items h.1 (readItems_chars h rest hlength)
  | .object ((name, v) :: members), depth + 1 =>
    rw [Value.Fits] at h
    have hlength : (Value.memberChars ((name, v) :: members)).length + 1 ≤ bound := by
      rw [Value.chars] at hbound
      simp only [List.length_append, List.length_cons, List.length_nil] at hbound
      omega
    exact readValue_members (readMembers_chars h rest hlength)

theorem readItems_chars {depth bound : Nat} {v : Value} {items : List Value}
    (h : Value.ItemsFit depth (v :: items)) (rest : List Char)
    (hbound : (Value.itemChars (v :: items)).length + 1 ≤ bound) :
    readItems bound depth (Value.itemChars (v :: items) ++ ']' :: rest) =
      .ok (v :: items, rest) := by
  obtain ⟨bound, rfl⟩ : ∃ b, bound = b + 1 := ⟨bound - 1, by omega⟩
  rw [Value.ItemsFit] at h
  match items with
  | [] =>
    rw [Value.itemChars] at hbound ⊢
    exact readItems_close (readValue_chars h.1 (stops_cons (by decide)) (by omega))
  | w :: items =>
    have hlength : v.chars.length ≤ bound ∧ (Value.itemChars (w :: items)).length + 1 ≤ bound := by
      obtain ⟨c, cs, hchars, -⟩ := Value.chars_eq_cons h.1
      rw [Value.itemChars_cons_cons, List.length_append, hchars] at hbound
      simp only [List.length_cons] at hbound
      rw [hchars, List.length_cons]
      omega
    have hcomma : Stops (',' :: (Value.itemChars (w :: items) ++ ']' :: rest)) :=
      stops_cons (by decide)
    have hitem := readValue_chars h.1 hcomma hlength.1
    rw [Value.itemChars_cons_cons, List.append_assoc, List.cons_append, readItems_comma hitem,
      readItems_chars h.2 rest hlength.2]
    rfl

theorem readMembers_chars {depth bound : Nat} {name : String} {v : Value}
    {members : List (String × Value)}
    (h : Value.MembersFit depth ((name, v) :: members)) (rest : List Char)
    (hbound : (Value.memberChars ((name, v) :: members)).length + 1 ≤ bound) :
    readMembers bound depth (Value.memberChars ((name, v) :: members) ++ '\x7d' :: rest) =
      .ok ((name, v) :: members, rest) := by
  obtain ⟨bound, rfl⟩ : ∃ b, bound = b + 1 := ⟨bound - 1, by omega⟩
  rw [Value.MembersFit] at h
  -- the last member stands in front of the brace, any other in front of a comma
  match members with
  | [] =>
    rw [Value.memberChars] at hbound ⊢
    have hlength : v.chars.length ≤ bound := by
      simp only [List.length_append, List.length_cons] at hbound
      omega
    rw [List.append_assoc, List.cons_append, readMembers_quote,
      readValue_chars h.1 (stops_cons (by decide)) hlength]
    rfl
  | (other, w) :: members =>
    have hlength : v.chars.length ≤ bound ∧
        (Value.memberChars ((other, w) :: members)).length + 1 ≤ bound := by
      rw [Value.memberChars_cons_cons] at hbound
      simp only [List.length_append, List.length_cons] at hbound
      omega
    have hcomma : Stops (',' :: (Value.memberChars ((other, w) :: members) ++ '\x7d' :: rest)) :=
      stops_cons (by decide)
    have hmember := readValue_chars h.1 hcomma hlength.1
    have hmembers := readMembers_chars h.2 rest hlength.2
    have hchars : Value.memberChars ((name, v) :: (other, w) :: members) ++ '\x7d' :: rest =
        quote name ++ ':' :: (v.chars ++ ',' ::
          (Value.memberChars ((other, w) :: members) ++ '\x7d' :: rest)) := by
      simp [Value.memberChars]
    rw [hchars, readMembers_quote, hmember]
    show (readMembers bound depth _).bind _ = _
    rw [hmembers]
    rfl

end

/-- **A tree whose numbers are integers of 64 bits reads back from its text**, as long as it is
nested no deeper than the reader goes. -/
theorem read_text (h : v.Fits depthLimit) : read v.text = .ok v := by
  have hvalue : readValue (2 * v.chars.length + 1) depthLimit v.chars = .ok (v, []) := by
    have hbound : v.chars.length ≤ 2 * v.chars.length + 1 := by omega
    have hchars := readValue_chars h stops_nil hbound
    rwa [List.append_nil] at hchars
  rw [read, Value.text, String.toList_ofList, readChars, hvalue]
  rfl

end ClusterWatch.Json
