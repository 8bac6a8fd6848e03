import ClusterWatch.Json.Outline
import ClusterWatch.Json.Single
import ClusterWatch.Proofs.Json.RoundTrip
import ClusterWatch.Proofs.Sequencing
import Mathlib.Data.List.DropRight
import Mathlib.Data.List.TakeWhile
/-!
# Outlines of texts that can be read

Whoever passes over values does not ask what they are, and so accepts more texts than the reader of
whole trees. On a text that holds a tree, both find the same.

- `Reads`: how a value was read, by how its text begins. `readItems_cases` and `readMembers_cases`
  say the same of items and of members.
- `skips_of_reads`: what can be read can be passed over, and leaves the same text.
- `truth?_textBefore`: the text of a value spells the truth value that is read from it.

Main result: `soleText?_of_readChars`.
-/

namespace ClusterWatch.Json

variable {bound depth : Nat} {cs rest : List Char}

/-! ### Literals -/

theorem skipBody_unit {unit : Nat} (h : readUnit cs = .ok (unit, rest)) :
    skipBody ('\\' :: 'u' :: cs) = skipBody rest := by
  unfold readUnit at h
  split at h
  · next a b c d _ =>
    split at h
    · next unit' hunit =>
      obtain ⟨-, rfl⟩ := Prod.mk.inj (Except.ok.inj h)
      rw [skipBody, hunit]
      rfl
    · cases h
  · cases h

theorem skipBody_unicode {c : Char} (h : readUnicode cs = .ok (c, rest)) :
    skipBody ('\\' :: 'u' :: cs) = skipBody rest := by
  obtain ⟨⟨unit, after⟩, hunit, h⟩ := exists_of_bind_eq_ok h
  rw [skipBody_unit hunit]
  dsimp only at h
  split at h
  · -- the other half of the character is passed over as an escape of its own
    split at h
    · obtain ⟨⟨low, after'⟩, hlow, h⟩ := exists_of_bind_eq_ok h
      rw [skipBody_unit hlow]
      dsimp only at h
      split at h
      · obtain ⟨-, rfl⟩ := Prod.mk.inj (Except.ok.inj h)
        rfl
      · cases h
    · cases h
  · split at h
    · cases h
    · obtain ⟨-, rfl⟩ := Prod.mk.inj (Except.ok.inj h)
      rfl

theorem skipBody_escape {c : Char} (h : readEscape cs = .ok (c, rest)) :
    skipBody ('\\' :: cs) = skipBody rest := by
  unfold readEscape at h
  split at h
  case h_9 => exact skipBody_unicode h
  case h_10 => cases h
  all_goals
    obtain ⟨-, rfl⟩ := Prod.mk.inj (Except.ok.inj h)
    rfl

theorem skipBody_plain {c : Char} (hquote : c ≠ '"') (hback : c ≠ '\\') :
    skipBody (c :: cs) = if c.toNat < 0x20 then none else skipBody cs := by
  rw [skipBody]
  · exact hquote
  · exact fun _ _ _ _ _ h => absurd h hback
  · exact fun _ _ h => absurd h hback

/-- The body of a literal ends at the same quote. -/
theorem skipBody_of_readBody {body : List Char} (h : readBody bound cs = .ok (body, rest)) :
    skipBody cs = some rest := by
  induction bound generalizing cs body with
  | zero => cases h
  | succ bound ih =>
    unfold readBody at h
    split at h
    · cases h
    · cases h
    · obtain ⟨-, rfl⟩ := Prod.mk.inj (Except.ok.inj h)
      rfl
    · next bound' cs' heq =>
      obtain rfl := Nat.succ.inj heq
      obtain ⟨⟨c, after⟩, hescape, h⟩ := exists_of_bind_eq_ok h
      obtain ⟨⟨body', after'⟩, hbody, h⟩ := exists_of_bind_eq_ok h
      obtain ⟨-, rfl⟩ := Prod.mk.inj (Except.ok.inj h)
      rw [skipBody_escape hescape]
      exact ih hbody
    · next bound' c cs' hquote hback heq =>
      obtain rfl := Nat.succ.inj heq
      split at h
      · cases h
      · next hcontrol =>
        obtain ⟨⟨body', after'⟩, hbody, h⟩ := exists_of_bind_eq_ok h
        obtain ⟨-, rfl⟩ := Prod.mk.inj (Except.ok.inj h)
        rw [skipBody_plain hquote hback, if_neg hcontrol]
        exact ih hbody

theorem skipBody_of_readString {s : String} (h : readString cs = .ok (s, rest)) :
    skipBody cs = some rest := by
  obtain ⟨⟨body, after⟩, hbody, h⟩ := exists_of_bind_eq_ok h
  obtain ⟨-, rfl⟩ := Prod.mk.inj (Except.ok.inj h)
  exact skipBody_of_readBody hbody

theorem skipUnsigned_of_readUnsigned {negative : Bool} {n : Number}
    (h : readUnsigned negative cs = .ok (n, rest)) : skipUnsigned cs = some rest := by
  unfold readUnsigned at h
  unfold skipUnsigned
  generalize cs.span Text.isDigit = digits at h ⊢
  obtain ⟨_ | ⟨digit, digits⟩, after⟩ := digits
  · cases h
  · dsimp only at h ⊢
    split at h
    · cases h
    · next hzero =>
      obtain ⟨⟨fraction, after'⟩, hfraction, h⟩ := exists_of_bind_eq_ok h
      obtain ⟨⟨exponent, after''⟩, hexponent, h⟩ := exists_of_bind_eq_ok h
      obtain ⟨m, -, h⟩ := exists_of_bind_eq_ok h
      obtain ⟨-, rfl⟩ := Prod.mk.inj (Except.ok.inj h)
      rw [if_neg hzero, hfraction]
      show (readExponent after').toOption.map _ = _
      rw [hexponent]
      rfl

theorem skipNumber_of_readNumber {n : Number} (h : readNumber cs = .ok (n, rest)) :
    skipNumber cs = some rest := by
  unfold skipNumber
  split
  · exact skipUnsigned_of_readUnsigned (readNumber_minus _ ▸ h)
  · next hplain =>
    cases cs with
    | nil => cases h
    | cons c cs =>
      rw [readNumber_of_ne (fun hc => hplain cs (hc ▸ rfl))] at h
      exact skipUnsigned_of_readUnsigned h

/-! ### How values are read -/

/-- How a truth value is spelled. -/
def spelling : Bool → List Char
  | true => ['t', 'r', 'u', 'e']
  | false => ['f', 'a', 'l', 's', 'e']

/-- How a value was read, by how its text begins. -/
inductive Reads (bound : Nat) : Nat → List Char → Value → List Char → Prop
  | null {depth : Nat} {cs rest : List Char} : skipBlanks cs = 'n' :: 'u' :: 'l' :: 'l' :: rest →
      Reads bound depth cs .null rest
  | bool {depth : Nat} {cs rest : List Char} {b : Bool} : skipBlanks cs = spelling b ++ rest →
      Reads bound depth cs (.bool b) rest
  | string {depth : Nat} {cs after rest : List Char} {s : String} :
      skipBlanks cs = '"' :: after → readString after = .ok (s, rest) →
      Reads bound depth cs (.string s) rest
  | noItems {depth : Nat} {cs after rest : List Char} :
      skipBlanks cs = '[' :: after → skipBlanks after = ']' :: rest →
      Reads bound (depth + 1) cs (.array []) rest
  | items {depth : Nat} {cs after rest : List Char} {items : List Value} :
      skipBlanks cs = '[' :: after → (∀ rest, skipBlanks after ≠ ']' :: rest) →
      readItems bound depth (skipBlanks after) = .ok (items, rest) →
      Reads bound (depth + 1) cs (.array items) rest
  | noMembers {depth : Nat} {cs after rest : List Char} :
      skipBlanks cs = '\x7b' :: after → skipBlanks after = '\x7d' :: rest →
      Reads bound (depth + 1) cs (.object []) rest
  | members {depth : Nat} {cs after rest : List Char} {members : List (String × Value)} :
      skipBlanks cs = '\x7b' :: after → (∀ rest, skipBlanks after ≠ '\x7d' :: rest) →
      readMembers bound depth (skipBlanks after) = .ok (members, rest) →
      Reads bound (depth + 1) cs (.object members) rest
  | number {depth : Nat} {cs after rest : List Char} {c : Char} {n : Number} :
      skipBlanks cs = c :: after → (c = '-' ∨ Text.isDigit c = true) →
      readNumber (c :: after) = .ok (n, rest) → Reads bound depth cs (.number n) rest

theorem reads_of_readValue {v : Value} (h : readValue (bound + 1) depth cs = .ok (v, rest)) :
    Reads bound depth cs v rest := by
  rw [readValue] at h
  split at h
  · cases h
  · next hnull =>
    obtain ⟨rfl, rfl⟩ := Prod.mk.inj (Except.ok.inj h)
    exact .null hnull
  · next htrue =>
    obtain ⟨rfl, rfl⟩ := Prod.mk.inj (Except.ok.inj h)
    exact .bool (b := true) htrue
  · next hfalse =>
    obtain ⟨rfl, rfl⟩ := Prod.mk.inj (Except.ok.inj h)
    exact .bool (b := false) hfalse
  · next hquote =>
    obtain ⟨⟨s, after⟩, hs, h⟩ := exists_of_bind_eq_ok h
    obtain ⟨rfl, rfl⟩ := Prod.mk.inj (Except.ok.inj h)
    exact .string hquote hs
  · next hopen =>
    cases depth with
    | zero => cases h
    | succ depth =>
      dsimp only at h
      split at h
      · next hclose =>
        obtain ⟨rfl, rfl⟩ := Prod.mk.inj (Except.ok.inj h)
        exact .noItems hopen hclose
      · next hmore =>
        obtain ⟨⟨items, after⟩, hitems, h⟩ := exists_of_bind_eq_ok h
        obtain ⟨rfl, rfl⟩ := Prod.mk.inj (Except.ok.inj h)
        exact .items hopen hmore hitems
  · next hopen =>
    cases depth with
    | zero => cases h
    | succ depth =>
      dsimp only at h
      split at h
      · next hclose =>
        obtain ⟨rfl, rfl⟩ := Prod.mk.inj (Except.ok.inj h)
        exact .noMembers hopen hclose
      · next hmore =>
        obtain ⟨⟨members, after⟩, hmembers, h⟩ := exists_of_bind_eq_ok h
        obtain ⟨rfl, rfl⟩ := Prod.mk.inj (Except.ok.inj h)
        exact .members hopen hmore hmembers
  · next c after _ _ _ _ _ _ hfirst =>
    split at h
    · next hdigit =>
      obtain ⟨⟨n, after'⟩, hn, h⟩ := exists_of_bind_eq_ok h
      obtain ⟨rfl, rfl⟩ := Prod.mk.inj (Except.ok.inj h)
      exact .number hfirst hdigit hn
    · cases h

theorem readItems_cases {items : List Value}
    (h : readItems (bound + 1) depth cs = .ok (items, rest)) :
    ∃ v left, readValue bound depth cs = .ok (v, left) ∧
      ((∃ more later, skipBlanks left = ',' :: more ∧
          readItems bound depth more = .ok (later, rest) ∧ items = v :: later) ∨
        skipBlanks left = ']' :: rest ∧ items = [v]) := by
  rw [readItems] at h
  obtain ⟨⟨v, left⟩, hv, h⟩ := exists_of_bind_eq_ok h
  refine ⟨v, left, hv, ?_⟩
  dsimp only at h
  split at h
  · next hcomma =>
    obtain ⟨⟨later, after⟩, hlater, h⟩ := exists_of_bind_eq_ok h
    obtain ⟨rfl, rfl⟩ := Prod.mk.inj (Except.ok.inj h)
    exact .inl ⟨_, _, hcomma, hlater, rfl⟩
  · next hclose =>
    obtain ⟨rfl, rfl⟩ := Prod.mk.inj (Except.ok.inj h)
    exact .inr ⟨hclose, rfl⟩
  · cases h
  · cases h

theorem readMembers_cases {members : List (String × Value)}
    (h : readMembers (bound + 1) depth cs = .ok (members, rest)) :
    ∃ quoted name after value v left, skipBlanks cs = '"' :: quoted ∧
      readString quoted = .ok (name, after) ∧ skipBlanks after = ':' :: value ∧
      readValue bound depth value = .ok (v, left) ∧
      ((∃ more later, skipBlanks left = ',' :: more ∧
          readMembers bound depth more = .ok (later, rest) ∧ members = (name, v) :: later) ∨
        skipBlanks left = '\x7d' :: rest ∧ members = [(name, v)]) := by
  rw [readMembers] at h
  split at h
  · next quoted hquote =>
    obtain ⟨⟨name, after⟩, hname, h⟩ := exists_of_bind_eq_ok h
    dsimp only at h
    split at h
    · next value hcolon =>
      obtain ⟨⟨v, left⟩, hv, h⟩ := exists_of_bind_eq_ok h
      refine ⟨quoted, name, after, value, v, left, hquote, hname, hcolon, hv, ?_⟩
      dsimp only at h
      split at h
      · next hcomma =>
        obtain ⟨⟨later, after'⟩, hlater, h⟩ := exists_of_bind_eq_ok h
        obtain ⟨rfl, rfl⟩ := Prod.mk.inj (Except.ok.inj h)
        exact .inl ⟨_, _, hcomma, hlater, rfl⟩
      · next hclose =>
        obtain ⟨rfl, rfl⟩ := Prod.mk.inj (Except.ok.inj h)
        exact .inr ⟨hclose, rfl⟩
      · cases h
      · cases h
    · cases h
    · cases h
  · cases h
  · cases h

/-! ### Passing over values -/

/-- What was read can be passed over, if the items and the members in it can. -/
theorem Reads.skip {v : Value}
    (hitems : ∀ depth cs rest items, readItems bound depth cs = .ok (items, rest) →
      skipItems bound cs = some rest)
    (hmembers : ∀ depth cs rest members, readMembers bound depth cs = .ok (members, rest) →
      skipMembers bound cs = some rest)
    (h : Reads bound depth cs v rest) : skipValue (bound + 1) cs = some rest := by
  rw [skipValue]
  cases h with
  | null hnull => simp only [hnull]
  | @bool _ _ _ b hb =>
    rw [hb]
    cases b with
    | true => rfl
    | false => rfl
  | string hquote hs =>
    simp only [hquote]
    exact skipBody_of_readString hs
  | noItems hopen hclose => simp only [hopen, hclose]
  | items hopen hmore hread =>
    simp only [hopen]
    exact hitems _ _ _ _ hread
  | noMembers hopen hclose => simp only [hopen, hclose]
  | members hopen hmore hread =>
    simp only [hopen]
    exact hmembers _ _ _ _ hread
  | number hfirst hdigit hn =>
    simp only [hfirst]
    split
    case h_8 heq =>
      obtain ⟨rfl, rfl⟩ := List.cons.inj heq
      rw [if_pos hdigit]
      exact skipNumber_of_readNumber hn
    case h_1 heq => cases heq
    -- the other values begin otherwise
    all_goals
      next heq =>
        obtain ⟨rfl, -⟩ := List.cons.inj heq
        exact absurd hdigit (by decide)

/-- What can be read can be passed over. -/
theorem skips_of_reads (bound : Nat) :
    (∀ depth cs rest v, readValue bound depth cs = .ok (v, rest) →
      skipValue bound cs = some rest) ∧
    (∀ depth cs rest items, readItems bound depth cs = .ok (items, rest) →
      skipItems bound cs = some rest) ∧
    ∀ depth cs rest members, readMembers bound depth cs = .ok (members, rest) →
      skipMembers bound cs = some rest := by
  -- the three readers call each other with less and less of the bound
  induction bound with
  | zero =>
    refine ⟨fun _ _ _ _ h => ?_, fun _ _ _ _ h => ?_, fun _ _ _ _ h => ?_⟩
    · rw [readValue] at h; cases h
    · rw [readItems] at h; cases h
    · rw [readMembers] at h; cases h
  | succ bound ih =>
    obtain ⟨hvalue, hitems, hmembers⟩ := ih
    refine ⟨fun depth cs rest v h => (reads_of_readValue h).skip hitems hmembers,
      fun depth cs rest items h => ?_, fun depth cs rest members h => ?_⟩
    · obtain ⟨v, left, hv, hrest⟩ := readItems_cases h
      rw [skipItems, hvalue _ _ _ _ hv, Option.map_some]
      obtain ⟨more, later, hcomma, hlater, -⟩ | ⟨hclose, -⟩ := hrest
      · simp only [hcomma]
        exact hitems _ _ _ _ hlater
      · simp only [hclose]
    · obtain ⟨quoted, name, after, value, v, left, hquote, hname, hcolon, hv, hrest⟩ :=
        readMembers_cases h
      rw [skipMembers]
      simp only [hquote, skipBody_of_readString hname, Option.map_some, hcolon,
        hvalue _ _ _ _ hv]
      obtain ⟨more, later, hcomma, hlater, -⟩ | ⟨hclose, -⟩ := hrest
      · simp only [hcomma]
        exact hmembers _ _ _ _ hlater
      · simp only [hclose]

theorem skipValue_of_readValue {v : Value} (h : readValue bound depth cs = .ok (v, rest)) :
    skipValue bound cs = some rest :=
  (skips_of_reads bound).1 _ _ _ _ h

/-! ### The texts of values -/

theorem skipBlanks_append {text more : List Char} (h : skipBlanks text ≠ []) :
    skipBlanks (text ++ more) = skipBlanks text ++ more := by
  induction text with
  | nil => exact absurd rfl h
  | cons c text ih =>
    unfold skipBlanks at h ih ⊢
    rw [List.cons_append, List.dropWhile_cons, List.dropWhile_cons] at *
    split
    · next hblank =>
      rw [if_pos hblank] at h
      exact ih h
    · rfl

theorem truth?_eq_some_iff {text : List Char} {b : Bool} :
    truth? text = some b ↔ skipBlanks text = spelling b := by
  unfold truth?
  split_ifs with htrue hfalse
  · cases b with
    | true => exact iff_of_true rfl htrue
    | false => rw [htrue]; decide
  · cases b with
    | true => rw [hfalse]; decide
    | false => exact iff_of_true rfl hfalse
  · cases b with
    | true => exact iff_of_false nofun htrue
    | false => exact iff_of_false nofun hfalse

/-- A truth value is read off its spelling, whatever follows. -/
theorem readValue_of_spelling {b : Bool} (h : skipBlanks cs = spelling b ++ rest) :
    readValue (bound + 1) depth cs = .ok (.bool b, rest) := by
  rw [readValue, h]
  cases b with
  | true => rfl
  | false => rfl

theorem spelling_of_readValue {b : Bool} (h : readValue bound depth cs = .ok (.bool b, rest)) :
    skipBlanks cs = spelling b ++ rest := by
  cases bound with
  | zero => rw [readValue] at h; cases h
  | succ bound =>
    cases reads_of_readValue h with
    | bool hb => exact hb

theorem textBefore_append (text rest : List Char) : textBefore (text ++ rest) rest = text := by
  simp [textBefore]

/-- The text of a value spells the truth value that is read from it. -/
theorem truth?_textBefore {v : Value} (h : readValue bound depth cs = .ok (v, rest)) :
    truth? (textBefore cs rest) = v.bool? := by
  refine Option.ext fun b => ?_
  have hbool : v.bool? = some b ↔ v = .bool b := by
    cases v <;> simp [Value.bool?]
  rw [truth?_eq_some_iff, hbool]
  constructor
  · -- the text is a part of what was read, and its spelling would have been read first
    intro hspelled
    have hcs : textBefore cs rest ++ cs.drop (cs.length - rest.length) = cs :=
      List.take_append_drop _ cs
    have hblanks : skipBlanks cs = spelling b ++ cs.drop (cs.length - rest.length) := by
      rw [← hspelled, ← skipBlanks_append, hcs]
      rw [hspelled]
      cases b <;> decide
    cases bound with
    | zero => rw [readValue] at h; cases h
    | succ bound =>
      rw [readValue_of_spelling hblanks] at h
      exact (Prod.mk.inj (Except.ok.inj h)).1.symm
  · rintro rfl
    obtain ⟨blanks, hblank, hcs⟩ : ∃ blanks, (∀ c ∈ blanks, isBlank c = true) ∧
        cs = blanks ++ spelling b ++ rest := by
      refine ⟨cs.takeWhile isBlank, fun c hc => List.mem_takeWhile_imp hc, ?_⟩
      rw [List.append_assoc, ← spelling_of_readValue h]
      exact List.takeWhile_append_dropWhile.symm
    rw [hcs, textBefore_append, skipBlanks, List.dropWhile_append_of_pos hblank]
    cases b <;> decide

/-! ### The value that matters -/

/-- The texts under the names of an object are those of its members. -/
theorem readTexts_of_readMembers {members : List (String × Value)}
    (h : readMembers bound depth cs = .ok (members, rest)) :
    ∃ texts, readTexts bound cs = some (texts, rest) ∧
      List.Forall₂ (fun t m => t.1 = m.1 ∧ truth? t.2 = m.2.bool?) texts members := by
  induction bound generalizing cs members with
  | zero => rw [readMembers] at h; cases h
  | succ bound ih =>
    obtain ⟨quoted, name, after, value, v, left, hquote, hname, hcolon, hv, hrest⟩ :=
      readMembers_cases h
    have htruth := truth?_textBefore hv
    have hskip := skipValue_of_readValue hv
    rw [readTexts]
    simp only [hquote]
    obtain ⟨more, later, hcomma, hlater, rfl⟩ | ⟨hclose, rfl⟩ := hrest
    · obtain ⟨texts, htexts, hsame⟩ := ih hlater
      refine ⟨(name, textBefore value left) :: texts, ?_, .cons ⟨rfl, htruth⟩ hsame⟩
      simp [hname, hcolon, hskip, hcomma, htexts, Except.toOption]
    · refine ⟨[(name, textBefore value left)], ?_, .cons ⟨rfl, htruth⟩ .nil⟩
      simp [hname, hcolon, hskip, hclose, Except.toOption]

theorem skipBlanks_skipBlanks (cs : List Char) : skipBlanks (skipBlanks cs) = skipBlanks cs :=
  List.dropWhile_idempotent _ cs

theorem readValue_skipBlanks (bound depth : Nat) (cs : List Char) :
    readValue bound depth (skipBlanks cs) = readValue bound depth cs := by
  cases bound with
  | zero => rw [readValue, readValue]
  | succ bound => rw [readValue, readValue, skipBlanks_skipBlanks]

theorem readItems_ne_nil {items : List Value} (h : readItems bound depth cs = .ok (items, rest)) :
    items ≠ [] := by
  cases bound with
  | zero => rw [readItems] at h; cases h
  | succ bound =>
    obtain ⟨v, left, -, ⟨more, later, -, -, rfl⟩ | ⟨-, rfl⟩⟩ := readItems_cases h
    · exact List.cons_ne_nil _ _
    · exact List.cons_ne_nil _ _

theorem readText_eq_none_of_close (h : skipBlanks cs = ']' :: rest) : readText bound cs = none := by
  cases bound with
  | zero => rfl
  | succ bound =>
    have hskip : skipValue bound cs = none := by
      cases bound with
      | zero => rw [skipValue]
      | succ bound => rw [skipValue, h]; rfl
    rw [readText, hskip]
    rfl

/-- The text of an item is found when there is no other. -/
theorem readText_of_readItems {v : Value} {items : List Value}
    (h : readItems bound depth (skipBlanks cs) = .ok (v :: items, rest)) :
    if items = [] then ∃ text, readText bound cs = some (text, rest) ∧ truth? text = v.bool?
    else readText bound cs = none := by
  cases bound with
  | zero => rw [readItems] at h; cases h
  | succ bound =>
    obtain ⟨w, left, hv, hrest⟩ := readItems_cases h
    rw [readValue_skipBlanks] at hv
    have hskip := skipValue_of_readValue hv
    rw [readText]
    obtain ⟨more, later, hcomma, hlater, hsame⟩ | ⟨hclose, hsame⟩ := hrest
    · obtain ⟨-, rfl⟩ := List.cons.inj hsame
      rw [if_neg (readItems_ne_nil hlater)]
      simp [hskip, hcomma]
    · obtain ⟨rfl, rfl⟩ := List.cons.inj hsame
      rw [if_pos rfl]
      exact ⟨textBefore cs left, by simp [hskip, hclose], truth?_textBefore hv⟩

/-- Only objects and arrays have a value that matters. -/
theorem soleText?_of_ne {c : Char} {after : List Char} (h : skipBlanks cs = c :: after)
    (hobject : c ≠ '\x7b') (harray : c ≠ '[') (name : String) : soleText? name cs = none := by
  have hnone : textsOf? name cs = none := by
    unfold textsOf?
    split
    · next heq => exact absurd (List.cons.inj (h.symm.trans heq)).1 hobject
    · next heq => exact absurd (List.cons.inj (h.symm.trans heq)).1 harray
    · rfl
  rw [soleText?, hnone]

/-- The only item of an array matters. -/
theorem soleText?_of_items {after : List Char} {items : List Value}
    (hopen : skipBlanks cs = '[' :: after)
    (hitems : readItems (2 * cs.length) depth (skipBlanks after) = .ok (items, rest))
    (hend : skipBlanks rest = []) (name : String) :
    (soleText? name cs).bind truth? = (single? name (.array items)).bind Value.bool? := by
  cases items with
  | nil => exact absurd rfl (readItems_ne_nil hitems)
  | cons v items =>
    have hfound := readText_of_readItems hitems
    split at hfound
    · next honly =>
      subst honly
      obtain ⟨text, htext, htruth⟩ := hfound
      simp [soleText?, textsOf?, hopen, htext, hend, single?, htruth]
    · next hmany =>
      obtain ⟨w, items, rfl⟩ := List.exists_cons_of_ne_nil hmany
      simp [soleText?, textsOf?, hopen, hfound, single?]

/-- The member that matters is the only one of its name, and so is its text. -/
theorem soleText?_of_members {after : List Char} {members : List (String × Value)}
    (hopen : skipBlanks cs = '\x7b' :: after) (hmore : ∀ rest, skipBlanks after ≠ '\x7d' :: rest)
    (hmembers : readMembers (2 * cs.length) depth (skipBlanks after) = .ok (members, rest))
    (hend : skipBlanks rest = []) (name : String) :
    (soleText? name cs).bind truth? = (single? name (.object members)).bind Value.bool? := by
  obtain ⟨texts, htexts, hsame⟩ := readTexts_of_readMembers hmembers
  have hfound : textsOf? name cs =
      some ((texts.filter fun m => m.1 == name).map (·.2), rest) := by
    simp only [textsOf?, hopen, htexts]
    rfl
  have hkept := List.rel_filter (p := fun m => m.1 == name) (q := fun m => m.1 == name)
    (fun _ _ h => iff_of_eq (congrArg (fun s => (s == name) = true) h.1)) hsame
  rw [soleText?, hfound, single?]
  generalize texts.filter _ = kept at hkept
  generalize members.filter _ = members' at hkept
  cases hkept with
  | nil => rfl
  | cons hone hothers =>
    cases hothers with
    | nil => simp [hend, hone.2]
    | cons _ _ => rfl

theorem readChars_eq_ok {v : Value} (h : readChars cs = .ok v) :
    ∃ rest, readValue (2 * cs.length + 1) depthLimit cs = .ok (v, rest) ∧ skipBlanks rest = [] := by
  obtain ⟨⟨w, rest⟩, hread, h⟩ := exists_of_bind_eq_ok h
  dsimp only at h
  split at h
  · next hend =>
    obtain rfl := Except.ok.inj h
    exact ⟨rest, hread, hend⟩
  · cases h

/-- **Both readings of a text agree.** When a text holds a tree, the only value that matters in its
outline spells the truth value that the tree has there. -/
theorem soleText?_of_readChars {v : Value} (h : readChars cs = .ok v) (name : String) :
    (soleText? name cs).bind truth? = (single? name v).bind Value.bool? := by
  obtain ⟨rest, hread, hend⟩ := readChars_eq_ok h
  cases reads_of_readValue hread with
  | null hnull => rw [soleText?_of_ne hnull (by decide) (by decide)]; rfl
  | @bool _ _ _ b hb =>
    have hnone : soleText? name cs = none := by
      cases b with
      | true => exact soleText?_of_ne hb (by decide) (by decide) name
      | false => exact soleText?_of_ne hb (by decide) (by decide) name
    rw [hnone]
    rfl
  | string hquote _ => rw [soleText?_of_ne hquote (by decide) (by decide)]; rfl
  | number hfirst hdigit _ =>
    have hne : ∀ d, ¬ (d = '-' ∨ Text.isDigit d = true) → _ ≠ d := fun d hd heq =>
      hd (heq ▸ hdigit)
    rw [soleText?_of_ne hfirst (hne _ (by decide)) (hne _ (by decide))]
    rfl
  | noItems hopen hclose =>
    simp [soleText?, textsOf?, hopen, readText_eq_none_of_close hclose, single?]
  | items hopen _ hitems => exact soleText?_of_items hopen hitems hend name
  | noMembers hopen hclose => simp [soleText?, textsOf?, hopen, hclose, single?]
  | members hopen hmore hmembers => exact soleText?_of_members hopen hmore hmembers hend name

end ClusterWatch.Json
