import ClusterWatch.Http.Message
import Mathlib.Data.List.TakeDrop
/-!
# Addresses below an address

The address of an operation is that of its server with a slash and a path after it. A slash ends
whatever names the machine, so that the longer text names the same machine; only blanks at the end
of the shorter one, which did not count there, would be in the way.

- `span_append`: what is read up to a character of some kind is read alike if more follows after
  such a character. Every step of the reader is of this kind.
- `Url.IsUsable`: the texts that name a machine, whatever follows them after a slash.
- `Url.SameMachine`: addresses on the same machine.
- `Request.to?_eq_some_iff`: the addresses of which a request is made.

Main result: `Url.IsUsable.sameMachine`, that the addresses below a usable one are on its machine.
-/

namespace ClusterWatch.Http

/-- What stops at the end of a text, or before it, stops there as well if the rest begins with a
character at which it stops. -/
theorem span_append {keep : Char → Bool} {c : Char} (hc : keep c = false) (cs rest : List Char) :
    (cs ++ c :: rest).span keep = ((cs.span keep).1, (cs.span keep).2 ++ c :: rest) := by
  simp only [List.span_eq_takeWhile_dropWhile]
  induction cs with
  | nil => simp [hc]
  | cons d cs ih =>
    obtain ⟨htake, hdrop⟩ := Prod.mk.inj ih
    cases hd : keep d
    · simp [hd]
    · simp [hd, htake, hdrop]

namespace Url

variable {scheme : String} {special : Bool} {cs rest : List Char}

/-- What a text spells can be computed. -/
theorem parse_eq_ok_iff {text : String} {u : Url} :
    parse text = .ok u ↔ (parse text).toOption = some u := by
  cases parse text <;> simp [Except.toOption]

/-! ### Characters that count -/

theorem dropWhile_reverse_append {isEdge : Char → Bool} {c : Char} (hc : isEdge c = false)
    (cs rest : List Char) :
    ∃ rest', ((cs ++ c :: rest).reverse.dropWhile isEdge).reverse = cs ++ c :: rest' := by
  rw [List.reverse_append, List.reverse_cons, List.append_assoc, List.dropWhile_append]
  split
  · exact ⟨[], by simp [hc]⟩
  · exact ⟨(rest.reverse.dropWhile isEdge).reverse, by simp⟩

/-- A text that does not end with a blank keeps all that counts of it when a slash follows. -/
theorem significant_append {c : Char} (hlast : cs.getLast? = some c) (hc : 0x20 < c.toNat)
    (rest : List Char) :
    ∃ rest', significant (cs ++ '/' :: rest) = significant cs ++ '/' :: rest' := by
  let isEdge (c : Char) : Bool := c.toNat ≤ 0x20
  have hedge : isEdge c = false := decide_eq_false (Nat.not_le.mpr hc)
  obtain ⟨before, rfl⟩ := List.getLast?_eq_some_iff.mp hlast
  -- the last character keeps both ends from being dropped beyond it
  obtain ⟨kept, hkept⟩ : ∃ kept, ∀ after, ((before ++ [c]) ++ after).dropWhile isEdge =
      kept ++ [c] ++ after := by
    refine ⟨before.dropWhile isEdge, fun after => ?_⟩
    rw [List.append_assoc, List.dropWhile_append]
    split
    · next hnone => simp [List.isEmpty_iff.mp hnone, hedge]
    · simp
  have hshort : (((before ++ [c]).dropWhile isEdge).reverse.dropWhile isEdge).reverse =
      kept ++ [c] := by
    have h := hkept []
    rw [List.append_nil, List.append_nil] at h
    simp [h, hedge]
  have hslash : isEdge '/' = false := by decide
  obtain ⟨rest', hlong⟩ := dropWhile_reverse_append hslash (kept ++ [c]) rest
  refine ⟨rest'.filter fun c => c ≠ '\t' && c ≠ '\n' && c ≠ '\r', ?_⟩
  show List.filter _ (((before ++ [c] ++ '/' :: rest).dropWhile isEdge).reverse.dropWhile
    isEdge).reverse = List.filter _ (((before ++ [c]).dropWhile isEdge).reverse.dropWhile
    isEdge).reverse ++ _
  rw [hkept, hlong, hshort, List.filter_append]
  rfl

/-! ### The parts of an address -/

theorem splitScheme_append {after : List Char} (h : splitScheme cs = some (scheme, after)) :
    splitScheme (cs ++ '/' :: rest) = some (scheme, after ++ '/' :: rest) := by
  unfold splitScheme at h ⊢
  dsimp only at h ⊢
  rw [span_append (by decide)]
  split at h
  · next first more after' hspan =>
    simp only [hspan]
    split at h
    · next halpha =>
      obtain ⟨rfl, rfl⟩ := Prod.mk.inj (Option.some.inj h)
      exact if_pos halpha
    · cases h
  · cases h

theorem endsAuthority_slash (special : Bool) : endsAuthority special '/' = true := rfl

theorem dropUser_append {hasUser : Bool} {after : List Char}
    (h : dropUser special cs = .ok (hasUser, after)) (hafter : after ≠ []) :
    dropUser special (cs ++ '/' :: rest) = .ok (hasUser, after ++ '/' :: rest) := by
  unfold dropUser at h ⊢
  rw [span_append (by rw [endsAuthority_slash]; rfl)]
  simp only at h ⊢
  split at h
  · next hplain =>
    obtain ⟨rfl, rfl⟩ := Prod.mk.inj (Except.ok.inj h)
    rw [if_pos hplain]
  · next huser =>
    rw [if_neg huser, ← List.append_assoc]
    split at h
    · next c machine hnone hmachine =>
      split at h
      · cases h
      · next hends =>
        obtain ⟨rfl, rfl⟩ := Prod.mk.inj (Except.ok.inj h)
        rw [hnone, hmachine]
        simp only [List.cons_append]
        rw [if_neg hends]
    · next user machine hsome =>
      obtain ⟨rfl, rfl⟩ := Prod.mk.inj (Except.ok.inj h)
      split
      · next c machine' hnone hmachine =>
        obtain ⟨d, machine'', hd⟩ := List.exists_cons_of_ne_nil hafter
        exact absurd hd (hsome _ _ hnone)
      · rfl

theorem hostText_append (inside : Bool) (cs rest : List Char) :
    hostText special inside (cs ++ '/' :: rest) =
      ((hostText special inside cs).1, (hostText special inside cs).2 ++ '/' :: rest) := by
  induction cs generalizing inside with
  | nil => simp [hostText, endsAuthority_slash]
  | cons c cs ih =>
    rw [List.cons_append, hostText, hostText]
    split
    · rfl
    · rw [ih]

theorem readPort_append {usual port : Option Nat} {after : List Char}
    (h : readPort usual cs = .ok (port, after)) :
    readPort usual (cs ++ '/' :: rest) = .ok (port, after ++ '/' :: rest) := by
  unfold readPort at h
  split at h
  · next digits =>
    rw [List.cons_append, readPort, span_append (by decide)]
    simp only at h ⊢
    split at h
    · cases h
    · next hport =>
      obtain ⟨rfl, rfl⟩ := Prod.mk.inj (Except.ok.inj h)
      rw [if_neg]
      -- past the digits stands what stood there, or the slash
      rw [Bool.or_eq_true_iff] at hport ⊢
      refine mt (Or.imp_right fun hnext => ?_) hport
      cases hrest : (digits.span Text.isDigit).2 with
      | nil => rw [hrest] at hnext; cases hnext
      | cons c more => rw [hrest] at hnext; exact hnext
  · next hplain =>
    obtain ⟨rfl, rfl⟩ := Prod.mk.inj (Except.ok.inj h)
    unfold readPort
    split
    · next digits hcolon =>
      cases cs with
      | nil => cases hcolon
      | cons c cs => exact absurd (congrArg (· :: cs) (List.cons.inj hcolon).1) (hplain _)
    · rfl

theorem ne_nil_of_hostText {inside : Bool} {text after : List Char}
    (h : hostText special inside cs = (text, after)) (htext : text ≠ []) : cs ≠ [] := by
  rintro rfl
  exact htext (Prod.mk.inj h).1.symm

/-- The machine that an authority names: the text of its name is not empty. -/
theorem readAuthority_eq_ok_iff {host : Host} {port : Option Nat} {after : List Char} :
    readAuthority scheme cs = .ok (some host, port, after) ↔
      ∃ hasUser machine text colon,
        dropUser (isSpecialScheme scheme) cs = .ok (hasUser, machine) ∧
        hostText (isSpecialScheme scheme) false machine = (text, colon) ∧ text ≠ [] ∧
        (if isSpecialScheme scheme then Host.ofChars text else Host.ofOpaque text) = .ok host ∧
        readPort (defaultPort? scheme) colon = .ok (port, after) := by
  unfold readAuthority
  simp only [bind, Except.bind, pure, Except.pure]
  cases hdrop : dropUser (isSpecialScheme scheme) cs with
  | error e => simp
  | ok v =>
    obtain ⟨hasUser, machine⟩ := v
    rcases htext : hostText (isSpecialScheme scheme) false machine with ⟨text, colon⟩
    cases text with
    | nil =>
      refine iff_of_false (fun h => ?_) ?_
      · simp only [htext, List.isEmpty_nil, if_true] at h
        split at h
        · cases h
        · split at h
          · cases h
          · split at h <;> cases h
      · rintro ⟨_, _, text, _, hmachine, htext', hne, -⟩
        obtain ⟨rfl, rfl⟩ := Prod.mk.inj (Except.ok.inj hmachine)
        exact hne (Prod.mk.inj (htext'.symm.trans htext)).1
    | cons c text =>
      simp only [htext, List.isEmpty_cons, Bool.false_and, Bool.false_eq_true, if_false]
      cases hhost : (if isSpecialScheme scheme = true then Host.ofChars (c :: text)
        else Host.ofOpaque (c :: text)) with
      | error e => simp [Except.mapError, htext, hhost]
      | ok host' =>
        cases hport : readPort (defaultPort? scheme) colon with
        | error e => simp [Except.mapError, htext, hport]
        | ok v =>
          obtain ⟨port', after'⟩ := v
          simp [Except.mapError, htext, hport, hhost]

theorem readAuthority_append {host : Host} {port : Option Nat} {after : List Char}
    (h : readAuthority scheme cs = .ok (some host, port, after)) :
    readAuthority scheme (cs ++ '/' :: rest) = .ok (some host, port, after ++ '/' :: rest) := by
  obtain ⟨hasUser, machine, text, colon, hdrop, htext, hne, hhost, hport⟩ :=
    readAuthority_eq_ok_iff.mp h
  refine readAuthority_eq_ok_iff.mpr ⟨hasUser, machine ++ '/' :: rest, text, colon ++ '/' :: rest,
    dropUser_append hdrop (ne_nil_of_hostText htext hne), ?_, hne, hhost, readPort_append hport⟩
  rw [hostText_append, htext]

/-! ### Machines -/

/-- Addresses on the same machine, which are reached in the same way. -/
structure SameMachine (u u' : Url) : Prop where
  scheme : u'.scheme = u.scheme
  host : u'.host = u.host
  port : u'.port = u.port

theorem readHierarchical_append {u : Url} (h : readHierarchical scheme cs = .ok u)
    (hhost : u.host.isSome = true) :
    ∃ u', readHierarchical scheme (cs ++ '/' :: rest) = .ok u' ∧ SameMachine u u' := by
  unfold readHierarchical at h ⊢
  cases hauthority : readAuthority scheme cs with
  | error e => rw [hauthority] at h; cases h
  | ok v =>
    obtain ⟨host, port, after⟩ := v
    rw [hauthority] at h
    obtain rfl := Except.ok.inj h
    obtain ⟨host, rfl⟩ := Option.isSome_iff_exists.mp hhost
    rw [readAuthority_append hauthority]
    exact ⟨_, rfl, rfl, rfl, rfl⟩

theorem readFile_append {u : Url} (h : readFile cs = .ok u) (hhost : u.host.isSome = true) :
    ∃ u', readFile (cs ++ '/' :: rest) = .ok u' ∧ SameMachine u u' := by
  unfold readFile at h
  split at h
  · next a b more =>
    simp only [List.cons_append, readFile, hostText_append]
    rcases htext : hostText true true more with ⟨text, after⟩
    simp only [htext] at h
    split at h
    · next hslashes =>
      rw [if_pos hslashes]
      split at h
      · obtain rfl := Except.ok.inj h
        cases hhost
      · next htext =>
        rw [if_neg htext]
        cases hnamed : Host.ofChars text with
        | error e => rw [hnamed] at h; cases h
        | ok host =>
          rw [hnamed] at h
          obtain rfl := Except.ok.inj h
          exact ⟨_, rfl, rfl, rfl, rfl⟩
    · obtain rfl := Except.ok.inj h
      cases hhost
  · obtain rfl := Except.ok.inj h
    cases hhost

theorem readHierarchical_nil (h : isSpecialScheme scheme = true) (u : Url) :
    readHierarchical scheme [] ≠ .ok u := by
  simp [readHierarchical, readAuthority, dropUser, hostText, h, bind, Except.bind]

theorem host_readPathOnly (scheme : String) (cs : List Char) :
    (readPathOnly scheme cs).host = none := by
  unfold readPathOnly
  split <;> rfl

/-- A text that names a machine, whatever follows it after a slash. A blank at its end would not
count as long as nothing follows. -/
structure IsUsable (text : String) : Prop where
  machine : ∃ u, parse text = .ok u ∧ u.host.isSome = true
  visible : ∃ c, text.toList.getLast? = some c ∧ 0x20 < c.toNat

/-- The addresses below a usable one are on its machine. -/
theorem IsUsable.sameMachine {text : String} {u : Url} (h : IsUsable text)
    (hu : parse text = .ok u) (more : String) :
    ∃ u', parse (text ++ "/" ++ more) = .ok u' ∧ SameMachine u u' := by
  obtain ⟨⟨_, hu', hhost⟩, c, hlast, hc⟩ := h
  obtain rfl := Except.ok.inj (hu.symm.trans hu')
  obtain ⟨rest, hsignificant⟩ := significant_append hlast hc more.toList
  have htext : (text ++ "/" ++ more).toList = text.toList ++ '/' :: more.toList := by simp
  -- one case for each way to read what follows the scheme
  unfold parse at hu
  split at hu
  · cases hu
  · next scheme after hscheme =>
    rw [parse, htext, hsignificant, splitScheme_append hscheme]
    simp only
    split at hu
    · next hfile =>
      rw [if_pos hfile]
      exact readFile_append hu hhost
    · next hfile =>
      rw [if_neg hfile]
      split at hu
      · next hspecial =>
        rw [if_pos hspecial, List.dropWhile_append]
        split
        · -- nothing but slashes would not name a machine
          next hnone =>
          rw [List.isEmpty_iff.mp hnone] at hu
          exact absurd hu (readHierarchical_nil hspecial u)
        · exact readHierarchical_append hu hhost
      · next hspecial =>
        rw [if_neg hspecial]
        split at hu
        · exact readHierarchical_append hu hhost
        · obtain rfl := Except.ok.inj hu
          rw [host_readPathOnly] at hhost
          cases hhost

theorem IsUsable.below {text : String} (h : IsUsable text) (more : String) :
    ∃ u, parse (text ++ "/" ++ more) = .ok u ∧ u.host.isSome = true := by
  obtain ⟨u, hu, hhost⟩ := h.machine
  obtain ⟨u', hu', hsame⟩ := h.sameMachine hu more
  exact ⟨u', hu', hsame.host ▸ hhost⟩

end Url

/-! ### Requests -/

theorem Request.ofUrl?_eq_some_iff {method : Method} {url : Url} {r : Request} :
    Request.ofUrl? method url = some r ↔ url.host.isSome = true ∧ r = { method, url } := by
  rw [Request.ofUrl?, Option.ite_none_right_eq_some, Option.some.injEq, eq_comm (b := r)]

/-- A request is made of an address that names a machine. -/
theorem Request.to?_eq_some_iff {address : String} {r : Request} :
    Request.to? .post address = some r ↔
      ∃ url, Url.parse address = .ok url ∧ url.host.isSome = true ∧
        r = { method := .post, url } := by
  unfold Request.to?
  cases Url.parse address with
  | error e => simp only [reduceCtorEq, false_and, exists_false]
  | ok url => simp only [Request.ofUrl?_eq_some_iff, Except.ok.injEq, exists_eq_left']

/-- What is added to a request does not change whether it is made. -/
theorem Request.map_to?_eq_some_iff {address : String} {fill : Request → Request} {r : Request} :
    (Request.to? .post address).map fill = some r ↔
      ∃ url, Url.parse address = .ok url ∧ url.host.isSome = true ∧
        r = fill { method := .post, url } := by
  simp only [Option.map_eq_some_iff, Request.to?_eq_some_iff]
  constructor
  · rintro ⟨_, ⟨url, hurl, hhost, rfl⟩, rfl⟩
    exact ⟨url, hurl, hhost, rfl⟩
  · rintro ⟨url, hurl, hhost, rfl⟩
    exact ⟨_, ⟨url, hurl, hhost, rfl⟩, rfl⟩

end ClusterWatch.Http
