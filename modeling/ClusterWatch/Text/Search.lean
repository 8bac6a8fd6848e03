/-!
# First occurrences

Cutting a text at the first occurrence of a marker, over lists of characters.

- `dropMarker?`: the text after a marker that it starts with.
- `cut?`: the text before and after the first occurrence of a marker.
- `occurs`: whether a marker occurs at all.
- `split`: the pieces of a text between the occurrences of a character.
-/

namespace ClusterWatch.Text

/-- The rest of the text after `marker`, when the text starts with it. -/
def dropMarker? : (marker text : List Char) → Option (List Char)
  | [], text => some text
  | _ :: _, [] => none
  | m :: marker, c :: text => if m = c then dropMarker? marker text else none

/-- The text before and after the first occurrence of `marker`. -/
def cut? (marker : List Char) : List Char → Option (List Char × List Char)
  | [] => (dropMarker? marker []).map fun rest => ([], rest)
  | c :: text =>
    match dropMarker? marker (c :: text) with
    | some rest => some ([], rest)
    | none => (cut? marker text).map fun (before, after) => (c :: before, after)

/-- Whether `marker` occurs in the text. -/
def occurs (marker text : List Char) : Bool :=
  (cut? marker text).isSome

/-- The pieces of a text between the occurrences of a character: one more than there are. -/
def split (mark : Char) : List Char → List (List Char)
  | [] => [[]]
  | c :: text =>
    if c = mark then [] :: split mark text
    else
      match split mark text with
      | piece :: pieces => (c :: piece) :: pieces
      | [] => [[c]]

/-- The text after a marker is what the marker was put in front of. -/
@[simp] theorem dropMarker?_append (marker rest : List Char) :
    dropMarker? marker (marker ++ rest) = some rest := by
  induction marker with
  | nil => cases rest <;> rfl
  | cons m marker ih => simp [dropMarker?, ih]

/-- A marker was dropped exactly when the text starts with it. -/
theorem dropMarker?_eq_some_iff {marker text rest : List Char} :
    dropMarker? marker text = some rest ↔ text = marker ++ rest := by
  induction marker generalizing text with
  | nil => cases text <;> simp [dropMarker?, eq_comm]
  | cons m marker ih =>
    cases text with
    | nil => simp [dropMarker?]
    | cons c text =>
      by_cases h : m = c
      · simp [dropMarker?, h, ih]
      · simp [dropMarker?, h, Ne.symm h]

/-- Nothing is lost by a cut. -/
theorem eq_append_of_cut? {marker text before after : List Char}
    (h : cut? marker text = some (before, after)) : text = before ++ marker ++ after := by
  induction text generalizing before with
  | nil =>
    simp only [cut?, Option.map_eq_some_iff, Prod.mk.injEq] at h
    obtain ⟨rest, hrest, rfl, rfl⟩ := h
    simpa using dropMarker?_eq_some_iff.1 hrest
  | cons c text ih =>
    simp only [cut?] at h
    split at h
    · next rest hrest =>
      obtain ⟨rfl, rfl⟩ := by simpa using h
      simpa using dropMarker?_eq_some_iff.1 hrest
    · simp only [Option.map_eq_some_iff, Prod.mk.injEq, Prod.exists] at h
      obtain ⟨b, a, hcut, rfl, rfl⟩ := h
      simpa using ih hcut

/-- A text is cut where the first mark stands. -/
theorem cut?_append {mark : Char} {before : List Char} (h : mark ∉ before) (after : List Char) :
    cut? [mark] (before ++ mark :: after) = some (before, after) := by
  induction before with
  | nil => simp [cut?, dropMarker?]
  | cons c before ih =>
    rw [List.mem_cons, not_or] at h
    simp [cut?, dropMarker?, h.1, ih h.2]

/-- A text without the mark is not cut. -/
theorem cut?_eq_none {mark : Char} {text : List Char} (h : mark ∉ text) :
    cut? [mark] text = none := by
  induction text with
  | nil => rfl
  | cons c text ih =>
    rw [List.mem_cons, not_or] at h
    simp [cut?, dropMarker?, h.1, ih h.2]

/-- A text is cut exactly when the marker stands somewhere in it. -/
theorem occurs_iff {marker text : List Char} : occurs marker text = true ↔ marker <:+: text := by
  rw [occurs, Option.isSome_iff_exists]
  constructor
  · rintro ⟨⟨before, after⟩, hcut⟩
    exact ⟨before, after, (eq_append_of_cut? hcut).symm⟩
  · rintro ⟨before, after, rfl⟩
    induction before with
    | nil =>
      refine ⟨([], after), ?_⟩
      cases hmarker : marker with
      | nil => cases after <;> rfl
      | cons m marker =>
        have hdrop := dropMarker?_append (m :: marker) after
        simp only [List.cons_append] at hdrop
        simp only [List.nil_append, List.cons_append, cut?, hdrop]
    | cons c before ih =>
      obtain ⟨parts, hparts⟩ := ih
      simp only [List.cons_append, cut?]
      split
      · exact ⟨_, rfl⟩
      · exact ⟨_, by rw [hparts]; rfl⟩

/-- No marker stands before the cut. -/
theorem length_le_of_cut? {marker earlier rest before after : List Char}
    (h : cut? marker (earlier ++ marker ++ rest) = some (before, after)) :
    before.length ≤ earlier.length := by
  induction earlier generalizing before after with
  | nil =>
    rw [List.nil_append] at h
    cases htext : marker ++ rest with
    | nil =>
      obtain ⟨rfl, rfl⟩ := List.append_eq_nil_iff.mp htext
      obtain ⟨rfl, -⟩ : [] = before ∧ [] = after := by simpa [cut?, dropMarker?] using h
      exact Nat.le_refl 0
    | cons c text =>
      have hdrop := dropMarker?_append marker rest
      rw [htext] at h hdrop
      rw [cut?, hdrop] at h
      obtain ⟨rfl, -⟩ : [] = before ∧ rest = after := by simpa using h
      exact Nat.le_refl 0
  | cons c earlier ih =>
    rw [List.cons_append, List.cons_append, cut?] at h
    split at h
    · obtain ⟨rfl, -⟩ := Prod.mk.inj (Option.some.inj h)
      exact Nat.zero_le _
    · obtain ⟨⟨before', after'⟩, hcut, hsame⟩ := Option.map_eq_some_iff.mp h
      obtain ⟨rfl, -⟩ := Prod.mk.inj hsame
      exact Nat.succ_le_succ (ih hcut)

/-- A text is cut where the marker stands first. -/
theorem cut?_eq_some_iff {marker text before after : List Char} :
    cut? marker text = some (before, after) ↔
      text = before ++ marker ++ after ∧
        ∀ earlier rest, text = earlier ++ marker ++ rest → before.length ≤ earlier.length := by
  constructor
  · intro h
    exact ⟨eq_append_of_cut? h, fun earlier rest htext => length_le_of_cut? (htext ▸ h)⟩
  · rintro ⟨htext, hfirst⟩
    obtain ⟨⟨before', after'⟩, hcut⟩ : ∃ parts, cut? marker text = some parts :=
      Option.isSome_iff_exists.mp (occurs_iff.mpr ⟨before, after, htext.symm⟩)
    have htext' := eq_append_of_cut? hcut
    have hlength : before'.length = before.length :=
      Nat.le_antisymm (length_le_of_cut? (htext ▸ hcut)) (hfirst before' after' htext')
    rw [htext', List.append_assoc, List.append_assoc] at htext
    obtain ⟨rfl, hrest⟩ := List.append_inj htext hlength
    rw [hcut, List.append_cancel_left hrest]

/-- A text is cut at a mark when the mark does not stand before. -/
theorem cut?_mark_eq_some_iff {mark : Char} {text before after : List Char} :
    cut? [mark] text = some (before, after) ↔ text = before ++ mark :: after ∧ mark ∉ before := by
  constructor
  · intro h
    have htext : text = before ++ mark :: after := by simpa using eq_append_of_cut? h
    refine ⟨htext, fun hmem => ?_⟩
    obtain ⟨earlier, rest, rfl⟩ := List.append_of_mem hmem
    have hle := (cut?_eq_some_iff.mp h).2 earlier (rest ++ mark :: after) (by simp [htext])
    rw [List.length_append, List.length_cons] at hle
    omega
  · rintro ⟨rfl, hnot⟩
    exact cut?_append hnot after

theorem split_ne_nil (mark : Char) (text : List Char) : split mark text ≠ [] := by
  cases text with
  | nil => exact List.cons_ne_nil _ _
  | cons c text =>
    rw [split]
    split
    · exact List.cons_ne_nil _ _
    · split <;> exact List.cons_ne_nil _ _

/-- Pieces of two texts that a mark keeps apart. -/
theorem split_append (mark : Char) (before after : List Char) :
    split mark (before ++ mark :: after) = split mark before ++ split mark after := by
  induction before with
  | nil => simp [split]
  | cons c before ih =>
    by_cases hc : c = mark
    · simp [split, hc, ih]
    · cases hsplit : split mark before with
      | nil => exact absurd hsplit (split_ne_nil mark before)
      | cons piece pieces => simp [split, hc, ih, hsplit]

end ClusterWatch.Text
