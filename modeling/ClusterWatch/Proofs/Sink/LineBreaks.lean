import ClusterWatch.Proofs.Sink.Lines
import ClusterWatch.Sink.TimeSeries
import Mathlib.Algebra.Ring.Nat
/-!
# Lines that are cut

A newline between quotes belongs to the string that it stands in, and any other one begins the next
point. The texts of string fields stand between quotes and the tags do not, and a tag is escaped
without regard to newlines, so that an event is one point exactly as long as none of its tags has
one.

- `points`: the points that a body is read as.
- `countP_headGlyphs`: the newlines outside of quotes are those of the tags.
- `tagBreaks`: the newlines of the texts that an event has as tags.

Main result: `one_point_iff_tags_unbroken`.
-/

namespace ClusterWatch.Sink.LinePoint

open Http (Request)
open Time (Instant)

/-- The points that a body is read as. -/
def points (body : String) : List (List Glyph) :=
  (scan .head body.toList).splitOnP (Glyph.isMark '\n')

/-! ### Newlines of a line -/

variable {zone : Zone} {marks cs : List Char} {g : Glyph} {p : LinePoint}

theorem length_splitOnP {α : Type} (cut : α → Bool) (xs : List α) :
    (xs.splitOnP cut).length = xs.countP cut + 1 := by
  induction xs with
  | nil => rfl
  | cons x xs ih =>
    rw [List.splitOnP_cons_eq_if_modifyHead]
    by_cases hx : cut x
    · rw [if_pos hx, List.length_cons, ih, List.countP_cons_of_pos hx]
    · rw [if_neg hx, List.length_modifyHead, ih, List.countP_cons_of_neg hx]

/-- A newline is not among the marks of tags, and outside of quotes it cuts. -/
theorem countP_glyphs_tagMarks (cs : List Char) :
    (glyphs .head tagMarks cs).countP (Glyph.isMark '\n') = cs.count '\n' := by
  rw [glyphs, List.countP_map, List.count]
  refine List.countP_congr fun c _ => ?_
  by_cases hc : c = '\n'
  · subst hc
    decide
  · simp [Glyph.isMark, hc]

theorem countP_eq_zero {gs : List Glyph} (h : ∀ g ∈ gs, g.isMark '\n' = false) :
    gs.countP (Glyph.isMark '\n') = 0 := by
  rw [List.countP_eq_zero]
  intro g hg
  rw [h g hg]
  decide

theorem countP_tagGlyphs {tag : String × String} (h : IsPlain tag.1.toList) :
    (tagGlyphs tag).countP (Glyph.isMark '\n') = tag.2.toList.count '\n' := by
  have hname : (glyphs .head [] tag.1.toList).countP (Glyph.isMark '\n') = 0 :=
    countP_eq_zero fun g hg => h.isMark (by decide) hg
  rw [tagGlyphs, List.countP_append, hname, List.countP_cons_of_neg (by decide),
    countP_glyphs_tagMarks, Nat.zero_add]

/-- The newlines of the tags cut. -/
theorem countP_headGlyphs (hp : p.Plain) :
    (headGlyphs p).countP (Glyph.isMark '\n') =
      (p.tags.map fun tag => tag.2.toList.count '\n').sum := by
  have hname : (glyphs .head [] p.measurement.toList).countP (Glyph.isMark '\n') = 0 :=
    countP_eq_zero fun g hg => hp.measurement.isMark (by decide) hg
  rw [headGlyphs, List.countP_append, hname, Nat.zero_add, List.countP_flatMap]
  congr 1
  refine List.map_congr_left fun tag htag => ?_
  show (_ :: tagGlyphs tag).countP _ = _
  rw [List.countP_cons_of_neg (by decide), countP_tagGlyphs (hp.tags tag htag)]

/-- No other newlines do. -/
theorem countP_scan (hp : p.Plain) :
    (scan .head p.chars).countP (Glyph.isMark '\n') =
      (p.tags.map fun tag => tag.2.toList.count '\n').sum := by
  have hbody : (bodyGlyphs p).countP (Glyph.isMark '\n') = 0 :=
    countP_eq_zero fun g hg => isMark_of_mem_bodyGlyphs hp (by decide) hg
  have htime : (glyphs .fields [] (Text.integer p.second)).countP (Glyph.isMark '\n') = 0 :=
    countP_eq_zero fun g hg => (isPlain_integer p.second).isMark (by decide) hg
  rw [scan_chars hp, List.countP_append, List.countP_cons_of_neg (by decide), List.countP_append,
    hbody, List.countP_cons_of_neg (by decide), htime, countP_headGlyphs hp]
  rfl

/-- No newline is escaped. -/
theorem escaped_of_mem_glyphs (hmarks : '\n' ∉ marks) (hg : g ∈ glyphs zone marks cs)
    (hnewline : g.char = '\n') : g.escaped = false := by
  obtain ⟨c, hc, rfl⟩ := List.mem_map.mp hg
  show decide (c ∈ marks) = false
  rw [show c = '\n' from hnewline]
  exact decide_eq_false hmarks

theorem escaped_of_mem_scan (hp : p.Plain) (hg : g ∈ scan .head p.chars)
    (hnewline : g.char = '\n') : g.escaped = false := by
  rw [scan_chars hp] at hg
  simp only [headGlyphs, bodyGlyphs, tagGlyphs, countGlyphs, fieldGlyphs, List.mem_append,
    List.mem_cons, List.mem_flatMap, List.not_mem_nil, or_false] at hg
  rcases hg with
    (hg | ⟨tag, -, rfl | hg | rfl | hg⟩) | rfl |
      ((hg | rfl | hg) | ⟨field, -, rfl | hg | rfl | rfl | hg | rfl⟩) | rfl | hg
  -- what stands between the texts is not escaped, and no text is escaped at a newline
  all_goals first
    | rfl
    | exact escaped_of_mem_glyphs (by decide) hg hnewline

/-- The newlines stand between quotes as long as none of them cuts. -/
theorem quoted_iff (hp : p.Plain) :
    (∀ g ∈ scan .head p.chars, g.char = '\n' → g.zone = .quoted) ↔
      (scan .head p.chars).countP (Glyph.isMark '\n') = 0 := by
  rw [List.countP_eq_zero]
  constructor
  · intro h g hg hmark
    simp only [Glyph.isMark, Bool.and_eq_true, bne_iff_ne, beq_iff_eq] at hmark
    exact hmark.1.2 (h g hg hmark.2)
  · intro h g hg hnewline
    by_contra hzone
    refine h g hg ?_
    simp [Glyph.isMark, escaped_of_mem_scan hp hg hnewline, hzone, hnewline]

/-! ### Events -/

/-- The texts that an event has as tags. -/
def tagTexts (e : Event) : List String :=
  [e.namespaceName, e.kind, e.name, e.reason, e.type]

/-- The newlines of the texts that an event has as tags. -/
def tagBreaks (e : Event) : Nat :=
  ((tagTexts e).flatMap String.toList).count '\n'

theorem tagBreaks_eq_zero {e : Event} :
    tagBreaks e = 0 ↔ ∀ text ∈ tagTexts e, '\n' ∉ text.toList := by
  rw [tagBreaks, List.count_eq_zero, List.mem_flatMap]
  exact ⟨fun h text htext hmem => h ⟨text, htext, hmem⟩,
    fun h ⟨text, htext, hmem⟩ => h text htext hmem⟩

/-- A tag that is left out has no newlines. -/
theorem sum_filter_isEmpty (tags : List (String × String)) :
    ((tags.filter fun tag => !tag.2.isEmpty).map fun tag => tag.2.toList.count '\n').sum =
      (tags.map fun tag => tag.2.toList.count '\n').sum := by
  induction tags with
  | nil => rfl
  | cons tag tags ih =>
    by_cases hempty : tag.2.isEmpty
    · have hcount : tag.2.toList.count '\n' = 0 := by
        rw [String.isEmpty_iff.mp hempty]
        rfl
      rw [List.filter_cons_of_neg (by simp [hempty]), ih, List.map_cons, List.sum_cons, hcount,
        Nat.zero_add]
    · rw [List.filter_cons_of_pos (by simp [hempty]), List.map_cons, List.sum_cons, ih,
        List.map_cons, List.sum_cons]

theorem sum_eventTags (e : Event) :
    ((eventTags e).map fun tag => tag.2.toList.count '\n').sum = tagBreaks e := by
  rw [eventTags, sum_filter_isEmpty, tagBreaks, List.count_flatMap]
  rfl

/-- **An event is as many points as its tags have newlines, and one.** All newlines of its line
stand between quotes exactly when neither the namespace nor the kind, the name, the reason and the
type have one, whatever the other texts are. What is posted is that line. -/
theorem one_point_iff_tags_unbroken (e : Event) (now : Instant) :
    ((∀ g ∈ scan .head (ofEvent e now).text.toList, g.char = '\n' → g.zone = .quoted) ↔
      ∀ text ∈ tagTexts e, '\n' ∉ text.toList) ∧
    (points (ofEvent e now).text).length = tagBreaks e + 1 ∧
    ∀ (t : TimeSeries) (r : Request), t.request? (ofEvent e now) = some r →
      r.body = (ofEvent e now).text := by
  have hbreaks : (scan .head (ofEvent e now).chars).countP (Glyph.isMark '\n') = tagBreaks e := by
    rw [countP_scan (plain_ofEvent e now)]
    exact sum_eventTags e
  have hchars : (ofEvent e now).text.toList = (ofEvent e now).chars := String.toList_ofList
  refine ⟨?_, ?_, ?_⟩
  · rw [hchars, quoted_iff (plain_ofEvent e now), hbreaks, tagBreaks_eq_zero]
  · rw [points, length_splitOnP, hchars, hbreaks]
  · intro t r hr
    obtain ⟨base, -, rfl⟩ := Option.map_eq_some_iff.mp hr
    show (if _ then _ else _ : Request).body = _
    split <;> rfl

/-- A newline in the reason of an event ends its point before the fields. -/
theorem broken_reason_is_two_points :
    let e : Event :=
      { kind := "events", reason := "Back\nOff", created := "2024-01-02 03:04:05" }
    (∃ g ∈ scan .head (ofEvent e ⟨0, 0⟩).text.toList, g.char = '\n' ∧ g.zone = .head) ∧
      (points (ofEvent e ⟨0, 0⟩).text).length = 2 := by
  simp only [points, text, String.toList_ofList]
  decide +kernel

end ClusterWatch.Sink.LinePoint
