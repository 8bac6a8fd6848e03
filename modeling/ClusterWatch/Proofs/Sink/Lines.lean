import ClusterWatch.Proofs.Text.Numbers
import ClusterWatch.Sink.LinePoint
import Mathlib.Data.List.Basic
/-!
# Lines of points read back

A line is read character by character. A backslash makes the character after it mean itself; outside
of quotes commas, equals signs and blanks delimit, and behind the tags a quote begins or ends a
string. What is escaped in a written line is just what would delimit in the part where it stands, so
that a reader finds every boundary and nothing but the boundaries.

- `scan`: the characters of a text, each with the part of the line that it stands in.
- `tokens?`: the measurement, the tags, the fields and the time of a line.
- `escapeOf_tagMarks`: escaping in one go is replacing one mark after the other.
- `scan_escapeOf`: an escaped text is read as the text.
- `scan_chars`: a written line as a reader takes it.
- `isMark_of_mem_glyphs`, `isQuote_of_mem_glyphs`: an escaped text is not cut.
- `tokens?_text`: a written line is read as its point.

Main result: `line_tells_point`.
-/

namespace ClusterWatch.Sink.LinePoint

open Time (Instant)

/-! ### Reading a line -/

/-- The parts of a line, in which different characters delimit. -/
inductive Zone where
  /-- The measurement and the tags. -/
  | head
  /-- The fields and the time. -/
  | fields
  /-- Between the quotes of a string field. -/
  | quoted
  deriving DecidableEq, Repr

/-- The part that the next character stands in. A line that has ended is followed by another one. -/
def Zone.after : Zone → Char → Zone
  | .head, ' ' => .fields
  | .fields, '"' => .quoted
  | .fields, '\n' => .head
  | .quoted, '"' => .fields
  | zone, _ => zone

/-- A character as a reader takes it. -/
structure Glyph where
  char : Char
  zone : Zone
  /-- Whether a backslash made it mean itself. -/
  escaped : Bool
  deriving DecidableEq, Repr

/-- The characters of a text from a part on. -/
def scan : Zone → List Char → List Glyph
  | _, [] => []
  | zone, '\\' :: c :: cs => ⟨c, zone, true⟩ :: scan zone cs
  | zone, c :: cs => ⟨c, zone, false⟩ :: scan (zone.after c) cs

/-- Whether a character is a mark that delimits outside of quotes. -/
def Glyph.isMark (mark : Char) (g : Glyph) : Bool :=
  !g.escaped && g.zone != .quoted && g.char == mark

/-- Whether a character begins or ends a string. -/
def Glyph.isQuote (g : Glyph) : Bool :=
  !g.escaped && g.zone != .head && g.char == '"'

/-- The text that characters spell. -/
def spelled (gs : List Glyph) : String :=
  String.ofList (gs.map Glyph.char)

/-- The value of a field. -/
inductive FieldValue where
  | integer (value : Int)
  | text (value : String)
  deriving DecidableEq, Repr

/-- What a line says. -/
structure Tokens where
  measurement : String
  tags : List (String × String)
  fields : List (String × FieldValue)
  second : Int
  deriving DecidableEq, Repr

/-- What stands before and after the only equals sign. -/
def pair? (gs : List Glyph) : Option (List Glyph × List Glyph) :=
  match gs.splitOnP (Glyph.isMark '=') with
  | [name, value] => some (name, value)
  | _ => none

/-- A tag. -/
def tag? (gs : List Glyph) : Option (String × String) :=
  (pair? gs).map fun (name, value) => (spelled name, spelled value)

/-- The value of a field: a string in quotes, or an integer with an `i` behind it. -/
def fieldValue? (gs : List Glyph) : Option FieldValue :=
  match gs.splitOnP Glyph.isQuote with
  | [[], body, []] => some (.text (spelled body))
  | [number] =>
    match (number.map Glyph.char).reverse with
    | 'i' :: digits => (Text.int64? 10 digits.reverse).map .integer
    | _ => none
  | _ => none

/-- A field. -/
def field? (gs : List Glyph) : Option (String × FieldValue) :=
  (pair? gs).bind fun (name, value) => (fieldValue? value).map fun v => (spelled name, v)

/-- What a line says, when it is well-formed. -/
def tokens? (line : String) : Option Tokens :=
  match (scan .head line.toList).splitOnP (Glyph.isMark ' ') with
  | [head, fields, time] =>
    match head.splitOnP (Glyph.isMark ',') with
    | [] => none
    | measurement :: tags => do
      let tags ← tags.mapM tag?
      let fields ← (fields.splitOnP (Glyph.isMark ',')).mapM field?
      let second ← Text.int64? 10 (time.map Glyph.char)
      return ⟨spelled measurement, tags, fields, second⟩
  | _ => none

/-! ### Escaped texts -/

/-- Puts a text in the place of a character. -/
def replaceAll (mark : Char) (text cs : List Char) : List Char :=
  cs.flatMap fun c => if c = mark then text else [c]

/-- Escaping in one go is replacing one mark after the other, as long as the backslash is not the
last of them. -/
theorem escapeOf_concat {marks : List Char} {mark : Char} (hnew : mark ∉ marks)
    (hmark : mark ≠ '\\') (cs : List Char) :
    escapeOf (marks ++ [mark]) cs = replaceAll mark ['\\', mark] (escapeOf marks cs) := by
  unfold escapeOf replaceAll
  rw [List.flatMap_assoc]
  refine List.flatMap_congr fun c _ => ?_
  by_cases hc : c ∈ marks
  · have hne : c ≠ mark := fun h => hnew (h ▸ hc)
    simp [hc, hne, Ne.symm hmark]
  · by_cases heq : c = mark
    · simp [heq, hnew]
    · simp [hc, heq]

/-- A tag is escaped by four replacements. -/
theorem escapeOf_tagMarks (cs : List Char) :
    escapeOf tagMarks cs =
      replaceAll ' ' ['\\', ' '] (replaceAll '=' ['\\', '='] (replaceAll ',' ['\\', ',']
        (replaceAll '\\' ['\\', '\\'] cs))) := by
  have hbackslash : escapeOf ['\\'] cs = replaceAll '\\' ['\\', '\\'] cs := by
    unfold escapeOf replaceAll
    refine List.flatMap_congr fun c _ => ?_
    by_cases h : c = '\\' <;> simp [h]
  show escapeOf ((['\\', ','] ++ ['=']) ++ [' ']) cs = _
  rw [escapeOf_concat (by decide) (by decide), escapeOf_concat (by decide) (by decide)]
  show replaceAll ' ' _ (replaceAll '=' _ (escapeOf (['\\'] ++ [',']) cs)) = _
  rw [escapeOf_concat (by decide) (by decide), hbackslash]

/-- A text as a reader takes it whose marks are escaped. -/
def glyphs (zone : Zone) (marks cs : List Char) : List Glyph :=
  cs.map fun c => ⟨c, zone, decide (c ∈ marks)⟩

@[simp] theorem map_char_glyphs (zone : Zone) (marks cs : List Char) :
    (glyphs zone marks cs).map Glyph.char = cs := by
  rw [glyphs, List.map_map]
  exact List.map_id cs

@[simp] theorem spelled_glyphs (zone : Zone) (marks cs : List Char) :
    spelled (glyphs zone marks cs) = String.ofList cs := by
  rw [spelled, map_char_glyphs]

variable {zone : Zone} {marks cs : List Char} {c mark : Char} {g : Glyph}

theorem scan_cons (h : c ≠ '\\') (cs : List Char) :
    scan zone (c :: cs) = ⟨c, zone, false⟩ :: scan (zone.after c) cs := by
  rw [scan]
  intro d ds hback
  exact absurd hback h

/-- An escaped text is read as the text, and what follows it is read in the same part, when every
character that is not escaped means itself there. -/
theorem scan_escapeOf (h : ∀ c ∈ cs, c ∉ marks → c ≠ '\\' ∧ zone.after c = zone)
    (rest : List Char) :
    scan zone (escapeOf marks cs ++ rest) = glyphs zone marks cs ++ scan zone rest := by
  induction cs with
  | nil => rfl
  | cons c cs ih =>
    have hrest := ih fun d hd => h d (List.mem_cons_of_mem _ hd)
    by_cases hc : c ∈ marks
    · show scan zone ((if c ∈ marks then ['\\', c] else [c]) ++ escapeOf marks cs ++ rest) =
        ⟨c, zone, decide (c ∈ marks)⟩ :: (glyphs zone marks cs ++ scan zone rest)
      rw [if_pos hc, decide_eq_true hc, ← hrest]
      rfl
    · obtain ⟨hne, hafter⟩ := h c List.mem_cons_self hc
      show scan zone ((if c ∈ marks then ['\\', c] else [c]) ++ escapeOf marks cs ++ rest) =
        ⟨c, zone, decide (c ∈ marks)⟩ :: (glyphs zone marks cs ++ scan zone rest)
      rw [if_neg hc, decide_eq_false hc, ← hrest, List.append_assoc, List.singleton_append,
        scan_cons hne, hafter]

/-- The characters that mean something in a part of a line. -/
def special : List Char :=
  ['\\', ',', '=', ' ', '"', '\n']

/-- A text without characters that mean something in any part of a line. -/
def IsPlain (cs : List Char) : Prop :=
  ∀ c ∈ cs, c ∉ special

instance (cs : List Char) : Decidable (IsPlain cs) :=
  List.decidableBAll _ cs

theorem escapeOf_nil (cs : List Char) : escapeOf [] cs = cs := by
  simp [escapeOf]

theorem Zone.after_of_plain (h : c ∉ special) : zone.after c = zone := by
  simp only [special, List.mem_cons, List.not_mem_nil, or_false, not_or] at h
  unfold Zone.after
  split <;> simp_all

theorem scan_plain (h : IsPlain cs) (rest : List Char) :
    scan zone (cs ++ rest) = glyphs zone [] cs ++ scan zone rest := by
  have hmeans : ∀ c ∈ cs, c ∉ [] → c ≠ '\\' ∧ zone.after c = zone := fun c hc _ =>
    ⟨fun hback => h c hc (hback ▸ List.mem_cons_self), Zone.after_of_plain (h c hc)⟩
  have hscan := scan_escapeOf hmeans rest
  rwa [escapeOf_nil] at hscan

/-- The escaped text of a tag. -/
theorem scan_tagValue (cs rest : List Char) :
    scan .head (escapeOf tagMarks cs ++ rest) = glyphs .head tagMarks cs ++ scan .head rest := by
  refine scan_escapeOf (fun c _ hc => ⟨fun h => hc (h ▸ by decide), ?_⟩) rest
  have hblank : c ≠ ' ' := fun h => hc (h ▸ by decide)
  unfold Zone.after
  split <;> simp_all

/-- The escaped text of a string field. -/
theorem scan_fieldValue (cs rest : List Char) :
    scan .quoted (escapeOf fieldMarks cs ++ rest) =
      glyphs .quoted fieldMarks cs ++ scan .quoted rest := by
  refine scan_escapeOf (fun c _ hc => ⟨fun h => hc (h ▸ by decide), ?_⟩) rest
  have hquote : c ≠ '"' := fun h => hc (h ▸ by decide)
  unfold Zone.after
  split <;> simp_all

/-! ### Written lines -/

/-- The names in a point are plain. -/
structure Plain (p : LinePoint) : Prop where
  measurement : IsPlain p.measurement.toList
  tags : ∀ tag ∈ p.tags, IsPlain tag.1.toList
  fields : ∀ field ∈ p.fields, IsPlain field.1.toList

/-- A tag as a reader takes it. -/
def tagGlyphs (tag : String × String) : List Glyph :=
  glyphs .head [] tag.1.toList ++ ⟨'=', .head, false⟩ :: glyphs .head tagMarks tag.2.toList

/-- The measurement and the tags as a reader takes them. -/
def headGlyphs (p : LinePoint) : List Glyph :=
  glyphs .head [] p.measurement.toList ++
    p.tags.flatMap fun tag => ⟨',', .head, false⟩ :: tagGlyphs tag

/-- The count as a reader takes it. -/
def countGlyphs (count : Int) : List Glyph :=
  glyphs .fields [] "count".toList ++
    ⟨'=', .fields, false⟩ :: glyphs .fields [] (Text.integer count ++ ['i'])

/-- A string field as a reader takes it. -/
def fieldGlyphs (field : String × String) : List Glyph :=
  glyphs .fields [] field.1.toList ++ ⟨'=', .fields, false⟩ :: ⟨'"', .fields, false⟩ ::
    (glyphs .quoted fieldMarks field.2.toList ++ [⟨'"', .quoted, false⟩])

/-- The fields as a reader takes them. -/
def bodyGlyphs (p : LinePoint) : List Glyph :=
  countGlyphs p.count ++ p.fields.flatMap fun field => ⟨',', .fields, false⟩ :: fieldGlyphs field

theorem isPlain_integer (n : Int) : IsPlain (Text.integer n) := by
  intro c hc
  rcases Text.isDigit_or_eq_of_mem_integer hc with hdigit | rfl
  · intro hmem
    simp only [special, List.mem_cons, List.not_mem_nil, or_false] at hmem
    rcases hmem with rfl | rfl | rfl | rfl | rfl | rfl <;> exact absurd hdigit (by decide)
  · decide

theorem IsPlain.append {ds : List Char} (hc : IsPlain cs) (hd : IsPlain ds) :
    IsPlain (cs ++ ds) := by
  intro c h
  rcases List.mem_append.mp h with h | h
  · exact hc c h
  · exact hd c h

theorem isPlain_count (count : Int) : IsPlain (Text.integer count ++ ['i']) :=
  (isPlain_integer count).append (by decide)

theorem scan_tag {tag : String × String} (h : IsPlain tag.1.toList) (rest : List Char) :
    scan .head (tagChars tag ++ rest) =
      ⟨',', .head, false⟩ :: tagGlyphs tag ++ scan .head rest := by
  unfold tagChars tagGlyphs
  simp only [List.cons_append, List.append_assoc]
  rw [scan_cons (by decide)]
  show _ :: scan .head _ = _
  rw [scan_plain h, scan_cons (by decide)]
  show _ :: (_ ++ _ :: scan .head _) = _
  rw [scan_tagValue]

theorem scan_tags {tags : List (String × String)} (h : ∀ tag ∈ tags, IsPlain tag.1.toList)
    (rest : List Char) :
    scan .head (tags.flatMap tagChars ++ rest) =
      (tags.flatMap fun tag => ⟨',', .head, false⟩ :: tagGlyphs tag) ++ scan .head rest := by
  induction tags with
  | nil => rfl
  | cons tag tags ih =>
    rw [List.flatMap_cons, List.flatMap_cons, List.append_assoc,
      scan_tag (h tag List.mem_cons_self), ih fun t ht => h t (List.mem_cons_of_mem _ ht),
      List.append_assoc]

theorem scan_field {field : String × String} (h : IsPlain field.1.toList) (rest : List Char) :
    scan .fields (fieldChars field ++ rest) =
      ⟨',', .fields, false⟩ :: fieldGlyphs field ++ scan .fields rest := by
  unfold fieldChars fieldGlyphs
  simp only [List.cons_append, List.append_assoc, List.nil_append]
  rw [scan_cons (by decide)]
  show _ :: scan .fields _ = _
  rw [scan_plain h, scan_cons (by decide)]
  show _ :: (_ ++ _ :: scan .fields _) = _
  rw [scan_cons (by decide)]
  -- the first quote begins the string and the one behind the escaped text ends it
  show _ :: (_ ++ _ :: _ :: scan .quoted _) = _
  rw [scan_fieldValue, scan_cons (by decide)]
  rfl

theorem scan_fields {fields : List (String × String)}
    (h : ∀ field ∈ fields, IsPlain field.1.toList) (rest : List Char) :
    scan .fields (fields.flatMap fieldChars ++ rest) =
      (fields.flatMap fun field => ⟨',', .fields, false⟩ :: fieldGlyphs field) ++
        scan .fields rest := by
  induction fields with
  | nil => rfl
  | cons field fields ih =>
    rw [List.flatMap_cons, List.flatMap_cons, List.append_assoc,
      scan_field (h field List.mem_cons_self), ih fun f hf => h f (List.mem_cons_of_mem _ hf),
      List.append_assoc]

theorem scan_count (count : Int) (rest : List Char) :
    scan .head (" count=".toList ++ (Text.integer count ++ 'i' :: rest)) =
      ⟨' ', .head, false⟩ :: countGlyphs count ++ scan .fields rest := by
  have hsplit : " count=".toList ++ (Text.integer count ++ 'i' :: rest) =
      ' ' :: ("count".toList ++ '=' :: ((Text.integer count ++ ['i']) ++ rest)) := by
    simp
  rw [hsplit, scan_cons (by decide)]
  show _ :: scan .fields _ = _
  rw [scan_plain (by decide), scan_cons (by decide)]
  show _ :: (_ ++ _ :: scan .fields _) = _
  rw [scan_plain (isPlain_count count), countGlyphs, List.cons_append, List.append_assoc,
    List.cons_append]

/-- A written line as a reader takes it: the tags, the fields and the time, with a blank before the
fields and before the time that delimits. -/
theorem scan_chars {p : LinePoint} (hp : p.Plain) :
    scan .head p.chars =
      headGlyphs p ++ ⟨' ', .head, false⟩ ::
        (bodyGlyphs p ++ ⟨' ', .fields, false⟩ :: glyphs .fields [] (Text.integer p.second)) := by
  unfold chars headGlyphs bodyGlyphs
  simp only [List.append_assoc, List.cons_append]
  rw [scan_plain hp.measurement, scan_tags hp.tags, scan_count, List.cons_append,
    scan_fields hp.fields, scan_cons (by decide)]
  show _ ++ (_ ++ _ :: (_ ++ (_ ++ _ :: scan .fields _))) = _
  have htime : scan .fields (Text.integer p.second) =
      glyphs .fields [] (Text.integer p.second) := by
    have hscan : scan .fields (Text.integer p.second ++ []) = _ :=
      scan_plain (isPlain_integer p.second) []
    rwa [List.append_nil, scan, List.append_nil] at hscan
  rw [htime]

/-! ### Boundaries -/

theorem IsPlain.not_mem (h : IsPlain cs) (hmark : mark ∈ special) :
    mark ∉ cs :=
  fun hmem => h mark hmem hmark

/-- A text whose marks are escaped is not cut at a mark. -/
theorem isMark_of_mem_glyphs (h : zone = .quoted ∨ mark ∈ marks ∨ mark ∉ cs)
    (hg : g ∈ glyphs zone marks cs) : g.isMark mark = false := by
  obtain ⟨c, hc, rfl⟩ := List.mem_map.mp hg
  rcases h with rfl | hmark | hnot
  · simp [Glyph.isMark]
  · by_cases heq : c = mark
    · simp [Glyph.isMark, heq, hmark]
    · simp [Glyph.isMark, heq]
  · have heq : c ≠ mark := fun heq => hnot (heq ▸ hc)
    simp [Glyph.isMark, heq]

theorem IsPlain.isMark (h : IsPlain cs) (hmark : mark ∈ special) (hg : g ∈ glyphs zone marks cs) :
    g.isMark mark = false :=
  isMark_of_mem_glyphs (.inr (.inr (h.not_mem hmark))) hg

/-- A string whose quotes are escaped ends where it was ended. -/
theorem isQuote_of_mem_glyphs (h : '"' ∈ marks ∨ '"' ∉ cs) (hg : g ∈ glyphs zone marks cs) :
    g.isQuote = false := by
  obtain ⟨c, hc, rfl⟩ := List.mem_map.mp hg
  by_cases heq : c = '"'
  · rcases h with hmark | hnot
    · simp [Glyph.isQuote, heq, hmark]
    · exact absurd (heq ▸ hc) hnot
  · simp [Glyph.isQuote, heq]

/-- Parts with a mark in front of each are what is found between the marks. -/
theorem splitOnP_flatMap {α : Type} {f : α → List Glyph} {p : Glyph → Bool} {sep : Glyph}
    {first : List Glyph} {xs : List α} (hsep : p sep = true) (hfirst : ∀ g ∈ first, p g = false)
    (h : ∀ x ∈ xs, ∀ g ∈ f x, p g = false) :
    (first ++ xs.flatMap fun x => sep :: f x).splitOnP p = first :: xs.map f := by
  induction xs generalizing first with
  | nil =>
    show (first ++ []).splitOnP p = [first]
    rw [List.append_nil, List.splitOnP_eq_singleton hfirst]
  | cons x xs ih =>
    have hrest := ih (h x List.mem_cons_self) fun y hy => h y (List.mem_cons_of_mem _ hy)
    rw [List.flatMap_cons, List.cons_append, List.splitOnP_append_cons_of_forall_mem hfirst _ hsep,
      hrest, List.map_cons]

/-- What stands before and after an equals sign that is the only one. -/
theorem pair?_eq_some {name value : List Glyph} (hname : ∀ g ∈ name, g.isMark '=' = false)
    (hvalue : ∀ g ∈ value, g.isMark '=' = false) (hzone : zone ≠ .quoted) :
    pair? (name ++ ⟨'=', zone, false⟩ :: value) = some (name, value) := by
  have hsep : Glyph.isMark '=' ⟨'=', zone, false⟩ = true := by simp [Glyph.isMark, hzone]
  unfold pair?
  rw [List.splitOnP_append_cons_of_forall_mem hname _ hsep, List.splitOnP_eq_singleton hvalue]

theorem tag?_tagGlyphs {tag : String × String} (h : IsPlain tag.1.toList) :
    tag? (tagGlyphs tag) = some tag := by
  have hname : ∀ g ∈ glyphs .head [] tag.1.toList, g.isMark '=' = false :=
    fun g hg => h.isMark (by decide) hg
  have hvalue : ∀ g ∈ glyphs .head tagMarks tag.2.toList, g.isMark '=' = false := fun g hg =>
    isMark_of_mem_glyphs (.inr (.inl (by decide))) hg
  rw [tag?, tagGlyphs, pair?_eq_some hname hvalue (by decide)]
  simp

/-- A string in quotes is read as its text: only the quotes around it are not escaped. -/
theorem fieldValue?_quoted (value : String) :
    fieldValue? (⟨'"', .fields, false⟩ ::
      (glyphs .quoted fieldMarks value.toList ++ [⟨'"', .quoted, false⟩])) =
        some (.text value) := by
  have hquote : ∀ g ∈ glyphs .quoted fieldMarks value.toList, g.isQuote = false := fun g hg =>
    isQuote_of_mem_glyphs (.inl (by decide)) hg
  unfold fieldValue?
  rw [← List.nil_append (_ :: _),
    List.splitOnP_append_cons_of_forall_mem (by simp) _ (by decide),
    List.splitOnP_append_cons_of_forall_mem hquote _ (by decide), List.splitOnP_nil]
  simp

/-- An integer with its `i` is read as the integer. -/
theorem fieldValue?_integer {count : Int} (h : Text.int64Min ≤ count ∧ count ≤ Text.int64Max) :
    fieldValue? (glyphs .fields [] (Text.integer count ++ ['i'])) = some (.integer count) := by
  have hquote : ∀ g ∈ glyphs .fields [] (Text.integer count ++ ['i']), g.isQuote = false :=
    fun g hg => isQuote_of_mem_glyphs (.inr ((isPlain_count count).not_mem (by decide))) hg
  unfold fieldValue?
  rw [List.splitOnP_eq_singleton hquote]
  simp [Text.int64?_integer h]

theorem field?_fieldGlyphs {field : String × String} (h : IsPlain field.1.toList) :
    field? (fieldGlyphs field) = some (field.1, .text field.2) := by
  have hname : ∀ g ∈ glyphs .fields [] field.1.toList, g.isMark '=' = false :=
    fun g hg => h.isMark (by decide) hg
  have hbody : ∀ g ∈ glyphs .quoted fieldMarks field.2.toList, g.isMark '=' = false := fun g hg =>
    isMark_of_mem_glyphs (.inl rfl) hg
  have hvalue : ∀ g ∈ ⟨'"', .fields, false⟩ ::
      (glyphs .quoted fieldMarks field.2.toList ++ [⟨'"', .quoted, false⟩]),
      g.isMark '=' = false := by
    simp only [List.forall_mem_cons, List.forall_mem_append]
    exact ⟨by decide, hbody, by decide⟩
  rw [field?, fieldGlyphs, pair?_eq_some hname hvalue (by decide)]
  simp [fieldValue?_quoted]

theorem field?_countGlyphs {count : Int} (h : Text.int64Min ≤ count ∧ count ≤ Text.int64Max) :
    field? (countGlyphs count) = some ("count", .integer count) := by
  have hname : ∀ g ∈ glyphs .fields [] "count".toList, g.isMark '=' = false := by decide
  have hvalue : ∀ g ∈ glyphs .fields [] (Text.integer count ++ ['i']), g.isMark '=' = false :=
    fun g hg => (isPlain_count count).isMark (by decide) hg
  rw [field?, countGlyphs, pair?_eq_some hname hvalue (by decide)]
  simp only [Option.bind_some, fieldValue?_integer h, spelled_glyphs, Option.map_some,
    String.ofList_toList]

/-- A tag is cut at no comma and no blank. -/
theorem isMark_of_mem_tagGlyphs {tag : String × String} (h : IsPlain tag.1.toList)
    (hmark : mark = ',' ∨ mark = ' ') (hg : g ∈ tagGlyphs tag) : g.isMark mark = false := by
  have hplain : mark ∈ special := by
    rcases hmark with rfl | rfl <;> decide
  have hescaped : mark ∈ tagMarks := by
    rcases hmark with rfl | rfl <;> decide
  have hne : '=' ≠ mark := by
    rcases hmark with rfl | rfl <;> decide
  rcases List.mem_append.mp hg with hname | hrest
  · exact h.isMark hplain hname
  · rcases List.mem_cons.mp hrest with rfl | hvalue
    · simp [Glyph.isMark, hne]
    · exact isMark_of_mem_glyphs (.inr (.inl hescaped)) hvalue

/-- A string field is cut nowhere. -/
theorem isMark_of_mem_fieldGlyphs {field : String × String} (h : IsPlain field.1.toList)
    (hmark : mark = ',' ∨ mark = ' ' ∨ mark = '\n') (hg : g ∈ fieldGlyphs field) :
    g.isMark mark = false := by
  have hplain : mark ∈ special := by
    rcases hmark with rfl | rfl | rfl <;> decide
  have hne : '=' ≠ mark ∧ '"' ≠ mark := by
    rcases hmark with rfl | rfl | rfl <;> decide
  simp only [fieldGlyphs, List.mem_append, List.mem_cons, List.not_mem_nil, or_false] at hg
  rcases hg with hname | rfl | rfl | hbody | rfl
  · exact h.isMark hplain hname
  · simp [Glyph.isMark, hne.1]
  · simp [Glyph.isMark, hne.2]
  · exact isMark_of_mem_glyphs (.inl rfl) hbody
  · simp [Glyph.isMark]

/-- The count is cut nowhere. -/
theorem isMark_of_mem_countGlyphs {count : Int} (hmark : mark = ',' ∨ mark = ' ' ∨ mark = '\n')
    (hg : g ∈ countGlyphs count) : g.isMark mark = false := by
  have hplain : mark ∈ special := by
    rcases hmark with rfl | rfl | rfl <;> decide
  have hne : '=' ≠ mark := by
    rcases hmark with rfl | rfl | rfl <;> decide
  have hname : IsPlain "count".toList := by decide
  rcases List.mem_append.mp hg with hg | hg
  · exact hname.isMark hplain hg
  · rcases List.mem_cons.mp hg with rfl | hg
    · simp [Glyph.isMark, hne]
    · exact (isPlain_count count).isMark hplain hg

theorem isMark_of_mem_headGlyphs {p : LinePoint} (hp : p.Plain) (hg : g ∈ headGlyphs p) :
    g.isMark ' ' = false := by
  rcases List.mem_append.mp hg with hg | hg
  · exact hp.measurement.isMark (by decide) hg
  · obtain ⟨tag, htag, hg⟩ := List.mem_flatMap.mp hg
    rcases List.mem_cons.mp hg with rfl | hg
    · rfl
    · exact isMark_of_mem_tagGlyphs (hp.tags tag htag) (by decide) hg

theorem isMark_of_mem_bodyGlyphs {p : LinePoint} (hp : p.Plain) (hmark : mark = ' ' ∨ mark = '\n')
    (hg : g ∈ bodyGlyphs p) : g.isMark mark = false := by
  have hcut : mark = ',' ∨ mark = ' ' ∨ mark = '\n' := .inr hmark
  have hne : ',' ≠ mark := by
    rcases hmark with rfl | rfl <;> decide
  rcases List.mem_append.mp hg with hg | hg
  · exact isMark_of_mem_countGlyphs hcut hg
  · obtain ⟨field, hfield, hg⟩ := List.mem_flatMap.mp hg
    rcases List.mem_cons.mp hg with rfl | hg
    · simp [Glyph.isMark, hne]
    · exact isMark_of_mem_fieldGlyphs (hp.fields field hfield) hcut hg

/-! ### Points read back -/

theorem mapM_map_eq_some {α β γ : Type} {f : α → β} {read : β → Option γ} {value : α → γ}
    {xs : List α} (h : ∀ x ∈ xs, read (f x) = some (value x)) :
    (xs.map f).mapM read = some (xs.map value) := by
  induction xs with
  | nil => rfl
  | cons x xs ih =>
    rw [List.map_cons, List.mapM_cons, h x List.mem_cons_self,
      ih fun y hy => h y (List.mem_cons_of_mem _ hy)]
    rfl

/-- What a point says. -/
def tokens (p : LinePoint) : Tokens where
  measurement := p.measurement
  tags := p.tags
  fields := ("count", .integer p.count) :: p.fields.map fun field => (field.1, .text field.2)
  second := p.second

/-- **A written line is read as its point**, when the names are plain and the numbers fit 64
bits. -/
theorem tokens?_text {p : LinePoint} (hp : p.Plain)
    (hcount : Text.int64Min ≤ p.count ∧ p.count ≤ Text.int64Max)
    (hsecond : Text.int64Min ≤ p.second ∧ p.second ≤ Text.int64Max) :
    tokens? p.text = some p.tokens := by
  -- blanks inside of quotes or after a backslash separate nothing, and so do commas
  have hblanks : (scan .head p.text.toList).splitOnP (Glyph.isMark ' ') =
      [headGlyphs p, bodyGlyphs p, glyphs .fields [] (Text.integer p.second)] := by
    rw [text, String.toList_ofList, scan_chars hp,
      List.splitOnP_append_cons_of_forall_mem (fun g hg => isMark_of_mem_headGlyphs hp hg) _ rfl,
      List.splitOnP_append_cons_of_forall_mem
        (fun g hg => isMark_of_mem_bodyGlyphs hp (by decide) hg) _ rfl,
      List.splitOnP_eq_singleton fun g hg => (isPlain_integer p.second).isMark (by decide) hg]
  have htags : (headGlyphs p).splitOnP (Glyph.isMark ',') =
      glyphs .head [] p.measurement.toList :: p.tags.map tagGlyphs :=
    splitOnP_flatMap rfl (fun g hg => hp.measurement.isMark (by decide) hg)
      fun tag htag g hg => isMark_of_mem_tagGlyphs (hp.tags tag htag) (by decide) hg
  have hfields : (bodyGlyphs p).splitOnP (Glyph.isMark ',') =
      countGlyphs p.count :: p.fields.map fieldGlyphs :=
    splitOnP_flatMap rfl (fun g hg => isMark_of_mem_countGlyphs (by decide) hg)
      fun field hfield g hg => isMark_of_mem_fieldGlyphs (hp.fields field hfield) (by decide) hg
  have htagValues : (p.tags.map tagGlyphs).mapM tag? = some p.tags := by
    rw [mapM_map_eq_some fun tag htag => tag?_tagGlyphs (hp.tags tag htag), List.map_id']
  have hfieldValues : (countGlyphs p.count :: p.fields.map fieldGlyphs).mapM field? =
      some p.tokens.fields := by
    rw [List.mapM_cons, field?_countGlyphs hcount,
      mapM_map_eq_some fun field hfield => field?_fieldGlyphs (hp.fields field hfield)]
    rfl
  unfold tokens?
  simp only [hblanks, htags, htagValues, hfields, hfieldValues, map_char_glyphs,
    Text.int64?_integer hsecond, spelled_glyphs, String.ofList_toList]
  rfl

/-! ### Events -/

variable {e e' : Event} {now now' created created' : Instant}

theorem plain_ofEvent (e : Event) (now : Instant) : (ofEvent e now).Plain where
  measurement := by
    show IsPlain eventMeasurement.toList
    decide
  tags := by
    intro tag htag
    have hname : tag.1 ∈ ["namespace", "kind", "kind_name", "reason", "type"] := by
      have hmem := (List.mem_filter.mp htag).1
      exact List.mem_map_of_mem hmem
    revert hname
    generalize tag.1 = name
    revert name
    decide
  fields := by
    intro field hfield
    have hname : field.1 ∈ ["message", "source_component", "source_host", "firstTimestamp",
        "lastTimestamp", "createTimestamp", "evt_name", "resourceVersion"] :=
      List.mem_map_of_mem hfield
    revert hname
    generalize field.1 = name
    revert name
    decide

/-- A tag that was left out reads as an empty one. -/
theorem lookup_filter_isEmpty {tags : List (String × String)} (h : (tags.map Prod.fst).Nodup)
    (name : String) :
    ((tags.filter fun tag => !tag.2.isEmpty).lookup name).getD "" =
      (tags.lookup name).getD "" := by
  induction tags with
  | nil => rfl
  | cons tag tags ih =>
    obtain ⟨key, value⟩ := tag
    obtain ⟨hnew, hnodup⟩ := List.nodup_cons.mp h
    have hrest := ih hnodup
    -- a tag without a value is left out, and looking it up finds no value either way
    by_cases hempty : value.isEmpty
    · rw [List.filter_cons_of_neg (by simp [hempty]), hrest, List.lookup_cons]
      by_cases hkey : name = key
      · -- no other tag has the name of the one that was left out
        have hnone : tags.lookup name = none := by
          rw [List.lookup_eq_none_iff]
          intro tag htag
          have hne : name ≠ tag.1 := by
            rintro rfl
            exact hnew (hkey ▸ List.mem_map.mpr ⟨tag, htag, rfl⟩)
          simpa using hne
        rw [hnone, beq_iff_eq.mpr hkey]
        exact (String.isEmpty_iff.mp hempty).symm
      · rw [beq_false_of_ne hkey]
    · rw [List.filter_cons_of_pos (by simp [hempty]), List.lookup_cons, List.lookup_cons]
      cases hkey : name == key with
      | true => rfl
      | false => exact hrest

/-- The tags of an event with the empty ones. -/
def allTags (e : Event) : List (String × String) :=
  [("namespace", e.namespaceName), ("kind", e.kind), ("kind_name", e.name), ("reason", e.reason),
    ("type", e.type)]

theorem lookup_eventTags (e : Event) (name : String) :
    ((eventTags e).lookup name).getD "" = ((allTags e).lookup name).getD "" := by
  have hnodup : ((allTags e).map Prod.fst).Nodup := by
    show ["namespace", "kind", "kind_name", "reason", "type"].Nodup
    decide
  exact lookup_filter_isEmpty hnodup name

/-- The tags of a point tell the five texts that they are made of, the empty ones too. -/
theorem eq_of_eventTags (h : eventTags e = eventTags e') :
    e.namespaceName = e'.namespaceName ∧ e.kind = e'.kind ∧ e.name = e'.name ∧
      e.reason = e'.reason ∧ e.type = e'.type := by
  have hlookup : ∀ name,
      ((allTags e).lookup name).getD "" = ((allTags e').lookup name).getD "" := by
    intro name
    rw [← lookup_eventTags, ← lookup_eventTags, h]
  exact ⟨hlookup "namespace", hlookup "kind", hlookup "kind_name", hlookup "reason",
    hlookup "type"⟩

/-- What is added to the second of creation. -/
def versionOffset (e : Event) : Int :=
  (Text.int64? 10 e.version.toList).getD 0

/-- The line of an event with a readable time of creation, read back. -/
theorem tokens?_ofEvent (hcreated : Instant.ofStamp? e.created = some created)
    (hfits : Text.int64Min ≤ created.second + versionOffset e ∧
      created.second + versionOffset e ≤ Text.int64Max) (now : Instant) :
    tokens? (ofEvent e now).text = some
      { measurement := "k8sevents"
        tags := [("namespace", e.namespaceName), ("kind", e.kind), ("kind_name", e.name),
          ("reason", e.reason), ("type", e.type)].filter fun tag => !tag.2.isEmpty
        fields := [("count", .integer e.count.toInt), ("message", .text e.message),
          ("source_component", .text e.component), ("source_host", .text e.host),
          ("firstTimestamp", .text e.first), ("lastTimestamp", .text e.last),
          ("createTimestamp", .text e.created), ("evt_name", .text e.name),
          ("resourceVersion", .text e.version)]
        second := created.second + versionOffset e } := by
  have hsecond : (ofEvent e now).second = created.second + versionOffset e := by
    show ((Instant.ofStamp? e.created).getD now).second + _ = _
    rw [hcreated]
    rfl
  have hcount : Text.int64Min ≤ e.count.toInt ∧ e.count.toInt ≤ Text.int64Max := by
    have hlow := e.count.le_toInt
    have hhigh := e.count.toInt_lt
    unfold Text.int64Min Text.int64Max
    omega
  rw [tokens?_text (plain_ofEvent e now) hcount (hsecond ▸ hfits), tokens, hsecond]
  rfl

/-- **A line tells its point.** Reading the line of an event whose time fits 64 bits gives the
measurement, the tags that are not empty, the count, the string fields and the time, all of them as
they were before they were escaped; two events with the same line agree in all of them. -/
theorem line_tells_point (e : Event) (now created : Instant)
    (hcreated : Instant.ofStamp? e.created = some created)
    (hfits : Text.int64Min ≤ created.second + versionOffset e ∧
      created.second + versionOffset e ≤ Text.int64Max) :
    tokens? (ofEvent e now).text = some
      { measurement := "k8sevents"
        tags := [("namespace", e.namespaceName), ("kind", e.kind), ("kind_name", e.name),
          ("reason", e.reason), ("type", e.type)].filter fun tag => !tag.2.isEmpty
        fields := [("count", .integer e.count.toInt), ("message", .text e.message),
          ("source_component", .text e.component), ("source_host", .text e.host),
          ("firstTimestamp", .text e.first), ("lastTimestamp", .text e.last),
          ("createTimestamp", .text e.created), ("evt_name", .text e.name),
          ("resourceVersion", .text e.version)]
        second := created.second + versionOffset e } ∧
    ∀ (e' : Event) (now' created' : Instant), Instant.ofStamp? e'.created = some created' →
      Text.int64Min ≤ created'.second + versionOffset e' ∧
        created'.second + versionOffset e' ≤ Text.int64Max →
      (ofEvent e now).text = (ofEvent e' now').text →
      (e.namespaceName = e'.namespaceName ∧ e.kind = e'.kind ∧ e.name = e'.name ∧
        e.reason = e'.reason ∧ e.type = e'.type) ∧
      e.count = e'.count ∧
      (e.message = e'.message ∧ e.component = e'.component ∧ e.host = e'.host ∧
        e.first = e'.first ∧ e.last = e'.last ∧ e.created = e'.created ∧ e.version = e'.version) ∧
      created.second + versionOffset e = created'.second + versionOffset e' := by
  have hread := tokens?_ofEvent hcreated hfits now
  refine ⟨hread, ?_⟩
  intro e' now' created' hcreated' hfits' hline
  have hread' := tokens?_ofEvent hcreated' hfits' now'
  rw [← hline, hread] at hread'
  injection hread' with hsame
  injection hsame with _ htags hfields htime
  simp only [List.cons.injEq, Prod.mk.injEq, FieldValue.integer.injEq, FieldValue.text.injEq,
    true_and, and_true] at hfields
  obtain ⟨hcount, hmessage, hcomponent, hhost, hfirst, hlast, hcreate, -, hversion⟩ := hfields
  exact ⟨eq_of_eventTags htags, Int32.toInt_inj.mp hcount,
    ⟨hmessage, hcomponent, hhost, hfirst, hlast, hcreate, hversion⟩, htime⟩

/-- An event whose texts end in backslashes and hold everything that delimits. -/
theorem line_tells_backslashed_point :
    let e : Event :=
      { namespaceName := "shop\\", kind := "events", name := "a=b, \"c\"", reason := "\\,\\ \\=",
        message := "say \"a\\\", \\", count := -3, created := "2024-01-02 03:04:05",
        version := "-10" }
    Instant.ofStamp? e.created = some ⟨1704164645, 0⟩ ∧ versionOffset e = -10 ∧
      tokens? (ofEvent e ⟨0, 0⟩).text = some
        { measurement := "k8sevents"
          tags := [("namespace", "shop\\"), ("kind", "events"), ("kind_name", "a=b, \"c\""),
            ("reason", "\\,\\ \\=")]
          fields := [("count", .integer (-3)), ("message", .text "say \"a\\\", \\"),
            ("source_component", .text ""), ("source_host", .text ""), ("firstTimestamp", .text ""),
            ("lastTimestamp", .text ""), ("createTimestamp", .text "2024-01-02 03:04:05"),
            ("evt_name", .text "a=b, \"c\""), ("resourceVersion", .text "-10")]
          second := 1704164635 } ∧
      (ofEvent e ⟨0, 0⟩).text ≠ (ofEvent { e with version := "-11" } ⟨0, 0⟩).text := by
  intro e
  have hcreated : Instant.ofStamp? e.created = some ⟨1704164645, 0⟩ := by decide +kernel
  have hoffset : versionOffset e = -10 := by decide +kernel
  have hother : versionOffset { e with version := "-11" } = -11 := by decide +kernel
  have hfits : Text.int64Min ≤ (1704164645 : Int) + -11 ∧
      (1704164645 : Int) + -11 ≤ Text.int64Max := by
    decide
  obtain ⟨hread, hdiffer⟩ := line_tells_point e ⟨0, 0⟩ _ hcreated (by rw [hoffset]; decide)
  refine ⟨hcreated, hoffset, ?_, ?_⟩
  · rw [hread, hoffset]
    rfl
  · intro hline
    have hsame := hdiffer { e with version := "-11" } ⟨0, 0⟩ ⟨1704164645, 0⟩ hcreated
      (hother.symm ▸ hfits) hline
    rw [hoffset, hother] at hsame
    exact absurd hsame.2.2.2 (by decide)

end ClusterWatch.Sink.LinePoint
