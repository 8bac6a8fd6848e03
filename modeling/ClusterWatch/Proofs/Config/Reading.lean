import ClusterWatch.Config.Format
import ClusterWatch.Proofs.Config.Settings
/-!
# How settings are read

A format reads what a node means, and a record is read by reading each of its settings where it
stands: nothing else in the node has a part in that.

- `Readable`: a format reads what nodes mean, and reads back what it writes.
- `Part`: a field of a record and its settings, of which there is one, or those of a section. What
  is put into the field shows nowhere else, so that the fields of a record are read independently.
- `Described`: the format of a record and the settings of the record.
- `Described.record`, `leaves`: parts of their own make up a record.
-/

namespace ClusterWatch

open Json (Format Layout Value)
open Yaml (Node)

namespace Config

variable {α β γ : Type}

/-- A format reads of a tree what the node of the tree means, and reads back what it writes, also
with the members in the order of their names. -/
structure Readable (format : Format β) (Means : Node → β → Prop) : Prop where
  back : format.ReadsBack
  steady : ∀ b, format.read (format.write b).sorted = .ok b
  reads : ∀ {n v}, n.Becomes v → ∀ {b}, format.read v = .ok b ↔ Means n b

/-! ### Scalars -/

theorem readable_text : Readable .text Text where
  back := Format.readsBack_text
  steady _ := rfl
  reads h b := by
    cases h.shows <;> simp [Format.text, Value.int, Text]

theorem readable_path : Readable pathFormat Text where
  back _ := rfl
  steady _ := rfl
  reads h b := by
    cases h.shows <;> simp [pathFormat, Value.int, Text]

theorem readable_flag : Readable .boolean Flag where
  back _ := rfl
  steady _ := rfl
  reads h b := by
    cases h.shows <;> simp [Format.boolean, Value.int, Flag]

/-- A number is read as it is written, and not read if it is outside of its type. -/
theorem readable_integer {range : String} {toNat : β → Nat} {ofInt? : Int → Option β}
    (h : ∀ {n b}, ofInt? n = some b ↔ n = toNat b) :
    Readable (.integer range (fun b => toNat b) ofInt?) (Count toNat) := by
  have hback : (Format.integer range (fun b => (toNat b : Int)) ofInt?).ReadsBack := by
    intro b
    simp only [Format.integer, Value.int]
    rw [h.mpr rfl]
  refine ⟨hback, fun b => hback b, ?_⟩
  intro n v hbecomes b
  cases hbecomes.shows
  case integer n =>
    simp only [Format.integer, Value.int, Count, Node.integer.injEq]
    rw [← h]
    cases ofInt? n <;> simp
  all_goals simp [Format.integer, Count]

theorem below?_eq_some_iff {bound : Nat} {n : Int} {k : Nat} :
    Format.below? bound n = some k ↔ n = k ∧ k < bound := by
  unfold Format.below?
  split
  · rw [Option.some.injEq]
    omega
  · constructor
    · intro h
      cases h
    · intro h
      omega

/-- The numbers of a type are the natural numbers below its bound. -/
theorem map_below?_eq_some_iff {size : Nat} {ofNat : Nat → β} {toNat : β → Nat}
    (hlow : ∀ {k}, k < size → toNat (ofNat k) = k) (hback : ∀ b, ofNat (toNat b) = b)
    (hsize : ∀ b, toNat b < size) {n : Int} {b : β} :
    (Format.below? size n).map ofNat = some b ↔ n = toNat b := by
  simp only [Option.map_eq_some_iff, below?_eq_some_iff]
  constructor
  · rintro ⟨k, ⟨rfl, hk⟩, rfl⟩
    rw [hlow hk]
  · rintro rfl
    exact ⟨toNat b, ⟨rfl, hsize b⟩, hback b⟩

theorem readable_unsigned16 : Readable .unsigned16 (Count UInt16.toNat) :=
  readable_integer (map_below?_eq_some_iff UInt16.toNat_ofNat_of_lt' (fun _ => UInt16.ofNat_toNat)
    UInt16.toNat_lt)

theorem readable_unsigned32 : Readable .unsigned32 (Count UInt32.toNat) :=
  readable_integer (map_below?_eq_some_iff UInt32.toNat_ofNat_of_lt' (fun _ => UInt32.ofNat_toNat)
    UInt32.toNat_lt)

theorem readable_unsigned64 : Readable .unsigned64 (Count UInt64.toNat) :=
  readable_integer (map_below?_eq_some_iff UInt64.toNat_ofNat_of_lt' (fun _ => UInt64.ofNat_toNat)
    UInt64.toNat_lt)

theorem readable_count64 : Readable .count64 (Count UInt64.toNat) :=
  readable_integer (map_below?_eq_some_iff UInt64.toNat_ofNat_of_lt' (fun _ => UInt64.ofNat_toNat)
    UInt64.toNat_lt)

/-! ### Alternatives, options and lists -/

/-- A mapping with one member becomes an object with one member, and the other way round. -/
theorem single_of_becomes {members : List (Node × Node)} {values : List (String × Value)}
    (h : (Node.mapping members).Becomes (.object values)) :
    (∃ s w m, values = [(s, w)] ∧ members = [(.string s, m)] ∧ m.Becomes w) ∨
      values.length ≠ 1 ∧ members.length ≠ 1 := by
  cases h.shows with
  | mapping _ _ hnames hperm =>
    have hlength : values.length = members.length := by
      simpa using hperm.length_eq
    by_cases hone : values.length = 1
    · obtain ⟨⟨s, w⟩, rfl⟩ := List.length_eq_one_iff.mp hone
      obtain ⟨⟨k, m⟩, rfl⟩ := List.length_eq_one_iff.mp (hlength ▸ hone)
      obtain rfl : k = .string s := by simpa using hperm.symm
      have hchild := h.child? (.member s)
      refine .inl ⟨s, w, m, rfl, rfl, ?_⟩
      simpa [Node.child?, Node.same, Value.child?, Value.member?] using hchild
    · exact .inr ⟨hone, hlength ▸ hone⟩

/-- Alternatives with names of their own are found by their names. -/
theorem named?_eq_ok_iff {all : List β} {name : β → String} (hall : ∀ b, b ∈ all)
    (hname : ∀ {b b'}, name b = name b' → b = b') {s : String} {b : β} :
    Format.named? (all.map fun b => (name b, b)) s = .ok b ↔ s = name b := by
  unfold Format.named?
  rw [List.find?_map]
  cases hfound : all.find? _ with
  | none =>
    constructor
    · intro h
      cases h
    · rintro rfl
      have hnone := List.find?_eq_none.mp hfound b (hall b)
      simp at hnone
  | some b' =>
    obtain rfl : name b' = s := by simpa using List.find?_some hfound
    show Except.ok b' = .ok b ↔ _
    rw [Except.ok.injEq]
    exact ⟨congrArg name, hname⟩

/-- One of several alternatives with names of their own. -/
theorem readable_names {alternatives : List (String × β)} {name : β → String}
    (h : ∀ {s b}, Format.named? alternatives s = .ok b ↔ s = name b) :
    Readable (.names alternatives name) (Choice name) where
  back _ := h.mpr rfl
  steady _ := h.mpr rfl
  reads := by
    intro n v hbecomes b
    cases hbecomes.shows
    case string s => simp [Format.names, Choice, h]
    case mapping members values hnames hperm =>
      -- the map with a single key is the other way to write a choice
      obtain ⟨s, w, m, rfl, rfl, hinner⟩ | ⟨hvalues, hmembers⟩ := single_of_becomes hbecomes
      · have hchoice : Choice name (.mapping [(.string s, m)]) b ↔ s = name b ∧ m = .null := by
          simp [Choice]
        rw [hchoice, ← h]
        simp only [Format.names]
        cases Format.named? alternatives s with
        | error e => simp
        | ok a => cases hinner.shows <;> simp [Value.int]
      · have hread : (Format.names alternatives name).read (.object values) =
            .error (.wrongValue (.object values) "map with a single key") := by
          cases values with
          | nil => rfl
          | cons m rest =>
            cases rest with
            | nil => exact absurd rfl hvalues
            | cons _ _ => rfl
        rw [hread]
        constructor
        · intro heq
          cases heq
        · rintro (hstring | hmapping)
          · cases hstring
          · cases hmapping
            exact absurd rfl hmembers
    all_goals simp [Format.names, Choice, Value.int]

theorem sorted_eq_null {v : Value} : v.sorted = .null ↔ v = .null := by
  cases v <;> simp [Value.sorted]

theorem read_optional {format : Format β} {v : Value} (hv : v ≠ .null) :
    (Format.optional format).read v = (format.read v).map some := by
  cases v with
  | null => exact absurd rfl hv
  | bool | number | string | array | object => rfl

/-- Nothing, or something that is not written as null. -/
theorem readable_optional {format : Format β} {Means : Node → β → Prop}
    (h : Readable format Means) (hnull : ∀ b, format.write b ≠ .null) :
    Readable (.optional format) (Perhaps Means) where
  back
    | none => rfl
    | some b => (read_optional (hnull b)).trans (congrArg (Except.map some) (h.back b))
  steady
    | none => rfl
    | some b => by
      have hsorted : (format.write b).sorted ≠ .null := fun heq => hnull b (sorted_eq_null.mp heq)
      exact (read_optional hsorted).trans (congrArg (Except.map some) (h.steady b))
  reads := by
    intro n v hbecomes b
    by_cases hn : n = .null
    · subst hn
      cases hbecomes.shows
      cases b <;> simp [Format.optional, Perhaps]
    · have hv : v ≠ .null := by
        rintro rfl
        cases hbecomes.shows
        exact hn rfl
      rw [read_optional hv]
      cases b with
      | none => cases format.read v <;> simp [Except.map, Perhaps, hn]
      | some b =>
        show _ ↔ n ≠ .null ∧ Means n b
        rw [← h.reads hbecomes]
        cases format.read v <;> simp [Except.map, hn]

/-- The items of an array are read as a list one by one. -/
theorem mapM_read {format : Format β} {write : β → Value} (h : ∀ b, format.read (write b) = .ok b)
    (bs : List β) : (bs.map write).mapM format.read = .ok bs := by
  rw [mapM_eq_ok_iff, List.forall₂_map_left_iff]
  exact List.forall₂_same.mpr fun b _ => h b

/-- The items of a list. -/
theorem readable_list {format : Format β} {Means : Node → β → Prop} (h : Readable format Means) :
    Readable (.list format) (Each Means) where
  back := mapM_read h.back
  steady := by
    intro bs
    show (Format.list format).read (Value.sorted (.array _)) = _
    rw [Value.sorted_array, List.map_map]
    exact mapM_read h.steady bs
  reads := by
    intro n v hbecomes bs
    cases n with
    | sequence items =>
      obtain ⟨values, rfl, hitems⟩ := hbecomes.items
      have hall : List.Forall₂ (fun v b => format.read v = .ok b) values bs ↔
          List.Forall₂ Means items bs := by
        clear hbecomes
        induction hitems generalizing bs with
        | nil => simp
        | cons hhead _ ih => simp only [List.forall₂_cons_left_iff, h.reads hhead, ih]
      show values.mapM format.read = .ok bs ↔ _
      rw [mapM_eq_ok_iff, hall]
      simp [Each]
    | null | bool | integer | real | string | mapping | unsupported =>
      cases hbecomes.shows
      all_goals simp [Format.list, Each, Value.int]

/-! ### Records -/

section

variable {format : Format β} {Means : Node → β → Prop} {name : String} {get : α → β}
  {put : β → α → α} {members : List (Node × Node)} {values : List (String × Value)}
  {fields : List (Json.Field α)} {i : Nat} {start a b : α}

/-- What is said about a setting right in the record is what is there under its name. -/
theorem told_leaf {Same : Node → Node → Prop} {n : Node} :
    (Setting.leaf name Means get Same).Told n start a ↔
    match n.child? (.member name) with
    | some w => Means w (get a)
    | none => get a = get start := by
  show (match (n.child? (.member name)).bind some with
    | some w => Means w (get a)
    | none => get a = get start) ↔ _
  rw [Option.bind_fun_some]

/-- What is said about a setting of a section is what the section says. -/
theorem told_within {s : Setting β} {n : Node} : (s.within name get).Told n start a ↔
    match n.child? (.member name) with
    | some w => s.Told w (get start) (get a)
    | none => s.get (get a) = s.get (get start) := by
  show (match (n.child? (.member name)).bind (·.under s.path) with
    | some w => s.Means w (s.get (get a))
    | none => s.get (get a) = s.get (get start)) ↔ _
  cases n.child? (.member name) with
  | none => rfl
  | some w => rfl

/-- A section stands in a mapping, and so do its settings in it. -/
theorem sectioned_within {settings : List (Setting β)} (hsome : ∃ s ∈ settings, s.path ≠ [])
    {n w : Node} (h : Sectioned (settings.map (.within name get)) n)
    (hw : n.child? (.member name) = some w) :
    (∃ members, w = .mapping members) ∧ Sectioned settings w := by
  have hunder : ∀ path, n.under (name :: path) = w.under path := by
    intro path
    show (n.child? (.member name)).bind _ = _
    rw [hw]
    rfl
  constructor
  · obtain ⟨s, hs, hpath⟩ := hsome
    refine h _ (List.mem_map_of_mem hs) [name] ?_ ?_ w (hunder [])
    · exact List.cons_prefix_cons.mpr ⟨rfl, List.nil_prefix⟩
    · intro heq
      exact hpath (List.cons.inj heq).2.symm
  · intro s hs path hprefix hne u hu
    refine h _ (List.mem_map_of_mem hs) (name :: path) ?_ ?_ u ((hunder path).trans hu)
    · exact List.cons_prefix_cons.mpr ⟨rfl, hprefix⟩
    · intro heq
      exact hne (List.cons.inj heq).2

/-- What is in a mapping under a name becomes what is in the object under the name. -/
theorem becomes_member (h : (Node.mapping members).Becomes (.object values)) (name : String) :
    Option.Rel Node.Becomes ((Node.mapping members).child? (.member name))
      ((Value.object values).member? name) :=
  h.child? (.member name)

/-- A field at a place among others, and its settings. What is put into it shows nowhere else. -/
structure Part (start : α) (fields : List (Json.Field α)) (place : Json.Field α × Nat)
    (settings : List (Setting α)) : Prop where
  lawful : place.1.Lawful
  steady : ∀ a, place.1.set (place.1.get a).sorted a = .ok a
  keeps : ∀ {v a a'}, place.1.set v a = .ok a' →
    fields.map (·.get a') = (fields.map (·.get a)).set place.2 (place.1.get a')
  shows : ∀ {a b}, place.1.get a = place.1.get b ↔ ∀ s ∈ settings, s.get a = s.get b
  told : ∀ {members values}, (Node.mapping members).Becomes (.object values) →
    Sectioned settings (.mapping members) →
      ∀ {a}, place.1.Told values start a ↔ ∀ s ∈ settings, s.Told (.mapping members) start a

/-- The format of a record, and its settings. -/
structure Described (format : Format β) (settings : List (Setting β)) (start : β) : Prop where
  back : format.ReadsBack
  steady : ∀ b, format.read (format.write b).sorted = .ok b
  ext : ∀ {b b'}, (∀ s ∈ settings, s.get b = s.get b') → b = b'
  reads : ∀ {members v}, (Node.mapping members).Becomes v → Sectioned settings (.mapping members) →
    ∀ {b}, format.read v = .ok b ↔ ∀ s ∈ settings, s.Told (.mapping members) start b

/-- What is written in a format that reads back differs for different things. -/
theorem write_inj (h : format.ReadsBack) {b b' : β} :
    format.write b = format.write b' ↔ b = b' := by
  constructor
  · intro heq
    have hread := h b
    rw [heq, h b'] at hread
    exact (Except.ok.inj hread).symm
  · rintro rfl
    rfl

/-- What a field shows was put there. -/
theorem set_eq_iff (hget : ∀ x a, get (put x a) = x) (hput : ∀ a, put (get a) a = a) {v : Value} :
    (Json.Field.of name format get put).set v a = .ok a ↔ format.read v = .ok (get a) := by
  rw [Json.Field.set_eq_ok_iff]
  constructor
  · rintro ⟨x, hx, hxa⟩
    rw [hx, ← hxa, hget]
  · intro hread
    exact ⟨get a, hread, hput a⟩

theorem steady_of (hsteady : ∀ b, format.read (format.write b).sorted = .ok b)
    (hput : ∀ a, put (get a) a = a) (a : α) :
    (Json.Field.of name format get put).set ((Json.Field.of name format get put).get a).sorted a =
      .ok a :=
  Json.Field.set_eq_ok_iff.mpr ⟨get a, hsteady _, hput a⟩

/-- What is put into a field shows in nothing but the field. -/
theorem keeps_of (hkeeps : ∀ x a, fields.map (·.get (put x a)) =
      (fields.map (·.get a)).set i (format.write (get (put x a)))) {v : Value} {a a' : α}
    (hset : (Json.Field.of name format get put).set v a = .ok a') :
    fields.map (·.get a') = (fields.map (·.get a)).set i (format.write (get a')) := by
  obtain ⟨x, -, rfl⟩ := Json.Field.set_eq_ok_iff.mp hset
  exact hkeeps x a

/-- A setting right in the record. -/
theorem Part.leaf {Same : Node → Node → Prop} (h : Readable format Means)
    (hkeeps : ∀ x a, fields.map (·.get (put x a)) =
      (fields.map (·.get a)).set i (format.write (get (put x a))))
    (hget : ∀ x a, get (put x a) = x) (hput : ∀ a, put (get a) a = a) :
    Part start fields (.of name format get put, i) [.leaf name Means get Same] where
  lawful := .of h.back hget
  steady := steady_of h.steady hput
  keeps := keeps_of hkeeps
  shows := by
    intro a b
    rw [List.forall_mem_singleton]
    exact write_inj h.back
  told := by
    intro members values hbecomes _ a
    rw [List.forall_mem_singleton]
    have hmember := becomes_member hbecomes name
    rw [told_leaf]
    unfold Json.Field.Told
    rw [show (Json.Field.of name format get put).name = name from rfl]
    generalize (Node.mapping members).child? (.member name) = n at hmember
    generalize (Value.object values).member? name = v at hmember
    cases hmember with
    | none => exact write_inj h.back
    | some hinner => exact (set_eq_iff hget hput).trans (h.reads hinner)

/-- The settings of a section. -/
theorem Part.section {settings : List (Setting β)} {begin : β}
    (h : Described format settings begin) (hsome : ∃ s ∈ settings, s.path ≠ [])
    (hbegin : get start = begin)
    (hkeeps : ∀ x a, fields.map (·.get (put x a)) =
      (fields.map (·.get a)).set i (format.write (get (put x a))))
    (hget : ∀ x a, get (put x a) = x) (hput : ∀ a, put (get a) a = a) :
    Part start fields (.of name format get put, i) (settings.map (.within name get)) where
  lawful := .of h.back hget
  steady := steady_of h.steady hput
  keeps := keeps_of hkeeps
  shows := by
    intro a b
    rw [List.forall_mem_map]
    refine (write_inj h.back).trans ?_
    constructor
    · intro heq s _
      exact congrArg s.get heq
    · exact h.ext
  told := by
    intro members values hbecomes hsectioned a
    rw [List.forall_mem_map]
    have hmember := becomes_member hbecomes name
    have hsection := fun {w} => sectioned_within (w := w) hsome hsectioned
    simp only [told_within, hbegin]
    unfold Json.Field.Told
    rw [show (Json.Field.of name format get put).name = name from rfl]
    generalize (Node.mapping members).child? (.member name) = n at hmember hsection
    generalize (Value.object values).member? name = v at hmember
    -- a section that is left out is read as the one of the start
    cases hmember with
    | none =>
      show format.write (get a) = format.write (get start) ↔ _
      rw [write_inj h.back, hbegin]
      constructor
      · intro heq s _
        exact congrArg s.get heq
      · exact h.ext
    | some hinner =>
      obtain ⟨⟨members, rfl⟩, hsettings⟩ := hsection rfl
      exact (set_eq_iff hget hput).trans (h.reads hinner hsettings)

/-! ### Parts together -/

section

variable {places : List (Json.Field α × Nat)} {parts : List (List (Setting α))}

theorem lawful_of_parts (h : List.Forall₂ (Part start fields) places parts) :
    ∀ p ∈ places, p.1.Lawful ∧ ∀ a, p.1.set (p.1.get a).sorted a = .ok a := by
  induction h with
  | nil => exact nofun
  | cons hpart _ ih => exact List.forall_mem_cons.mpr ⟨⟨hpart.lawful, hpart.steady⟩, ih⟩

theorem keeps_of_parts (h : List.Forall₂ (Part start fields) places parts) :
    ∀ p ∈ places, ∀ {v a a'}, p.1.set v a = .ok a' →
      fields.map (·.get a') = (fields.map (·.get a)).set p.2 (p.1.get a') := by
  induction h with
  | nil => exact nofun
  | cons hpart _ ih => exact List.forall_mem_cons.mpr ⟨fun hset => hpart.keeps hset, ih⟩

theorem shows_of_parts (h : List.Forall₂ (Part start fields) places parts) :
    (∀ p ∈ places, p.1.get a = p.1.get b) ↔ ∀ s ∈ parts.flatten, s.get a = s.get b := by
  induction h with
  | nil => simp
  | cons hpart _ ih =>
    rw [List.forall_mem_cons, List.flatten_cons, List.forall_mem_append, hpart.shows, ih]

theorem told_of_parts (h : List.Forall₂ (Part start fields) places parts)
    (hbecomes : (Node.mapping members).Becomes (.object values))
    (hsectioned : Sectioned parts.flatten (.mapping members)) :
    (∀ p ∈ places, p.1.Told values start a) ↔
      ∀ s ∈ parts.flatten, s.Told (.mapping members) start a := by
  induction h with
  | nil => simp
  | cons hpart _ ih =>
    rw [List.flatten_cons] at hsectioned
    have hfirst := hpart.told hbecomes (a := a) fun s hs =>
      hsectioned s (List.mem_append_left _ hs)
    have hrest := ih fun s hs => hsectioned s (List.mem_append_right _ hs)
    rw [List.forall_mem_cons, List.flatten_cons, List.forall_mem_append, hfirst, hrest]

/-- What holds of the fields at their places holds of the fields. -/
theorem forall_mem_places {P : Json.Field α → Prop} :
    (∀ p ∈ fields.zipIdx, P p.1) ↔ ∀ f ∈ fields, P f := by
  rw [← List.forall_mem_map (f := Prod.fst), List.zipIdx_map_fst]

/-- What is put into one field does not show in another. -/
theorem apart_of_parts (h : List.Forall₂ (Part start fields) fields.zipIdx parts)
    {f g : Json.Field α} (hf : f ∈ fields) (hg : g ∈ fields) (hname : g.name ≠ f.name) {v : Value}
    {a a' : α} (hset : f.set v a = .ok a') : g.get a' = g.get a := by
  obtain ⟨i, hi⟩ := List.mem_iff_getElem?.mp hf
  obtain ⟨j, hj⟩ := List.mem_iff_getElem?.mp hg
  have hij : i ≠ j := by
    rintro rfl
    exact hname (congrArg _ (Option.some.inj (hj.symm.trans hi)))
  have hkeeps := keeps_of_parts h (f, i) (List.mem_zipIdx_iff_getElem?.mpr hi) hset
  have hthere := congrArg (·[j]?) hkeeps
  simpa [hij, hj] using hthere

theorem names_members (fields : List (Json.Field α)) (a : α) :
    (Json.Field.members fields a).map (·.1) = fields.map Json.Field.name := by
  rw [Json.Field.members, List.map_map]
  rfl

/-- The member of a field in what is written. -/
theorem member?_members (h : Layout fields) {f : Json.Field α} (hf : f ∈ fields) (a : α) :
    (Value.object (Json.Field.members fields a)).member? f.name = some (f.get a) := by
  refine (Value.member?_eq_some_iff ?_).mpr (List.mem_map_of_mem hf)
  rw [names_members]
  exact h.names

/-- What is written with different names is read if each field takes what it shows. -/
theorem read_of_told {fields : List (Json.Field α)} (h : Layout fields) (title : String)
    (hnames : (values.map (·.1)).Nodup) (htold : ∀ f ∈ fields, f.Told values start a) :
    (Format.record title fields start).read (.object values) = .ok a :=
  (h.setMembers_eq_ok_iff (Json.unrepeated_of_nodup fields hnames)).mpr htold

/-- Parts of their own make up a record. -/
theorem Described.record {settings : List (Setting α)} (title : String)
    (parts : List (List (Setting α))) (hsettings : settings = parts.flatten)
    (hnames : (fields.map Json.Field.name).Nodup)
    (hparts : List.Forall₂ (Part start fields) fields.zipIdx parts)
    (hext : ∀ {a b}, (∀ s ∈ settings, s.get a = s.get b) → a = b) :
    Described (.record title fields start) settings start := by
  subst hsettings
  have hlawful : ∀ f ∈ fields, f.Lawful ∧ ∀ a, f.set (f.get a).sorted a = .ok a :=
    forall_mem_places.mp (lawful_of_parts hparts)
  have hlayout : Layout fields :=
    { names := hnames
      lawful := fun f hf => (hlawful f hf).1
      apart := fun f hf g hg hname => apart_of_parts hparts hf hg hname
      ext := fun hshows => hext ((shows_of_parts hparts).mp (forall_mem_places.mpr hshows)) }
  have hwritten : ∀ a, ((Json.Field.members fields a).map (·.1)).Nodup := by
    intro a
    rw [names_members]
    exact hnames
  refine { back := ?_, steady := ?_, ext := hext, reads := ?_ }
  · intro a
    refine read_of_told hlayout title (hwritten a) fun f hf => ?_
    unfold Json.Field.Told
    rw [member?_members hlayout hf]
    exact hlayout.set_get hf a
  · intro a
    -- the members are written in the order of the fields, and sorted by their names
    obtain ⟨ordered, hsorted, hperm⟩ := Value.sorted_object_perm (hwritten a)
    show (Format.record title fields start).read (Value.sorted (.object _)) = _
    have hordered : (ordered.map (·.1)).Nodup := by
      rw [(hperm.map _).nodup_iff, Value.names_sorted]
      exact hwritten a
    rw [hsorted]
    refine read_of_told hlayout title hordered fun f hf => ?_
    unfold Json.Field.Told
    rw [← hsorted, Value.member?_sorted (hwritten a), member?_members hlayout hf]
    exact (hlawful f hf).2 a
  · intro members v hbecomes hsectioned a
    cases hbecomes.shows with
    | mapping _ values hvalues _ =>
      show Json.Field.setMembers fields values start = .ok a ↔ _
      rw [hlayout.setMembers_eq_ok_iff (Json.unrepeated_of_nodup fields hvalues)]
      exact forall_mem_places.symm.trans (told_of_parts hparts hbecomes hsectioned)

/-- Settings of their own make up a record without sections. -/
theorem Described.leaves {settings : List (Setting α)} (title : String)
    (hnames : (fields.map Json.Field.name).Nodup)
    (hparts : List.Forall₂ (fun p s => Part start fields p [s]) fields.zipIdx settings)
    (hext : ∀ {a b}, (∀ s ∈ settings, s.get a = s.get b) → a = b) :
    Described (.record title fields start) settings start := by
  refine .record title (settings.map ([·])) ?_ hnames ?_ hext
  · rw [← List.flatMap_def, List.flatMap_singleton']
  · exact List.forall₂_map_right_iff.mpr hparts

end

end

end Config

end ClusterWatch
