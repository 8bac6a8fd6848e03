import ClusterWatch.Json.Format
import Mathlib.Data.List.Nodup
/-!
# Records as members

A record is read by putting the members of an object into it, one after the other. As long as its
fields have names of their own and each of them is a place of its own, what comes of that depends on
the member of each field and on nothing else: not on the order of the members, not on members that
are no fields, and a field without a member stays as it was.

- `Format.ReadsBack`: what is written is read back.
- `Field.Lawful`: a field is a place that shows what was put there.
- `Layout`: fields that make up a record.
- `Field.Told`: what members say about a field.
- `Field.read?`: the record of an object that gives no member of a field twice.
- `Layout.read?_members`: the members of a record are read as the record.
- `Layout.read?_perm`, `read?_filter`, `read?_without`: another order, members that are no fields,
  and a member that is left out.

Main result: `Layout.setMembers_eq_ok_iff`.
-/

namespace ClusterWatch.Json

variable {α β : Type}

/-- What is written in a format is read back. -/
def Format.ReadsBack (format : Format α) : Prop :=
  ∀ a, format.read (format.write a) = .ok a

theorem Format.readsBack_text : Format.text.ReadsBack :=
  fun _ => rfl

/-- The integers of 32 bits are those that are accepted. -/
theorem Format.readsBack_signed32 : Format.signed32.ReadsBack := by
  intro n
  have hrange : Int32.minValue.toInt ≤ n.toInt ∧ n.toInt ≤ Int32.maxValue.toInt := by
    have hlow : -2 ^ 31 ≤ n.toInt := n.le_toInt
    have hhigh : n.toInt < 2 ^ 31 := n.toInt_lt
    have hmin : Int32.minValue.toInt = -2 ^ 31 := rfl
    have hmax : Int32.maxValue.toInt = 2 ^ 31 - 1 := rfl
    omega
  simp only [signed32, integer, Value.int]
  rw [if_pos hrange, Int32.ofInt_toInt]

/-! ### Fields -/

/-- A field is a place: what it shows can be put there, and whether a value can be put there, and
what it shows as, does not depend on the record. -/
structure Field.Lawful (f : Field α) : Prop where
  own : ∀ a b, ∃ b', f.set (f.get a) b = .ok b' ∧ f.get b' = f.get a
  alike : ∀ {v a a'}, f.set v a = .ok a' → ∀ b, ∃ b', f.set v b = .ok b' ∧ f.get b' = f.get a'

section

variable {name : String} {format : Format β} {get : α → β} {put : β → α → α} {v : Value} {a a' : α}

/-- What is put into a field is put in by its own update. -/
theorem Field.set_eq_ok_iff :
    (Field.of name format get put).set v a = .ok a' ↔
      ∃ x, format.read v = .ok x ∧ put x a = a' := by
  show (format.read v).map _ = _ ↔ _
  cases format.read v with
  | error e => simp [Except.map]
  | ok x => simp [Except.map]

theorem Field.Lawful.of (hformat : format.ReadsBack) (hget : ∀ x a, get (put x a) = x) :
    (Field.of name format get put).Lawful where
  own a b := by
    refine ⟨put (get a) b, set_eq_ok_iff.mpr ⟨get a, hformat _, rfl⟩, ?_⟩
    show format.write (get (put (get a) b)) = format.write (get a)
    rw [hget]
  alike h b := by
    obtain ⟨x, hx, rfl⟩ := set_eq_ok_iff.mp h
    refine ⟨put x b, set_eq_ok_iff.mpr ⟨x, hx, rfl⟩, ?_⟩
    show format.write (get (put x b)) = format.write (get (put x _))
    rw [hget, hget]

end

/-- Fields that make up a record: each has a name and a place of its own, and together they show all
of the record. -/
structure Layout (fields : List (Field α)) : Prop where
  names : (fields.map Field.name).Nodup
  lawful : ∀ f ∈ fields, f.Lawful
  apart : ∀ f ∈ fields, ∀ g ∈ fields, g.name ≠ f.name → ∀ {v a a'}, f.set v a = .ok a' →
    g.get a' = g.get a
  ext : ∀ {a b}, (∀ f ∈ fields, f.get a = f.get b) → a = b

/-- What members say about a field of a record that was made from another: the member of the field
has been put in, and without one the field is as it was. -/
def Field.Told (f : Field α) (members : List (String × Value)) (start a : α) : Prop :=
  match (Value.object members).member? f.name with
  | some v => f.set v a = .ok a
  | none => f.get a = f.get start

/-- No member of a field is given twice. -/
def Unrepeated (fields : List (Field α)) (members : List (String × Value)) : Prop :=
  ∀ f ∈ fields, (members.filter fun m => m.1 == f.name).length ≤ 1

namespace Layout

variable {fields : List (Field α)} {f g : Field α} {members : List (String × Value)}
  {a b start : α} {v : Value}

theorem eq_of_name (h : Layout fields) (hf : f ∈ fields) (hg : g ∈ fields)
    (hname : g.name = f.name) : g = f :=
  List.inj_on_of_nodup_map h.names hg hf hname

/-- The field of a name is the only one of that name. -/
theorem find?_eq_some (h : Layout fields) (hf : f ∈ fields) :
    Field.find? fields f.name = some f := by
  obtain ⟨g, hg⟩ : ∃ g, Field.find? fields f.name = some g := by
    rw [← Option.isSome_iff_exists, Field.find?, List.find?_isSome]
    exact ⟨f, hf, by simp⟩
  have hmem : g ∈ fields := List.mem_of_find?_eq_some hg
  have hname : g.name = f.name := by simpa using List.find?_some hg
  rw [hg, h.eq_of_name hf hmem hname]

theorem filter_name (h : Layout fields) (hf : f ∈ fields) :
    (fields.filter fun g => g.name == f.name) = [f] := by
  have hhead : (fields.filter fun g => g.name == f.name).head? = some f := by
    rw [List.head?_filter]
    exact h.find?_eq_some hf
  have hlength : (fields.filter fun g => g.name == f.name).length = 1 := by
    rw [← List.countP_eq_length_filter,
      ← List.count_eq_one_of_mem h.names (List.mem_map_of_mem hf), List.count, List.countP_map]
    rfl
  obtain ⟨g, hg⟩ := List.length_eq_one_iff.mp hlength
  rw [hg] at hhead ⊢
  rw [Option.some.inj hhead]

/-- What was put into a field shows in it, and everything that shows that is left as it is when the
same is put in again. -/
theorem get_eq_iff_set (h : Layout fields) (hf : f ∈ fields) {a' : α} (hset : f.set v a = .ok a') :
    f.get b = f.get a' ↔ f.set v b = .ok b := by
  obtain ⟨b', hb', hsame⟩ := (h.lawful f hf).alike hset b
  constructor
  · intro hget
    have heq : b' = b := by
      refine h.ext fun g hg => ?_
      by_cases hname : g.name = f.name
      · obtain rfl := h.eq_of_name hf hg hname
        rw [hsame, hget]
      · exact h.apart f hf g hg hname hb'
    rw [hb', heq]
  · intro hkeep
    obtain rfl := Except.ok.inj (hkeep.symm.trans hb')
    exact hsame

/-- Putting in what a field shows changes nothing. -/
theorem set_get (h : Layout fields) (hf : f ∈ fields) (a : α) : f.set (f.get a) a = .ok a := by
  obtain ⟨a', hset, hget⟩ := (h.lawful f hf).own a a
  exact (h.get_eq_iff_set hf hset).mp hget.symm

/-! ### Members -/

theorem member?_cons (name : String) (m : String × Value) (members : List (String × Value)) :
    (Value.object (m :: members)).member? name =
      if m.1 = name then some m.2 else (Value.object members).member? name := by
  show (List.find? _ (m :: members)).map _ = _
  by_cases hname : m.1 = name
  · rw [List.find?_cons_of_pos (by simpa using hname), if_pos hname]
    rfl
  · rw [List.find?_cons_of_neg (by simpa using hname), if_neg hname]
    rfl

theorem member?_eq_none {name : String} (h : ∀ m ∈ members, m.1 ≠ name) :
    (Value.object members).member? name = none := by
  induction members with
  | nil => rfl
  | cons m members ih =>
    rw [member?_cons, if_neg (h m List.mem_cons_self),
      ih fun m hm => h m (List.mem_cons_of_mem _ hm)]

/-- The first member of a name that is given once is not given again. -/
theorem member?_of_unrepeated {m : String × Value} (hf : f ∈ fields) (hname : m.1 = f.name)
    (h : Unrepeated fields (m :: members)) : (Value.object members).member? f.name = none := by
  refine member?_eq_none fun m' hm' hagain => ?_
  have hlength := h f hf
  rw [List.filter_cons_of_pos (by simpa using hname), List.length_cons] at hlength
  have hmem : m' ∈ members.filter fun m => m.1 == f.name :=
    List.mem_filter.mpr ⟨hm', by simpa using hagain⟩
  have hpos := List.length_pos_of_mem hmem
  omega

theorem unrepeated_tail {m : String × Value} (h : Unrepeated fields (m :: members)) :
    Unrepeated fields members := by
  intro f hf
  refine Nat.le_trans ?_ (h f hf)
  exact (List.sublist_cons_self m members).filter _ |>.length_le

/-- A member of another name says nothing about a field. -/
theorem told_cons_of_ne {m : String × Value} (hname : m.1 ≠ f.name) :
    f.Told (m :: members) start a ↔ f.Told members start a := by
  unfold Field.Told
  rw [member?_cons, if_neg hname]

/-- The member of its name says all about a field. -/
theorem told_cons_of_eq {m : String × Value} (hname : m.1 = f.name) :
    f.Told (m :: members) start a ↔ f.set m.2 a = .ok a := by
  unfold Field.Told
  rw [member?_cons, if_pos hname]

/-- Once the first member has been put in, the others say what all of them have said before. -/
theorem told_of_put (h : Layout fields) (hf : f ∈ fields) (hg : g ∈ fields) {m : String × Value}
    (hname : m.1 = f.name) (hmembers : Unrepeated fields (m :: members)) {next : α}
    (hput : f.set m.2 start = .ok next) :
    g.Told members next a ↔ g.Told (m :: members) start a := by
  by_cases hsame : g.name = f.name
  · -- nothing is put into the field of the member after that
    obtain rfl := h.eq_of_name hf hg hsame
    rw [told_cons_of_eq hname, ← h.get_eq_iff_set hf hput]
    unfold Field.Told
    rw [member?_of_unrepeated hf hname hmembers]
  · rw [told_cons_of_ne (hname ▸ Ne.symm hsame)]
    unfold Field.Told
    cases (Value.object members).member? g.name with
    | none => rw [h.apart f hf g hg hsame hput]
    | some w => exact Iff.rfl

/-- **Putting members into a record, without the order.** It succeeds with a record exactly when the
record shows every member of a field and is as it was in all fields without one. -/
theorem setMembers_eq_ok_iff (h : Layout fields) (hmembers : Unrepeated fields members) :
    Field.setMembers fields members start = .ok a ↔ ∀ f ∈ fields, f.Told members start a := by
  induction members generalizing start with
  | nil =>
    constructor
    · rintro ⟨⟩ f hf
      rfl
    · intro htold
      rw [h.ext htold]
      rfl
  | cons m members ih =>
    have htail := unrepeated_tail hmembers
    rw [Field.setMembers]
    -- a member that no field reads is passed over
    cases hfind : Field.find? fields m.1 with
    | none =>
      have hother : ∀ f ∈ fields, m.1 ≠ f.name := by
        intro f hf hname
        rw [hname, h.find?_eq_some hf] at hfind
        cases hfind
      show Field.setMembers fields members start = .ok a ↔ _
      rw [ih htail]
      exact forall₂_congr fun f hf => (told_cons_of_ne (hother f hf)).symm
    | some f =>
      have hf : f ∈ fields := List.mem_of_find?_eq_some hfind
      have hname : f.name = m.1 := by simpa using List.find?_some hfind
      show (f.set m.2 start).bind (Field.setMembers fields members) = .ok a ↔ _
      cases hput : f.set m.2 start with
      | error e =>
        constructor
        · rintro ⟨⟩
        · -- the record that shows the member would take it, and so would any other
          intro htold
          have hkeep := (told_cons_of_eq hname.symm).mp (htold f hf)
          obtain ⟨b, hb, -⟩ := (h.lawful f hf).alike hkeep start
          rw [hput] at hb
          cases hb
      -- what the member put there is not changed by the members after it
      | ok next =>
        show Field.setMembers fields members next = .ok a ↔ _
        rw [ih htail]
        exact forall₂_congr fun g hg => h.told_of_put hf hg hname.symm hmembers hput

end Layout

/-! ### Reading records -/

instance (fields : List (Field α)) (members : List (String × Value)) :
    Decidable (Unrepeated fields members) :=
  inferInstanceAs (Decidable (∀ f ∈ fields, _))

/-- The record of an object that gives no member of a field twice. -/
def Field.read? (fields : List (Field α)) (start : α) (members : List (String × Value)) :
    Option α :=
  if Unrepeated fields members then (setMembers fields members start).toOption else none

namespace Layout

variable {fields : List (Field α)} {f g : Field α} {members members' : List (String × Value)}
  {a start : α}

theorem read?_eq_some_iff (h : Layout fields) :
    Field.read? fields start members = some a ↔
      Unrepeated fields members ∧ ∀ f ∈ fields, f.Told members start a := by
  unfold Field.read?
  split
  · next hmembers =>
    rw [← h.setMembers_eq_ok_iff hmembers]
    cases Field.setMembers fields members start with
    | error e => simp [Except.toOption]
    | ok b => simp [Except.toOption, hmembers]
  · next hmembers => simp [hmembers]

/-- The value under a name is the first of that name. -/
theorem member?_eq_head? (name : String) (members : List (String × Value)) :
    (Value.object members).member? name =
      (members.filter fun m => m.1 == name).head?.map (·.2) := by
  rw [List.head?_filter]
  rfl

/-- Leaving out the members of a name leaves those of another. -/
theorem member?_filter_ne {name other : String} (hne : name ≠ other) :
    (Value.object (members.filter fun m => m.1 != other)).member? name =
      (Value.object members).member? name := by
  rw [member?_eq_head?, member?_eq_head?, List.filter_filter]
  congr 2
  refine List.filter_congr fun m _ => ?_
  by_cases hm : m.1 = name
  · simp [hm, hne]
  · simp [hm]

/-- Members that are the same for every field are read as the same record. -/
theorem read?_congr (h : Layout fields)
    (hsame : ∀ f ∈ fields, (members'.filter fun m => m.1 == f.name) =
      members.filter fun m => m.1 == f.name) :
    Field.read? fields start members' = Field.read? fields start members := by
  refine Option.ext fun a => ?_
  rw [h.read?_eq_some_iff, h.read?_eq_some_iff]
  refine and_congr (forall₂_congr fun f hf => ?_) (forall₂_congr fun f hf => ?_)
  · rw [hsame f hf]
  · unfold Field.Told
    rw [member?_eq_head?, member?_eq_head?, hsame f hf]

/-- The order of members does not matter. -/
theorem read?_perm (h : Layout fields) (hperm : members'.Perm members) :
    Field.read? fields start members' = Field.read? fields start members := by
  by_cases hmembers : Unrepeated fields members
  · refine h.read?_congr fun f hf => ?_
    have hfilter := hperm.filter fun m => m.1 == f.name
    -- at most one member is left, which has no other order
    have hlength := hmembers f hf
    generalize members.filter (fun m => m.1 == f.name) = kept at hfilter hlength
    match kept with
    | [] => exact List.perm_nil.mp hfilter
    | [m] => exact List.perm_singleton.mp hfilter
    | _ :: _ :: _ => simp at hlength
  · have hmembers' : ¬Unrepeated fields members' := by
      intro hother
      refine hmembers fun f hf => ?_
      rw [← (hperm.filter fun m => m.1 == f.name).length_eq]
      exact hother f hf
    rw [Field.read?, Field.read?, if_neg hmembers, if_neg hmembers']

/-- Members that are no fields do not matter. -/
theorem read?_filter (h : Layout fields) (start : α) (members : List (String × Value)) :
    Field.read? fields start (members.filter fun m => fields.any fun f => f.name == m.1) =
      Field.read? fields start members := by
  refine h.read?_congr fun f hf => ?_
  rw [List.filter_filter]
  refine List.filter_congr fun m _ => ?_
  by_cases hname : m.1 = f.name
  · have hany : (fields.any fun g => g.name == m.1) = true :=
      List.any_eq_true.mpr ⟨f, hf, by simp [hname]⟩
    rw [hany, Bool.and_true]
  · simp [hname]

/-- The members of a record are read as the record, with any members beside them that are no
fields. -/
theorem read?_members (h : Layout fields) (start a : α)
    (hother : ∀ m ∈ members, ∀ f ∈ fields, m.1 ≠ f.name) :
    Field.read? fields start (Field.members fields a ++ members) = some a := by
  have hown : ∀ f ∈ fields, ((Field.members fields a ++ members).filter fun m => m.1 == f.name) =
      [(f.name, f.get a)] := by
    intro f hf
    have hnone : (members.filter fun m => m.1 == f.name) = [] :=
      List.filter_eq_nil_iff.mpr fun m hm => by simpa using hother m hm f hf
    rw [List.filter_append, hnone, List.append_nil, Field.members, List.filter_map]
    exact congrArg (List.map fun f => (f.name, f.get a)) (h.filter_name hf)
  rw [h.read?_eq_some_iff]
  constructor
  · intro f hf
    rw [hown f hf]
    exact Nat.le_refl _
  · intro f hf
    unfold Field.Told
    rw [member?_eq_head?, hown f hf]
    exact h.set_get hf a

/-- Without the member of a field, that field is as it was and all others are as with it. -/
theorem read?_without (h : Layout fields) (hread : Field.read? fields start members = some a)
    (hf : f ∈ fields) :
    ∃ a', Field.read? fields start (members.filter fun m => m.1 != f.name) = some a' ∧
      f.get a' = f.get start ∧ ∀ g ∈ fields, g.name ≠ f.name → g.get a' = g.get a := by
  obtain ⟨hmembers, htold⟩ := h.read?_eq_some_iff.mp hread
  obtain ⟨a', hset, hget⟩ := (h.lawful f hf).own start a
  have hapart : ∀ g ∈ fields, g.name ≠ f.name → g.get a' = g.get a := fun g hg hname =>
    h.apart f hf g hg hname hset
  -- the record with the start value in the place of that field is the one that is read
  refine ⟨a', h.read?_eq_some_iff.mpr ⟨?_, ?_⟩, hget, hapart⟩
  · intro g hg
    refine Nat.le_trans ?_ (hmembers g hg)
    exact (List.filter_sublist.filter _).length_le
  · intro g hg
    have htoldg := htold g hg
    unfold Field.Told at htoldg ⊢
    by_cases hname : g.name = f.name
    · obtain rfl := h.eq_of_name hf hg hname
      have hnone : (Value.object (members.filter fun m => m.1 != g.name)).member? g.name = none :=
        member?_eq_none fun m hm => by simpa using (List.mem_filter.mp hm).2
      rw [hnone]
      exact hget
    · rw [member?_filter_ne hname]
      cases hmember : (Value.object members).member? g.name with
      | none =>
        rw [hmember] at htoldg
        exact (hapart g hg hname).trans htoldg
      | some v =>
        rw [hmember] at htoldg
        exact (h.get_eq_iff_set hg htoldg).mp (hapart g hg hname)

end Layout

end ClusterWatch.Json
