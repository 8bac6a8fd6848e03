import ClusterWatch.Proofs.Json.Records
/-!
# Trees with sorted members

The members of an object whose names are its own are the same in the order of their names: sorting
merges none and loses none.

- `Value.sorted_array`, `sorted_object`: what sorting does to items and members.
- `Value.sortMembers_perm`: members of different names are only put in order.
- `Value.member?_perm`: the order of members of different names does not matter for a look-up.
- `Value.member?_sorted`: a look-up in the sorted tree.
-/

namespace ClusterWatch.Json

/-- Members of different names give no member twice. -/
theorem unrepeated_of_nodup {α : Type} (fields : List (Field α)) {members : List (String × Value)}
    (h : (members.map (·.1)).Nodup) : Unrepeated fields members := by
  intro f _
  have hcount := List.nodup_iff_count_le_one.mp h f.name
  rwa [List.count, List.countP_map, List.countP_eq_length_filter] at hcount

namespace Value

variable {name : String} {v : Value} {members members' : List (String × Value)}

theorem sorted_array (items : List Value) : (array items).sorted = array (items.map sorted) := by
  have hitems : ∀ items, sortedItems items = items.map sorted := by
    intro items
    induction items with
    | nil => rfl
    | cons v rest ih => rw [sortedItems, ih, List.map_cons]
  rw [sorted, hitems]

theorem sorted_object (members : List (String × Value)) :
    (object members).sorted = object (sortMembers (members.map fun m => (m.1, m.2.sorted))) := by
  have hmembers : ∀ members, sortedMembers members = members.map fun m => (m.1, m.2.sorted) := by
    intro members
    induction members with
    | nil => rfl
    | cons m rest ih => rw [sortedMembers, ih, List.map_cons]
  rw [sorted, hmembers]

/-! ### Order -/

/-- A member of a new name is put between the others. -/
theorem insertMember_perm (h : ∀ m ∈ members, m.1 ≠ name) :
    (insertMember name v members).Perm ((name, v) :: members) := by
  induction members with
  | nil => exact .refl _
  | cons m rest ih =>
    rw [List.forall_mem_cons] at h
    rw [insertMember, if_neg (Ne.symm h.1)]
    split
    · exact .refl _
    · exact ((ih h.2).cons m).trans (.swap ..)

/-- Members of different names are only put in order. -/
theorem sortMembers_perm (h : (members.map (·.1)).Nodup) : (sortMembers members).Perm members := by
  -- the members that were put in order already stand behind those that are still to come
  have hfold : ∀ done, ((members ++ done).map (·.1)).Nodup →
      (members.foldl (fun sorted m => insertMember m.1 m.2 sorted) done).Perm
        (members ++ done) := by
    clear h
    induction members with
    | nil => exact fun done _ => .refl done
    | cons m rest ih =>
      intro done hnames
      rw [List.cons_append, List.map_cons, List.nodup_cons] at hnames
      have hnew : ∀ m' ∈ done, m'.1 ≠ m.1 := by
        intro m' hm' hname
        refine hnames.1 ?_
        rw [← hname]
        exact List.mem_map_of_mem (List.mem_append_right rest hm')
      have hinsert : (rest ++ insertMember m.1 m.2 done).Perm (m :: rest ++ done) :=
        ((insertMember_perm hnew).append_left rest).trans List.perm_middle
      refine (ih _ ?_).trans hinsert
      rw [(hinsert.map _).nodup_iff]
      exact List.nodup_cons.mpr hnames
  have hall := hfold [] (by rwa [List.append_nil])
  rwa [List.append_nil] at hall

theorem names_sorted (members : List (String × Value)) :
    (members.map fun m => (m.1, m.2.sorted)).map (·.1) = members.map (·.1) := by
  rw [List.map_map]
  rfl

/-- The members of the sorted tree, when their names are different. -/
theorem sorted_object_perm (h : (members.map (·.1)).Nodup) :
    ∃ sorted, (object members).sorted = object sorted ∧
      sorted.Perm (members.map fun m => (m.1, m.2.sorted)) := by
  refine ⟨_, sorted_object members, sortMembers_perm ?_⟩
  rwa [names_sorted]

/-! ### Look-ups -/

/-- A member whose name is its own is found under it. -/
theorem member?_eq_some_iff (h : (members.map (·.1)).Nodup) :
    (object members).member? name = some v ↔ (name, v) ∈ members := by
  induction members with
  | nil => simp [member?]
  | cons m rest ih =>
    rw [List.map_cons, List.nodup_cons] at h
    rw [Layout.member?_cons, List.mem_cons]
    split
    · next hname =>
      subst hname
      constructor
      · rintro ⟨⟩
        exact .inl rfl
      · rintro (hm | hm)
        · rw [← hm]
        · exact absurd (List.mem_map_of_mem hm) h.1
    · next hname =>
      rw [ih h.2]
      refine ⟨.inr, fun hm => hm.resolve_left ?_⟩
      rintro rfl
      exact hname rfl

/-- Members of different names are found in any order. -/
theorem member?_perm (hperm : members'.Perm members) (h : (members.map (·.1)).Nodup) :
    (object members').member? name = (object members).member? name := by
  have h' : (members'.map (·.1)).Nodup := (hperm.map _).nodup_iff.mpr h
  refine Option.ext fun v => ?_
  rw [member?_eq_some_iff h', member?_eq_some_iff h, hperm.mem_iff]

/-- Under a name the sorted tree has what the tree has, sorted as well. -/
theorem member?_sorted (h : (members.map (·.1)).Nodup) :
    (object members).sorted.member? name = ((object members).member? name).map sorted := by
  obtain ⟨ordered, hsorted, hperm⟩ := sorted_object_perm h
  rw [hsorted, member?_perm hperm (by rwa [names_sorted])]
  show ((List.map _ members).find? _).map _ = ((members.find? _).map _).map _
  rw [List.find?_map, Option.map_map, Option.map_map]
  rfl

end Value

end ClusterWatch.Json
