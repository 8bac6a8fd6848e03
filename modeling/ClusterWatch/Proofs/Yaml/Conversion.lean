import ClusterWatch.Proofs.Json.Sorting
import ClusterWatch.Proofs.Sequencing
import ClusterWatch.Proofs.Yaml.Keys
import ClusterWatch.Yaml.Json
/-!
# The JSON tree of a node

A node denotes a JSON tree unless there is something in it that has none: a key that is no string, a
number that is not finite, or a node that stands for nothing. The tree has the same items and
members in the same places.

- `Node.Part.offence?`: what is wrong with a part.
- `Node.at?`, `Json.Value.at?`: what is at a place of a tree.
- `Node.Convertible`: there is nothing wrong in a tree.
- `Node.Shows`: a node and a value that are alike, up to what is in them.
- `Node.Becomes.at?`: the trees are alike at every place.

Main result: `Node.conversion_exact`.
-/

namespace ClusterWatch

open Json (Value)

/-! ### Places -/

/-- A way into a tree. -/
inductive Yaml.Turn where
  /-- To an item, by position. -/
  | item (i : Nat)
  /-- To the value of a member. -/
  | member (name : String)

namespace Json.Value

/-- What is one way into a tree. -/
def child? (v : Value) : Yaml.Turn → Option Value
  | .item i => v.items?.bind (·[i]?)
  | .member name => v.member? name

/-- What is at a place of a tree. -/
def at? (v : Value) : List Yaml.Turn → Option Value
  | [] => some v
  | turn :: way => (v.child? turn).bind (·.at? way)

end Json.Value

namespace Yaml.Node

variable {n : Node} {v : Value} {e : JsonError}

/-- What is one way into a tree. -/
def child? : Node → Turn → Option Node
  | sequence items, .item i => items[i]?
  | mapping members, .member name =>
    (members.find? fun m => m.1.same (.string name)).map (·.2)
  | _, _ => none

/-- What is at a place of a tree. -/
def at? (n : Node) : List Turn → Option Node
  | [] => some n
  | turn :: way => (n.child? turn).bind (·.at? way)

/-! ### Offences -/

/-- What is wrong with a part of a tree. -/
def Part.offence? : Part → Option JsonError
  | .key (.string _) => none
  | .key _ => some .keyNotString
  | .node .unsupported => some .unsupported
  | .node (.real s) => if finite? s = none then some (.numberNotFinite s) else none
  | .node _ => none

/-- Why there is no result. -/
def refusal {α : Type} : Except JsonError α → Option JsonError
  | .error e => some e
  | .ok _ => none

@[simp] theorem refusal_map {α β : Type} (f : α → β) (x : Except JsonError α) :
    refusal (x.map f) = refusal x := by
  cases x <;> rfl

theorem refusal_eq_some_iff {α : Type} {x : Except JsonError α} :
    refusal x = some e ↔ x = .error e := by
  cases x <;> simp [refusal]

theorem refusal_eq_none_iff {α : Type} {x : Except JsonError α} :
    refusal x = none ↔ ∃ a, x = .ok a := by
  cases x <;> simp [refusal]

mutual

/-- The first offence in the order of the text is the one that is reported. -/
theorem refusal_toJson : ∀ n : Node, refusal n.toJson = n.parts.findSome? Part.offence?
  | null => rfl
  | bool _ => rfl
  | integer _ => rfl
  | real s => by
    show refusal (match finite? s with
      | some x => _
      | none => _) = [Part.node (real s)].findSome? _
    rw [List.findSome?_singleton, Part.offence?]
    cases finite? s <;> rfl
  | string _ => rfl
  | sequence items => by
    rw [toJson, refusal_map, refusal_itemsToJson items]
    rfl
  | mapping members => by
    rw [toJson, refusal_map, refusal_membersToJson members]
    rfl
  | unsupported => rfl

theorem refusal_itemsToJson : ∀ items : List Node,
    refusal (itemsToJson items) = (itemParts items).findSome? Part.offence?
  | [] => rfl
  | n :: rest => by
    rw [itemsToJson, itemParts, List.findSome?_append, ← refusal_toJson n,
      ← refusal_itemsToJson rest]
    cases n.toJson with
    | error e => rfl
    | ok v => exact refusal_map ..

theorem refusal_membersToJson : ∀ members : List (Node × Node),
    refusal (membersToJson members) = (memberParts members).findSome? Part.offence?
  | [] => rfl
  | (k, v) :: rest => by
    rw [membersToJson, memberParts, List.findSome?_append, List.findSome?_append,
      ← refusal_toJson v, ← refusal_membersToJson rest]
    -- a key that is no string is refused before what is in it
    cases k with
    | string name =>
      show refusal (match v.toJson with
        | .ok w => (membersToJson rest).map ((name, w) :: ·)
        | .error e => .error e) = _
      cases v.toJson with
      | error e => rfl
      | ok w => exact refusal_map ..
    | null | bool | integer | real | sequence | mapping | unsupported => rfl

end

/-! ### Items and members -/

theorem itemsToJson_eq_ok_iff {items : List Node} {values : List Value} :
    itemsToJson items = .ok values ↔ List.Forall₂ (fun n v => n.toJson = .ok v) items values := by
  rw [← mapM_eq_ok_iff]
  have hmapM : ∀ items, itemsToJson items = items.mapM toJson := by
    intro items
    induction items with
    | nil => rfl
    | cons n rest ih =>
      rw [itemsToJson, List.mapM_cons, ih]
      cases n.toJson with
      | error e => rfl
      | ok v => cases rest.mapM toJson <;> rfl
  rw [hmapM]

/-- A member denotes one with its name. -/
def Denotes (m : Node × Node) (m' : String × Value) : Prop :=
  m.1 = .string m'.1 ∧ m.2.toJson = .ok m'.2

theorem forall₂_of_membersToJson {members : List (Node × Node)} {values : List (String × Value)}
    (h : membersToJson members = .ok values) : List.Forall₂ Denotes members values := by
  induction members generalizing values with
  | nil =>
    cases h
    exact .nil
  | cons m rest ih =>
    obtain ⟨k, n⟩ := m
    rw [membersToJson] at h
    split at h
    · cases h
    · next name hname =>
      split at h
      · next v hv =>
        -- the name, the value and the other members, in the order in which they are converted
        cases hrest : membersToJson rest with
        | error e =>
          rw [hrest] at h
          cases h
        | ok others =>
          rw [hrest] at h
          cases h
          refine .cons ⟨?_, hv⟩ (ih hrest)
          cases k with
          | string s =>
            cases hname
            rfl
          | null | bool | integer | real | sequence | mapping | unsupported => cases hname
      · cases h

/-- A sequence denotes an array with what its items denote. -/
theorem array_of_toJson {items : List Node} (h : (sequence items).toJson = .ok v) :
    ∃ values, v = .array values ∧ List.Forall₂ (fun n v => n.toJson = .ok v) items values := by
  rw [toJson] at h
  cases hvalues : itemsToJson items with
  | error e =>
    rw [hvalues] at h
    cases h
  | ok values =>
    rw [hvalues] at h
    cases h
    exact ⟨values, rfl, itemsToJson_eq_ok_iff.mp hvalues⟩

/-- A mapping denotes an object with what its members denote. -/
theorem object_of_toJson {members : List (Node × Node)} (h : (mapping members).toJson = .ok v) :
    ∃ values, v = .object values ∧ List.Forall₂ Denotes members values := by
  rw [toJson] at h
  cases hvalues : membersToJson members with
  | error e =>
    rw [hvalues] at h
    cases h
  | ok values =>
    rw [hvalues] at h
    cases h
    exact ⟨values, rfl, forall₂_of_membersToJson hvalues⟩

/-- Entries that belong together stand at the same positions. -/
theorem rel_getElem? {α β : Type} {R : α → β → Prop} {as : List α} {bs : List β}
    (h : List.Forall₂ R as bs) (i : Nat) : Option.Rel R as[i]? bs[i]? := by
  induction h generalizing i with
  | nil => exact .none
  | cons hhead _ ih =>
    cases i with
    | zero => exact .some hhead
    | succ i => exact ih i

section

variable {members : List (Node × Node)} {values : List (String × Value)}

/-- The keys are the names. -/
theorem names_of_forall₂ (h : List.Forall₂ Denotes members values) :
    members.map (·.1) = values.map fun m => .string m.1 := by
  induction h with
  | nil => rfl
  | cons hhead _ ih => rw [List.map_cons, List.map_cons, hhead.1, ih]

/-- Keys that are different are different names. -/
theorem nodup_of_forall₂ (h : List.Forall₂ Denotes members values)
    (hkeys : members.Pairwise fun m m' => m.1.same m'.1 = false) : (values.map (·.1)).Nodup := by
  have hpairs : (members.map (·.1)).Pairwise fun k k' => k.same k' = false :=
    List.pairwise_map.mpr hkeys
  rw [names_of_forall₂ h, List.pairwise_map] at hpairs
  rw [List.nodup_iff_pairwise_ne, List.pairwise_map]
  refine hpairs.imp fun hsame heq => ?_
  rw [heq, same, decide_eq_false_iff_not] at hsame
  exact hsame rfl

/-- What is under a name belongs together. -/
theorem rel_member? {R : Node → Value → Prop}
    (h : List.Forall₂ (fun m m' => m.1 = .string m'.1 ∧ R m.2 m'.2) members values)
    (name : String) :
    Option.Rel R ((mapping members).child? (.member name))
      ((Value.object values).member? name) := by
  show Option.Rel R ((members.find? _).map _) _
  induction h with
  | nil => exact .none
  | @cons m m' rest others hhead _ ih =>
    have hsame : m.1.same (.string name) = decide (m'.1 = name) := by
      rw [hhead.1]
      rfl
    rw [Json.Layout.member?_cons]
    by_cases hname : m'.1 = name
    · rw [List.find?_cons_of_pos (by rw [hsame]; exact decide_eq_true hname), if_pos hname]
      exact .some hhead.2
    · rw [List.find?_cons_of_neg (by rw [hsame]; simpa using hname), if_neg hname]
      exact ih

end

/-! ### Alike trees -/

/-- A node and a value that are alike, up to what is in them: the same scalar, as many items, or
members of the same names. -/
inductive Shows : Node → Value → Prop
  | null : Shows null .null
  | bool (b : Bool) : Shows (bool b) (.bool b)
  | integer (n : Int) : Shows (integer n) (.int n)
  | real (s : String) (x : Binary64) : finite? s = some x → Shows (real s) (.number (.float x))
  | string (s : String) : Shows (string s) (.string s)
  | sequence (items : List Node) (values : List Value) : values.length = items.length →
      Shows (sequence items) (.array values)
  | mapping (members : List (Node × Node)) (values : List (String × Value)) :
      (values.map (·.1)).Nodup →
      (values.map fun m => Node.string m.1).Perm (members.map (·.1)) →
      Shows (mapping members) (.object values)

/-- A node and the tree that it denotes are alike. -/
theorem shows_of_toJson (hdistinct : n.Distinct) (h : n.toJson = .ok v) : n.Shows v.sorted := by
  cases n with
  | null =>
    cases h
    exact .null
  | bool b =>
    cases h
    exact .bool b
  | integer i =>
    cases h
    exact .integer i
  | real s =>
    rw [toJson] at h
    split at h
    · next x hx =>
      cases h
      exact .real s x hx
    · cases h
  | string s =>
    cases h
    exact .string s
  | sequence items =>
    obtain ⟨values, rfl, hall⟩ := array_of_toJson h
    rw [Value.sorted_array]
    refine .sequence items _ ?_
    rw [List.length_map, hall.length_eq]
  | mapping members =>
    obtain ⟨values, rfl, hall⟩ := object_of_toJson h
    -- distinct keys have distinct names, so that sorting loses no member
    have hnames := nodup_of_forall₂ hall (distinct_mapping.mp hdistinct).1
    obtain ⟨ordered, hsorted, hperm⟩ := Value.sorted_object_perm hnames
    have hordered : (ordered.map (·.1)).Perm (values.map (·.1)) := by
      rw [← Value.names_sorted values]
      exact hperm.map _
    rw [hsorted]
    refine .mapping members ordered (hordered.nodup_iff.mpr hnames) ?_
    rw [names_of_forall₂ hall]
    have hkeys := hordered.map Node.string
    rwa [List.map_map, List.map_map] at hkeys
  | unsupported => cases h

/-- A node without keys twice, and the sorted tree that it denotes. -/
def Becomes (n : Node) (v : Value) : Prop :=
  n.Distinct ∧ ∃ u, n.toJson = .ok u ∧ v = u.sorted

theorem Becomes.shows (h : n.Becomes v) : n.Shows v := by
  obtain ⟨hdistinct, u, hu, rfl⟩ := h
  exact shows_of_toJson hdistinct hu

/-- The items of a sequence become the items of an array. -/
theorem Becomes.items {items : List Node} (h : (sequence items).Becomes v) :
    ∃ values, v = .array values ∧ List.Forall₂ Becomes items values := by
  obtain ⟨hdistinct, u, hu, rfl⟩ := h
  obtain ⟨values, rfl, hall⟩ := array_of_toJson hu
  refine ⟨_, Value.sorted_array values, List.forall₂_map_right_iff.mpr ?_⟩
  refine ((List.forall₂_and_left _ _).mpr ⟨distinct_sequence.mp hdistinct, hall⟩).imp ?_
  rintro n v ⟨hn, hv⟩
  exact ⟨hn, v, hv, rfl⟩

/-- What is one way into a node becomes what is the same way into its tree. -/
theorem Becomes.child? (h : n.Becomes v) (turn : Turn) :
    Option.Rel Becomes (n.child? turn) (v.child? turn) := by
  cases n with
  | sequence items =>
    obtain ⟨values, rfl, hall⟩ := h.items
    -- a list has no names, and a mapping has no positions
    cases turn with
    | item i => exact rel_getElem? hall i
    | member name => exact .none
  | mapping members =>
    obtain ⟨hdistinct, u, hu, rfl⟩ := h
    obtain ⟨values, rfl, hall⟩ := object_of_toJson hu
    obtain ⟨hkeys, hinner⟩ := distinct_mapping.mp hdistinct
    obtain ⟨ordered, hsorted, hperm⟩ :=
      Value.sorted_object_perm (nodup_of_forall₂ hall hkeys)
    cases turn with
    | item i =>
      rw [hsorted]
      exact .none
    | member name =>
      have hnames : ((values.map fun m => (m.1, m.2.sorted)).map (·.1)).Nodup := by
        rw [Value.names_sorted]
        exact nodup_of_forall₂ hall hkeys
      rw [hsorted]
      show Option.Rel Becomes _ ((Value.object ordered).member? name)
      rw [Value.member?_perm hperm hnames]
      refine rel_member? (List.forall₂_map_right_iff.mpr ?_) name
      refine ((List.forall₂_and_left _ _).mpr ⟨hinner, hall⟩).imp ?_
      rintro m m' ⟨hm, hname, hv⟩
      exact ⟨hname, hm.2, m'.2, hv, rfl⟩
  | null | bool | integer | real | string | unsupported =>
    have hshows := h.shows
    cases hshows
    all_goals cases turn <;> exact .none

/-- At each place there is nothing in either tree, or something alike. -/
theorem Becomes.at? (h : n.Becomes v) (way : List Turn) :
    Option.Rel Becomes (n.at? way) (v.at? way) := by
  induction way generalizing n v with
  | nil => exact .some h
  | cons turn way ih =>
    have hchild := h.child? turn
    show Option.Rel Becomes ((n.child? turn).bind (·.at? way)) ((v.child? turn).bind (·.at? way))
    generalize n.child? turn = m at hchild ⊢
    generalize v.child? turn = w at hchild ⊢
    cases hchild with
    | none => exact .none
    | some hchild => exact ih hchild

/-! ### Convertible trees -/

/-- There is nothing in a tree that has no place in JSON. -/
structure Convertible (n : Node) : Prop where
  supported : .node .unsupported ∉ n.parts
  finite : ∀ s, .node (.real s) ∈ n.parts → ∃ x, finite? s = some x
  keys : ∀ k, .key k ∈ n.parts → ∃ s, k = .string s

/-- A tree is convertible when no part of it is an offence. -/
theorem convertible_iff : n.Convertible ↔ ∀ p ∈ n.parts, p.offence? = none := by
  constructor
  · rintro ⟨hsupported, hfinite, hkeys⟩ p hp
    cases p with
    | key k =>
      obtain ⟨s, rfl⟩ := hkeys k hp
      rfl
    | node m =>
      cases m with
      | real s =>
        obtain ⟨x, hx⟩ := hfinite s hp
        simp [Part.offence?, hx]
      | unsupported => exact absurd hp hsupported
      | null | bool | integer | string | sequence | mapping => rfl
  · intro h
    refine ⟨fun hp => (nomatch h _ hp), fun s hp => ?_, fun k hp => ?_⟩
    · have hnone := h _ hp
      rw [Part.offence?, ite_eq_right_iff] at hnone
      exact Option.ne_none_iff_exists'.mp fun hinfinite => nomatch hnone hinfinite
    · cases k with
      | string s => exact ⟨s, rfl⟩
      | null | bool | integer | real | sequence | mapping | unsupported => exact nomatch h _ hp

theorem exists_toJson_iff {n : Node} : (∃ v, n.toJson = .ok v) ↔ n.Convertible := by
  rw [← refusal_eq_none_iff, refusal_toJson, List.findSome?_eq_none_iff, convertible_iff]

/-! ### Main result -/

/-- **A node is converted as it is, or refused for its first offence.** It has a JSON tree exactly
when nothing in it, at any depth, is unsupported, a key that is no string, or a number that is not
finite; otherwise the error is that of the first offence in the order of the text. The keys of all
mappings of documents are different, and then the tree, with its members in the order of their
names, has at every place the scalar, the items or the names that the node has there. -/
theorem conversion_exact :
    (∀ n : Node, ((∃ v, n.toJson = .ok v) ↔ n.Convertible) ∧
      ∀ e, n.toJson = .error e ↔ ∃ before p after, n.parts = before ++ p :: after ∧
        p.offence? = some e ∧ ∀ q ∈ before, q.offence? = none) ∧
    (∀ text nodes, documents text = .ok nodes → ∀ n ∈ nodes, n.Distinct) ∧
    ∀ (n : Node) (v : Value), n.Distinct → n.toJson = .ok v →
      ∀ way, Option.Rel Shows (n.at? way) (v.sorted.at? way) := by
  refine ⟨?_, fun _ _ => distinct_of_documents, ?_⟩
  · intro n
    refine ⟨exists_toJson_iff, fun e => ?_⟩
    rw [← refusal_eq_some_iff, refusal_toJson, List.findSome?_eq_some_iff]
  · intro n v hdistinct hv way
    have hbecomes : n.Becomes v.sorted := ⟨hdistinct, v, hv, rfl⟩
    have hplace := hbecomes.at? way
    generalize n.at? way = m at hplace ⊢
    generalize v.sorted.at? way = w at hplace ⊢
    cases hplace with
    | none => exact .none
    | some hinner => exact .some hinner.shows

/-- A document with a sequence in a mapping. Its members change places. -/
theorem conversion_exact_nested :
    let n : Node := .mapping
      [(.string "b", .sequence [.integer 1, .null]), (.string "a", .bool true)]
    let v : Value := .object [("b", .array [.int 1, .null]), ("a", .bool true)]
    documents "b: [1, ~]\na: true\n" = .ok [n] ∧ n.Distinct ∧ n.toJson = .ok v ∧
      v.sorted = .object [("a", .bool true), ("b", .array [.int 1, .null])] ∧
      ∀ way, Option.Rel Shows (n.at? way) (v.sorted.at? way) := by
  intro n v
  have hdocuments : documents "b: [1, ~]\na: true\n" = .ok [n] :=
    documents_of_same (by decide +kernel)
  obtain ⟨-, hkeys, hplaces⟩ := conversion_exact
  have hdistinct : n.Distinct := hkeys _ _ hdocuments n List.mem_cons_self
  exact ⟨hdocuments, hdistinct, rfl, rfl, hplaces n v hdistinct rfl⟩

end Yaml.Node

end ClusterWatch
