import ClusterWatch.Yaml.Node
/-!
# Parts of a node

What there is in a tree, in the order of the text.

- `Node.Part`: a node, or a key of a mapping.
- `Node.parts`: all parts, a node before what is in it and a key before its value.
- `Node.same_iff`: nodes that are the same are equal.
- `Node.Distinct`: no mapping has a key twice.
- `Node.distinct_sequence`, `distinct_mapping`: the keys of a collection.
-/

namespace ClusterWatch.Yaml.Node

/-- A part of a tree. A key stands there twice: as a key, and as the node that it is. -/
inductive Part where
  | key (k : Node)
  | node (n : Node)

mutual

/-- The parts of a tree in the order of the text. -/
def parts : Node → List Part
  | sequence items => .node (sequence items) :: itemParts items
  | mapping members => .node (mapping members) :: memberParts members
  | n => [.node n]

/-- The parts of all items. -/
def itemParts : List Node → List Part
  | [] => []
  | n :: rest => parts n ++ itemParts rest

/-- The parts of all members, a key before its value. -/
def memberParts : List (Node × Node) → List Part
  | [] => []
  | (k, v) :: rest => .key k :: parts k ++ parts v ++ memberParts rest

end

variable {p : Part} {items : List Node} {members : List (Node × Node)}

theorem mem_itemParts : p ∈ itemParts items ↔ ∃ n ∈ items, p ∈ n.parts := by
  induction items with
  | nil => simp [itemParts]
  | cons n rest ih => simp [itemParts, ih]

theorem mem_memberParts : p ∈ memberParts members ↔
    ∃ m ∈ members, p = .key m.1 ∨ p ∈ m.1.parts ∨ p ∈ m.2.parts := by
  induction members with
  | nil => simp [memberParts]
  | cons m rest ih => simp [memberParts, ih, or_assoc]

/-! ### Equal nodes -/

mutual

/-- Nodes that are the same are equal. -/
theorem same_iff : ∀ n m : Node, n.same m = true ↔ n = m
  | null, m => by cases m <;> simp [same]
  | bool _, m => by cases m <;> simp [same]
  | integer _, m => by cases m <;> simp [same]
  | real _, m => by cases m <;> simp [same]
  | string _, m => by cases m <;> simp [same]
  | sequence items, m => by cases m <;> simp [same, sameItems_iff items]
  | mapping members, m => by cases m <;> simp [same, sameMembers_iff members]
  | unsupported, m => by cases m <;> simp [same]

theorem sameItems_iff : ∀ items others : List Node, sameItems items others = true ↔ items = others
  | [], others => by cases others <;> simp [sameItems]
  | n :: rest, others => by cases others <;> simp [sameItems, same_iff n, sameItems_iff rest]

theorem sameMembers_iff : ∀ members others : List (Node × Node),
    sameMembers members others = true ↔ members = others
  | [], others => by cases others <;> simp [sameMembers]
  | (k, v) :: rest, others => by
    cases others with
    | nil => simp [sameMembers]
    | cons m others =>
      simp [sameMembers, same_iff k, same_iff v, sameMembers_iff rest, Prod.ext_iff]

end

/-! ### Keys -/

/-- No mapping has a key twice, at any depth and within keys as well. -/
def Distinct (n : Node) : Prop :=
  ∀ members, .node (mapping members) ∈ n.parts →
    members.Pairwise fun m m' => m.1.same m'.1 = false

/-- A node without other nodes in it has no keys. -/
theorem distinct_of_parts {n : Node} (h : n.parts = [.node n])
    (hmapping : ∀ members, n ≠ mapping members) : n.Distinct := by
  intro members hmem
  rw [h, List.mem_singleton, Part.node.injEq] at hmem
  exact absurd hmem.symm (hmapping members)

theorem distinct_sequence : (sequence items).Distinct ↔ ∀ n ∈ items, n.Distinct := by
  simp only [Distinct, parts, List.mem_cons, mem_itemParts, Part.node.injEq, reduceCtorEq, false_or]
  constructor
  · intro h n hn members hmem
    exact h members ⟨n, hn, hmem⟩
  · rintro h members ⟨n, hn, hmem⟩
    exact h n hn members hmem

theorem distinct_mapping : (mapping members).Distinct ↔
    (members.Pairwise fun m m' => m.1.same m'.1 = false) ∧
      ∀ m ∈ members, m.1.Distinct ∧ m.2.Distinct := by
  simp only [Distinct, parts, List.mem_cons, mem_memberParts, Part.node.injEq, mapping.injEq,
    reduceCtorEq, false_or]
  constructor
  · intro h
    refine ⟨h members (.inl rfl), fun m hm => ?_⟩
    constructor
    · intro inner hmem
      exact h inner (.inr ⟨m, hm, .inl hmem⟩)
    · intro inner hmem
      exact h inner (.inr ⟨m, hm, .inr hmem⟩)
  · rintro ⟨hkeys, hinner⟩ inner (rfl | ⟨m, hm, hmem | hmem⟩)
    · exact hkeys
    · exact (hinner m hm).1 inner hmem
    · exact (hinner m hm).2 inner hmem

end ClusterWatch.Yaml.Node
