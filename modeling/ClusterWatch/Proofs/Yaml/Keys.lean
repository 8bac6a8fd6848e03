import ClusterWatch.Proofs.Yaml.Parts
import ClusterWatch.Yaml.Document
/-!
# The keys of a document

A text with a mapping that has a key twice is no document, so the mappings of documents have
different keys. A repeated key does not end the assembly but is only noted, hence nothing is said
about the nodes of an assembly in which one was: what holds of a step holds if none is noted at its
end.

- `Assemble.Holds`: a step has results that fit, unless a key is repeated.
- `Holds.bind`, `andThen`, `skip`: steps one after the other.
- `Entries.holds_add`: a mapping so far.
- `Grammar.Keeps`, `keeps`: all functions of the grammar, by induction on the depth of their calls.

Main result: `distinct_of_documents`.
-/

namespace ClusterWatch.Yaml

/-- The nodes of anchors have no key twice. -/
def Assembly.Sound (s : Assembly) : Prop :=
  ∀ p ∈ s.anchored, p.2.Distinct

namespace Assemble

variable {α β : Type} {C C' : Prop} {x : Assemble α} {Q Q' : α → Prop}

/-- If a step ends with no key noted as repeated, none was before; and if `C` holds of what the step
was given, its result fits and the nodes of anchors still have no key twice. -/
def Holds (C : Prop) (x : Assemble α) (Q : α → Prop) : Prop :=
  ∀ s a s', x.run s = .ok (a, s') → s'.repeated = none →
    s.repeated = none ∧ (s.Sound → C → s'.Sound ∧ Q a)

/-- It is enough that `C` holds. -/
theorem Holds.given (h : Holds C x Q) (hC : C' → C) : Holds C' x Q := by
  intro s a s' hrun hnone
  obtain ⟨hbefore, hfits⟩ := h s a s' hrun hnone
  exact ⟨hbefore, fun hsound hC' => hfits hsound (hC hC')⟩

theorem holds_pure {a : α} (h : C → Q a) : Holds C (pure a) Q := by
  rintro s _ _ ⟨⟩ hnone
  exact ⟨hnone, fun hsound hC => ⟨hsound, h hC⟩⟩

/-- A step that fails has no result. -/
theorem holds_fail {mark : Mark} {reason : String} : Holds C (fail (α := α) mark reason) Q := by
  rintro s _ _ ⟨⟩

theorem holds_fail_bind {f : α → Assemble β} {R : β → Prop} {mark : Mark} {reason : String} :
    Holds C (fail mark reason >>= f) R := by
  rintro s _ _ ⟨⟩

/-- What the first step has made is given to the second. -/
theorem Holds.bind {f : α → Assemble β} {R : β → Prop} (hx : Holds C x Q)
    (hf : ∀ a, Holds (C ∧ Q a) (f a) R) : Holds C (x >>= f) R := by
  intro s b s'' hrun hnone
  rw [StateT.run_bind] at hrun
  cases hfirst : x.run s with
  | error e =>
    rw [hfirst] at hrun
    cases hrun
  | ok r =>
    obtain ⟨a, s'⟩ := r
    rw [hfirst] at hrun
    obtain ⟨hnone', hrest⟩ := hf a s' b s'' hrun hnone
    obtain ⟨hbefore, hstart⟩ := hx s a s' hfirst hnone'
    refine ⟨hbefore, fun hsound hC => ?_⟩
    obtain ⟨hsound', hQ⟩ := hstart hsound hC
    exact hrest hsound' ⟨hC, hQ⟩

/-- What the first step was given is there for the second. -/
theorem Holds.andThen {f : α → Assemble β} {R : β → Prop} (hx : Holds True x Q)
    (hf : ∀ a, Holds (C ∧ Q a) (f a) R) : Holds C (x >>= f) R :=
  (hx.given fun _ => trivial).bind hf

/-- A step about whose result nothing has to be known. -/
theorem Holds.skip {f : α → Assemble β} {R : β → Prop} (hx : Holds True x Q)
    (hf : ∀ a, Holds C (f a) R) : Holds C (x >>= f) R :=
  hx.andThen fun a => (hf a).given And.left

theorem holds_ite {p : Prop} [Decidable p] {y : Assemble α} (hx : Holds C x Q)
    (hy : Holds C y Q) : Holds C (if p then x else y) Q := by
  split
  · exact hx
  · exact hy

theorem holds_modify {f : Assembly → Assembly} (hrepeated : ∀ s, (f s).repeated = s.repeated)
    (hanchored : ∀ s, (f s).anchored = s.anchored) :
    Holds True (modify f : Assemble Unit) fun _ => True := by
  rintro s _ _ ⟨⟩ hnone
  refine ⟨(hrepeated s).symm.trans hnone, fun hsound _ => ⟨?_, trivial⟩⟩
  show ∀ p ∈ (f s).anchored, _
  rw [hanchored]
  exact hsound

theorem holds_get : Holds True (get : Assemble Assembly) Assembly.Sound := by
  rintro s _ _ ⟨⟩ hnone
  exact ⟨hnone, fun hsound _ => ⟨hsound, hsound⟩⟩

/-! ### Tokens and properties -/

theorem holds_peek : Holds True peek fun _ => True := by
  refine holds_get.skip fun s => ?_
  split
  · exact holds_pure fun _ => trivial
  · refine holds_get.skip fun s => ?_
    rintro s _ _ ⟨⟩

theorem holds_advance : Holds True advance fun _ => True :=
  holds_modify (fun _ => rfl) fun _ => rfl

theorem holds_advanceIf (t : Token) : Holds True (advanceIf t) fun _ => True := by
  refine holds_peek.skip fun _ => ?_
  refine holds_ite (holds_advance.skip fun _ => ?_) ?_
  all_goals exact holds_pure fun _ => trivial

theorem holds_anchor (name : String) : Holds True (anchor name) fun _ => True := by
  refine holds_get.skip fun s => ?_
  refine Holds.skip (holds_modify (fun _ => rfl) fun _ => rfl) fun _ => ?_
  exact holds_pure fun _ => trivial

theorem holds_tag (mark : Mark) (handle suffix : String) :
    Holds True (tag mark handle suffix) fun _ => True := by
  refine holds_get.skip fun s => ?_
  dsimp only
  split
  · exact holds_pure fun _ => trivial
  · refine holds_ite (holds_pure fun _ => trivial) (holds_ite holds_fail ?_)
    exact holds_pure fun _ => trivial

theorem holds_property : Holds True property fun _ => True := by
  refine holds_peek.skip fun ⟨mark, token⟩ => ?_
  -- an anchor and perhaps a tag, a tag and perhaps an anchor, or neither
  split
  · refine holds_advance.skip fun _ => (holds_anchor _).skip fun number => ?_
    refine holds_peek.skip fun ⟨_, next⟩ => ?_
    split
    · refine holds_advance.skip fun _ => (holds_tag _ _ _).skip fun _ => ?_
      exact holds_pure fun _ => trivial
    · exact holds_pure fun _ => trivial
  · refine holds_advance.skip fun _ => (holds_tag _ _ _).skip fun _ => ?_
    refine holds_peek.skip fun ⟨_, next⟩ => ?_
    split
    · refine holds_advance.skip fun _ => (holds_anchor _).skip fun _ => ?_
      exact holds_pure fun _ => trivial
    · exact holds_pure fun _ => trivial
  · exact holds_pure fun _ => trivial

/-! ### Nodes of anchors -/

theorem distinct_unsupported : Node.unsupported.Distinct :=
  Node.distinct_of_parts rfl nofun

/-- The node of a number is one of the nodes. -/
theorem mem_of_lookup {anchored : List (Nat × Node)} {number : Nat} {node : Node}
    (h : anchored.lookup number = some node) : ∃ p ∈ anchored, p.2 = node := by
  induction anchored with
  | nil => cases h
  | cons p rest ih =>
    rw [List.lookup_cons] at h
    split at h
    · cases h
      exact ⟨p, List.mem_cons_self, rfl⟩
    · obtain ⟨q, hq, hnode⟩ := ih h
      exact ⟨q, List.mem_cons_of_mem p hq, hnode⟩

theorem holds_aliased (mark : Mark) (name : String) :
    Holds True (aliased mark name) Node.Distinct := by
  refine holds_get.andThen fun s => ?_
  split
  · next number _ =>
    refine holds_pure fun ⟨_, hsound⟩ => ?_
    cases hfound : s.anchored.lookup number with
    | none => exact distinct_unsupported
    | some node =>
      obtain ⟨p, hp, rfl⟩ := mem_of_lookup hfound
      exact hsound p hp
  · exact holds_fail

theorem holds_complete (number : Option Nat) (node : Node) :
    Holds node.Distinct (complete number node) Node.Distinct := by
  cases number with
  | none => exact holds_pure id
  | some number =>
    -- the node is kept under the number of its anchor
    rintro s _ _ ⟨⟩ hnone
    refine ⟨hnone, fun hsound hnode => ⟨?_, hnode⟩⟩
    exact List.forall_mem_cons.mpr ⟨hnode, hsound⟩

end Assemble

/-! ### Scalars -/

namespace Node

theorem distinct_ofPlain (text : String) : (ofPlain text).Distinct := by
  unfold ofPlain
  repeat' split
  all_goals exact distinct_of_parts rfl nofun

theorem distinct_ofTagged (suffix text : String) : (ofTagged suffix text).Distinct := by
  unfold ofTagged
  repeat' split
  all_goals exact distinct_of_parts rfl nofun

/-- A scalar has no keys. -/
theorem distinct_ofScalar (style : Style) (tag : Option (String × String)) (text : String) :
    (ofScalar style tag text).Distinct := by
  unfold ofScalar
  split
  · exact distinct_ofPlain text
  · split
    · exact distinct_ofTagged _ text
    · exact distinct_of_parts rfl nofun
  · exact distinct_of_parts rfl nofun

end Node

/-! ### Mappings -/

namespace Entries

/-- The keys so far are different, and what is in them and in the values has no key twice. -/
structure Tidy (e : Entries) : Prop where
  key : ∀ k, e.key = some k → k.Distinct
  inner : ∀ m ∈ e.members, m.1.Distinct ∧ m.2.Distinct
  /-- The last member stands in front. -/
  apart : e.members.Pairwise fun m m' => m'.1.same m.1 = false

theorem tidy_empty : Tidy {} :=
  ⟨nofun, nofun, .nil⟩

theorem Tidy.toNode {e : Entries} (h : e.Tidy) : e.toNode.Distinct := by
  refine Node.distinct_mapping.mpr ⟨List.pairwise_reverse.mpr h.apart, fun m hm => ?_⟩
  exact h.inner m (List.mem_reverse.mp hm)

open Assemble (Holds holds_pure)

/-- A key that comes twice is noted. -/
theorem holds_add (e : Entries) (mark : Mark) (node : Node) :
    Holds (e.Tidy ∧ node.Distinct) (e.add mark node) Tidy := by
  unfold add
  split
  · next hkey =>
    refine holds_pure fun ⟨he, hnode⟩ => ⟨fun k hk => ?_, he.inner, he.apart⟩
    dsimp only at hk
    split at hk
    · cases hk
    · cases hk
      exact hnode
  · next key hkey =>
    by_cases hrepeated : (e.members.any fun m => m.1.same key) = true
    · -- the key is noted as repeated, which it is not at the end
      rw [if_pos hrepeated]
      rintro s _ _ ⟨⟩ hnone
      cases hbefore : s.repeated <;> simp [hbefore] at hnone
    · rw [if_neg hrepeated]
      refine holds_pure fun ⟨he, hnode⟩ => ⟨nofun, ?_, ?_⟩
      · exact List.forall_mem_cons.mpr ⟨⟨he.key key hkey, hnode⟩, he.inner⟩
      · refine List.pairwise_cons.mpr ⟨fun m hm => ?_, he.apart⟩
        rw [List.any_eq_true, not_exists] at hrepeated
        exact Bool.eq_false_iff.mpr fun hsame => hrepeated m ⟨hm, hsame⟩

end Entries

/-! ### The grammar -/

namespace Grammar

open Assemble

variable {bound : Nat}

/-- A node without keys twice. -/
def Fine (p : Placed) : Prop :=
  p.2.Distinct

theorem distinct_absent : absent.Distinct :=
  Node.distinct_ofPlain "~"

theorem holds_exhausted {α : Type} {C : Prop} {Q : α → Prop} : Holds C exhausted Q :=
  holds_fail

theorem holds_unlessAt {isEnd : Token → Bool} {read : Assemble Placed}
    (hread : Holds True read Fine) : Holds True (unlessAt isEnd read) Fine := by
  refine holds_peek.skip fun ⟨mark, token⟩ => ?_
  exact holds_ite (holds_pure fun _ => distinct_absent) hread

/-- Items that were read from the last to the first. -/
theorem fine_sequence {mark : Mark} {items : List Node} (h : ∀ n ∈ items, n.Distinct) :
    Fine (mark, .sequence items.reverse) :=
  Node.distinct_sequence.mpr fun n hn => h n (List.mem_reverse.mp hn)

/-- What comes first in a flow collection, or behind a comma. -/
theorem holds_behindComma {C : Prop} {Q : Placed → Prop} {first : Bool} {token : Token}
    {mark : Mark} {reason : String} {rest : Unit → Assemble Placed} (h : ∀ u, Holds C (rest u) Q) :
    Holds C (if !first then
      if token = .flowEntry then advance >>= rest else fail mark reason >>= rest
      else rest ()) Q :=
  holds_ite (holds_ite (holds_advance.skip h) holds_fail_bind) (h ())

/-- A key and its value are added one after the other. -/
theorem holds_member {entries : Entries} {value : Assemble Placed}
    {rest : Entries → Assemble Placed} (mark : Mark) (key : Node) (hvalue : Holds True value Fine)
    (hrest : ∀ entries, Holds entries.Tidy (rest entries) Fine) :
    Holds (entries.Tidy ∧ key.Distinct) (do
      let entries ← entries.add mark key
      let (mark, value) ← value
      rest (← entries.add mark value)) Fine := by
  refine (entries.holds_add mark key).bind fun entries => ?_
  refine hvalue.andThen fun ⟨mark, value⟩ => ?_
  refine ((entries.holds_add mark value).given ?_).bind fun entries => ?_
  · exact fun hall => ⟨hall.1.2, hall.2⟩
  · exact (hrest entries).given And.right

/-- The results of the functions of the grammar have no key twice if what they are given has
none. -/
structure Keeps (bound : Nat) : Prop where
  node : ∀ block indentless, Holds True (node bound block indentless) Fine
  content : ∀ block indentless p, Holds True (content bound block indentless p) Fine
  blockSequence : ∀ items, Holds (∀ n ∈ items, n.Distinct) (blockSequence bound items) Fine
  indentlessSequence : ∀ items,
    Holds (∀ n ∈ items, n.Distinct) (indentlessSequence bound items) Fine
  blockMapping : ∀ entries, Holds entries.Tidy (blockMapping bound entries) Fine
  blockValue : Holds True (blockValue bound) Fine
  flowSequence : ∀ first items,
    Holds (∀ n ∈ items, n.Distinct) (flowSequence bound first items) Fine
  flowPair : Holds True (flowPair bound) Fine
  flowMapping : ∀ first entries, Holds entries.Tidy (flowMapping bound first entries) Fine
  flowValue : Holds True (flowValue bound) Fine

namespace Keeps

theorem zero : Keeps 0 where
  node _ _ := holds_exhausted
  content _ _ _ := holds_exhausted
  blockSequence _ := holds_exhausted
  indentlessSequence _ := holds_exhausted
  blockMapping _ := holds_exhausted
  blockValue := holds_exhausted
  flowSequence _ _ := holds_exhausted
  flowPair := holds_exhausted
  flowMapping _ _ := holds_exhausted
  flowValue := holds_exhausted

variable (h : Keeps bound)
include h

theorem node_succ (block indentless : Bool) :
    Holds True (Grammar.node (bound + 1) block indentless) Fine := by
  unfold Grammar.node
  refine holds_peek.skip fun ⟨mark, token⟩ => ?_
  split
  · refine holds_advance.skip fun _ => (holds_aliased _ _).andThen fun node => ?_
    exact holds_pure And.right
  · refine holds_property.skip fun p => (h.content _ _ p).andThen fun ⟨mark, node⟩ => ?_
    refine ((holds_complete p.anchor node).given And.right).bind fun node => ?_
    exact holds_pure And.right

theorem content_succ (block indentless : Bool) (p : Property) :
    Holds True (Grammar.content (bound + 1) block indentless p) Fine := by
  unfold Grammar.content
  refine holds_peek.skip fun ⟨mark, token⟩ => ?_
  dsimp only
  split
  · exact holds_advance.skip fun _ => holds_pure fun _ => Node.distinct_ofScalar _ _ _
  · exact holds_advance.skip fun _ => (h.flowSequence true []).given fun _ => nofun
  · exact holds_advance.skip fun _ => (h.flowMapping true {}).given fun _ => Entries.tidy_empty
  · refine holds_ite ((h.indentlessSequence []).given fun _ => nofun) ?_
    refine holds_ite ?_ (holds_ite ?_ ?_)
    · exact holds_advance.skip fun _ => (h.blockSequence []).given fun _ => nofun
    · exact holds_advance.skip fun _ => (h.blockMapping {}).given fun _ => Entries.tidy_empty
    · exact holds_ite (holds_pure fun _ => Node.distinct_ofScalar _ _ _) holds_fail

theorem blockSequence_succ (items : List Node) :
    Holds (∀ n ∈ items, n.Distinct) (Grammar.blockSequence (bound + 1) items) Fine := by
  unfold Grammar.blockSequence
  refine holds_peek.skip fun ⟨mark, token⟩ => ?_
  dsimp only
  split
  · exact holds_advance.skip fun _ => holds_pure fine_sequence
  · refine holds_advance.skip fun _ => (holds_unlessAt (h.node true false)).andThen fun item => ?_
    exact (h.blockSequence _).given fun hall => List.forall_mem_cons.mpr hall.symm
  · exact holds_fail

theorem indentlessSequence_succ (items : List Node) :
    Holds (∀ n ∈ items, n.Distinct) (Grammar.indentlessSequence (bound + 1) items) Fine := by
  unfold Grammar.indentlessSequence
  refine holds_peek.skip fun ⟨mark, token⟩ => holds_ite ?_ (holds_pure fine_sequence)
  refine holds_advance.skip fun _ => (holds_unlessAt (h.node true false)).andThen fun item => ?_
  exact (h.indentlessSequence _).given fun hall => List.forall_mem_cons.mpr hall.symm

theorem blockMapping_succ (entries : Entries) :
    Holds entries.Tidy (Grammar.blockMapping (bound + 1) entries) Fine := by
  unfold Grammar.blockMapping
  refine holds_peek.skip fun ⟨mark, token⟩ => ?_
  dsimp only
  split
  · exact holds_advance.skip fun _ => holds_pure Entries.Tidy.toNode
  · refine holds_advance.skip fun _ => (holds_unlessAt (h.node true true)).andThen fun key => ?_
    exact holds_member key.1 key.2 h.blockValue h.blockMapping
  · -- a value without a key
    refine (holds_member mark absent h.blockValue h.blockMapping).given fun hentries => ?_
    exact ⟨hentries, distinct_absent⟩
  · exact holds_fail

theorem blockValue_succ : Holds True (Grammar.blockValue (bound + 1)) Fine := by
  unfold Grammar.blockValue
  refine (holds_advanceIf .value).skip fun _ => holds_ite (holds_unlessAt (h.node true true)) ?_
  exact holds_peek.skip fun _ => holds_pure fun _ => distinct_absent

theorem flowSequence_succ (first : Bool) (items : List Node) :
    Holds (∀ n ∈ items, n.Distinct) (Grammar.flowSequence (bound + 1) first items) Fine := by
  unfold Grammar.flowSequence
  refine holds_peek.skip fun ⟨mark, token⟩ => holds_ite ?_ ?_
  · exact holds_advance.skip fun _ => holds_pure fine_sequence
  · refine holds_behindComma fun _ => holds_peek.skip fun ⟨mark, token⟩ => ?_
    dsimp only
    split
    · exact holds_advance.skip fun _ => holds_pure fine_sequence
    · refine holds_advance.skip fun _ => h.flowPair.andThen fun pair => ?_
      exact (h.flowSequence false _).given fun hall => List.forall_mem_cons.mpr hall.symm
    · refine (h.node false false).andThen fun item => ?_
      exact (h.flowSequence false _).given fun hall => List.forall_mem_cons.mpr hall.symm

omit h in
/-- The end of a single pair. -/
theorem pairEnd {entries : Entries} {value : Assemble Placed} (hvalue : Holds True value Fine) :
    Holds entries.Tidy (do
      let (mark, value) ← value
      let entries ← entries.add mark value
      return ((← peek).1, entries.toNode)) Fine := by
  refine hvalue.andThen fun ⟨mark, value⟩ => (entries.holds_add mark value).bind fun entries => ?_
  exact holds_peek.skip fun _ => holds_pure fun hall => hall.2.toNode

theorem flowPair_succ : Holds True (Grammar.flowPair (bound + 1)) Fine := by
  unfold Grammar.flowPair
  refine holds_peek.skip fun ⟨mark, token⟩ => ?_
  have habsent : ∀ mark, Holds True (pure (mark, absent)) Fine :=
    fun mark => holds_pure fun _ => distinct_absent
  refine holds_ite (holds_advance.skip fun _ => (habsent mark).andThen ?_)
    ((h.node false false).andThen ?_)
  -- the key is absent or not, and what follows is the same
  all_goals
    rintro ⟨mark, key⟩
    refine ((({} : Entries).holds_add mark key).given fun hall => ⟨Entries.tidy_empty, hall.2⟩).bind
      fun entries => (holds_advanceIf .value).skip fun _ => ?_
    refine Holds.given (holds_ite ?_ ?_) And.right
    · exact pairEnd (holds_unlessAt (h.node false false))
    · exact holds_peek.skip fun _ => pairEnd (habsent _)

theorem flowMapping_succ (first : Bool) (entries : Entries) :
    Holds entries.Tidy (Grammar.flowMapping (bound + 1) first entries) Fine := by
  unfold Grammar.flowMapping
  refine holds_peek.skip fun ⟨mark, token⟩ => holds_ite ?_ ?_
  · exact holds_advance.skip fun _ => holds_pure Entries.Tidy.toNode
  · refine holds_behindComma fun _ => holds_peek.skip fun ⟨mark, token⟩ => ?_
    dsimp only
    split
    · exact holds_advance.skip fun _ => holds_pure Entries.Tidy.toNode
    · refine holds_advance.skip fun _ => (holds_unlessAt (h.node false false)).andThen fun key => ?_
      exact holds_member key.1 key.2 h.flowValue (h.flowMapping false)
    · refine (holds_member mark absent h.flowValue (h.flowMapping false)).given fun hentries => ?_
      exact ⟨hentries, distinct_absent⟩
    · -- a key without a value
      refine (h.node false false).andThen fun ⟨mark, key⟩ => ?_
      refine (entries.holds_add mark key).bind fun entries => holds_peek.skip fun ⟨mark, _⟩ => ?_
      refine ((entries.holds_add mark absent).given fun hall => ⟨hall.2, distinct_absent⟩).bind
        fun entries => ?_
      exact (h.flowMapping false entries).given And.right

theorem flowValue_succ : Holds True (Grammar.flowValue (bound + 1)) Fine := by
  unfold Grammar.flowValue
  refine holds_peek.skip fun ⟨mark, _⟩ => (holds_advanceIf .value).skip fun _ => ?_
  refine holds_ite (holds_peek.skip fun ⟨_, token⟩ => ?_) (holds_pure fun _ => distinct_absent)
  exact holds_ite (holds_pure fun _ => distinct_absent) (h.node false false)

theorem succ : Keeps (bound + 1) where
  node := h.node_succ
  content := h.content_succ
  blockSequence := h.blockSequence_succ
  indentlessSequence := h.indentlessSequence_succ
  blockMapping := h.blockMapping_succ
  blockValue := h.blockValue_succ
  flowSequence := h.flowSequence_succ
  flowPair := h.flowPair_succ
  flowMapping := h.flowMapping_succ
  flowValue := h.flowValue_succ

end Keeps

/-- A call is as deep as its bound, and each function calls others with less. -/
theorem keeps (bound : Nat) : Keeps bound := by
  -- induction on the bound: all functions of the grammar at once
  induction bound with
  | zero => exact .zero
  | succ bound ih => exact ih.succ

/-! ### Documents -/

theorem holds_directives (bound : Nat) (versioned : Bool) :
    Holds True (directives bound versioned) fun _ => True := by
  induction bound generalizing versioned with
  | zero => exact holds_exhausted
  | succ bound ih =>
    unfold directives
    refine holds_peek.skip fun ⟨mark, token⟩ => ?_
    split
    · have hrest : Holds True (do
          modify fun s => { s with handles := [] }
          advance
          directives bound true) fun _ => True :=
        Holds.skip (holds_modify (fun _ => rfl) fun _ => rfl) fun _ =>
          holds_advance.skip fun _ => ih true
      exact holds_ite holds_fail_bind hrest
    · refine Holds.skip (holds_modify (fun _ => rfl) fun _ => rfl) fun _ => ?_
      exact holds_advance.skip fun _ => ih versioned
    · exact holds_pure fun _ => trivial

theorem holds_documentEnd : Holds True documentEnd fun _ => True := by
  unfold documentEnd
  refine (holds_advanceIf .documentEnd).skip fun ended => ?_
  refine Holds.skip (holds_modify (fun _ => rfl) fun _ => rfl) fun _ => ?_
  refine holds_peek.skip fun ⟨mark, token⟩ => ?_
  extract_lets rest
  exact holds_ite holds_fail_bind (holds_pure fun _ => trivial)

theorem holds_passEnds (bound : Nat) : Holds True (passEnds bound) fun _ => True := by
  induction bound with
  | zero => exact holds_pure fun _ => trivial
  | succ bound ih =>
    refine (holds_advanceIf .documentEnd).skip fun _ => holds_ite ih ?_
    exact holds_pure fun _ => trivial

theorem holds_documents (bound : Nat) (implicit : Bool) :
    Holds True (documents bound implicit) fun nodes => ∀ n ∈ nodes, n.Distinct := by
  induction bound generalizing implicit with
  | zero => exact holds_exhausted
  | succ bound ih =>
    unfold documents
    refine (holds_passEnds bound).skip fun _ => holds_peek.skip fun ⟨mark, token⟩ => ?_
    refine holds_ite (holds_pure fun _ => nofun) ?_
    have hnode := (keeps bound).node true false
    have hrest : ∀ document : Placed, Holds (True ∧ Fine document) (do
        let implicit ← documentEnd
        return document.2 :: (← documents bound implicit)) fun nodes =>
          ∀ n ∈ nodes, n.Distinct := by
      intro document
      refine holds_documentEnd.skip fun implicit => (ih implicit).andThen fun nodes => ?_
      exact holds_pure fun hall => List.forall_mem_cons.mpr ⟨hall.1.2, hall.2⟩
    refine holds_ite (hnode.andThen hrest) ?_
    refine (holds_directives bound false).skip fun _ => (holds_advanceIf _).skip fun _ => ?_
    refine holds_ite (holds_peek.skip fun _ => holds_fail_bind) ?_
    exact (holds_unlessAt hnode).andThen hrest

end Grammar

/-- **No mapping of a document has a key twice.** -/
theorem distinct_of_documents {text : String} {nodes : List Node}
    (h : documents text = .ok nodes) : ∀ n ∈ nodes, n.Distinct := by
  unfold documents at h
  dsimp only [bind, Except.bind] at h
  split at h
  · cases h
  · next result hrun =>
    obtain ⟨found, s⟩ := result
    dsimp only at h
    split at h
    · cases h
    · next hnone =>
      cases h
      obtain ⟨-, hfits⟩ := Grammar.holds_documents _ true _ _ s hrun hnone
      exact (hfits nofun trivial).2

/-- The documents of a text that have been worked out. -/
theorem documents_of_same {text : String} {nodes : List Node}
    (h : (documents text).toOption.any (Node.sameItems · nodes) = true) :
    documents text = .ok nodes := by
  cases hread : documents text with
  | error e =>
    rw [hread] at h
    cases h
  | ok others =>
    rw [hread] at h
    exact congrArg Except.ok ((Node.sameItems_iff others nodes).mp h)

end ClusterWatch.Yaml
