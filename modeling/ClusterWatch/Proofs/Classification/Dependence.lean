import Mathlib.Data.List.Infix
import Mathlib.Data.List.Nodup
import Mathlib.Data.List.Pairwise
import ClusterWatch.Classification.Basic
import ClusterWatch.Config.Basic
/-!
# What a classification depends on

Each known reason stands in one table, so the order in which the tables are asked is of no
consequence, and which table it is decides what else of an event matters: the namespace, the
message, the type or nothing.

- `Shelf`: the tables by name.
- `ReasonTables.classifyIn`: a classification that asks the tables in any order.
- `ReasonTables.Separate`: no reason stands in two tables.

Main result: `ReasonTables.classify_depends`.
-/

namespace ClusterWatch

/-- One of the tables. -/
inductive Shelf where
  | user
  | admin
  | normal
  | warning
  deriving DecidableEq, Repr

/-- The tables in the order in which they are asked. -/
def Shelf.all : List Shelf :=
  [user, admin, normal, warning]

theorem Shelf.mem_all (shelf : Shelf) : shelf ∈ Shelf.all := by
  cases shelf <;> decide

/-- The tier of the reasons of a table, whatever the event; that of the owners of applications is
only the usual one. -/
def Shelf.tier : Shelf → Tier
  | user => .appOwner
  | admin => .admin
  | normal => .normal
  | warning => .warning

namespace ReasonTables

/-- The table of a name. -/
def table (tables : ReasonTables) : Shelf → List (String × String)
  | .user => tables.user
  | .admin => tables.admin
  | .normal => tables.normal
  | .warning => tables.warning

/-- What becomes of an event whose reason stands in a table under a description. -/
def verdict (tables : ReasonTables) (e : Event) (description : String) : Shelf → Classification
  | .user =>
    if e.reason = "Killing" then classifyKilling e.message description
    else ⟨description, if tables.escalates e.namespaceName then .admin else .appOwner⟩
  | shelf => ⟨description, shelf.tier⟩

/-- Classifies a native event with the tables in the given order. -/
def classifyIn (tables : ReasonTables) (order : List Shelf) (e : Event) : Classification :=
  (order.findSome? fun shelf =>
    ((tables.table shelf).lookup e.reason).map fun description =>
      tables.verdict e description shelf).getD ⟨e.reason, tierOfType e.type⟩

/-- No reason stands in two tables. -/
def Separate (tables : ReasonTables) : Prop :=
  ∀ shelf shelf' reason description description',
    (tables.table shelf).lookup reason = some description →
    (tables.table shelf').lookup reason = some description' → shelf = shelf'

variable {tables : ReasonTables} {e e' : Event} {shelf : Shelf} {description : String}
  {order : List Shelf}

theorem classifyIn_all (tables : ReasonTables) (e : Event) :
    tables.classifyIn Shelf.all e = tables.classify e := by
  simp only [classifyIn, Shelf.all, List.findSome?_cons, List.findSome?_nil, table, classify]
  cases tables.user.lookup e.reason with
  | some description => rfl
  | none =>
    cases tables.admin.lookup e.reason with
    | some description => rfl
    | none =>
      cases tables.normal.lookup e.reason with
      | some description => rfl
      | none => cases tables.warning.lookup e.reason <;> rfl

/-- The table that a reason stands in decides, wherever it comes in the order. -/
theorem classifyIn_of_lookup (hseparate : tables.Separate) (hmem : shelf ∈ order)
    (h : (tables.table shelf).lookup e.reason = some description) :
    tables.classifyIn order e = tables.verdict e description shelf := by
  induction order with
  | nil => cases hmem
  | cons first order ih =>
    rw [classifyIn, List.findSome?_cons]
    cases hfirst : (tables.table first).lookup e.reason with
    | some description' =>
      -- the first table knows the reason, so it is the one
      obtain rfl := hseparate shelf first e.reason description description' h hfirst
      obtain rfl := Option.some.inj (h.symm.trans hfirst)
      rfl
    | none =>
      rcases List.mem_cons.mp hmem with rfl | hmem
      · rw [h] at hfirst
        cases hfirst
      · exact ih hmem

theorem classifyIn_of_unknown (h : ∀ shelf, (tables.table shelf).lookup e.reason = none)
    (order : List Shelf) : tables.classifyIn order e = ⟨e.reason, tierOfType e.type⟩ := by
  have hnone : (order.findSome? fun shelf => ((tables.table shelf).lookup e.reason).map
      fun description => tables.verdict e description shelf) = none :=
    List.findSome?_eq_none_iff.mpr fun shelf _ => by rw [h shelf]; rfl
  rw [classifyIn, hnone]
  rfl

theorem classify_of_lookup (hseparate : tables.Separate)
    (h : (tables.table shelf).lookup e.reason = some description) :
    tables.classify e = tables.verdict e description shelf := by
  rw [← classifyIn_all]
  exact classifyIn_of_lookup hseparate shelf.mem_all h

theorem classify_of_unknown (h : ∀ shelf, (tables.table shelf).lookup e.reason = none) :
    tables.classify e = ⟨e.reason, tierOfType e.type⟩ := by
  rw [← classifyIn_all]
  exact classifyIn_of_unknown h Shelf.all

/-- The tables may be asked in any order. -/
theorem classifyIn_eq (hseparate : tables.Separate) (hall : ∀ shelf, shelf ∈ order) (e : Event) :
    tables.classifyIn order e = tables.classify e := by
  by_cases h : ∃ shelf description, (tables.table shelf).lookup e.reason = some description
  · obtain ⟨shelf, description, h⟩ := h
    rw [classifyIn_of_lookup hseparate (hall shelf) h, classify_of_lookup hseparate h]
  · have hunknown : ∀ shelf, (tables.table shelf).lookup e.reason = none := by
      intro shelf
      by_contra hsome
      obtain ⟨description, hsome⟩ := Option.ne_none_iff_exists'.mp hsome
      exact h ⟨shelf, description, hsome⟩
    rw [classifyIn_of_unknown hunknown, classify_of_unknown hunknown]

/-! ### The tables the watcher comes with -/

theorem mem_of_lookup {reason : String} {entries : List (String × String)}
    (h : entries.lookup reason = some description) : reason ∈ entries.map Prod.fst := by
  obtain ⟨before, after, rfl, -⟩ := List.lookup_eq_some_iff.mp h
  simp

theorem nodup_builtin :
    (Shelf.all.flatMap fun shelf => (builtin.table shelf).map Prod.fst).Nodup := by
  decide +kernel

theorem separate_builtin : builtin.Separate := by
  intro shelf shelf' reason description description' h h'
  by_contra hne
  have hdisjoint := (List.nodup_flatMap.mp nodup_builtin).2
  have : Std.Symm (Function.onFun List.Disjoint fun shelf => (builtin.table shelf).map Prod.fst) :=
    ⟨fun _ _ h _ hleft hright => h hright hleft⟩
  exact hdisjoint.forall shelf.mem_all shelf'.mem_all hne (mem_of_lookup h) (mem_of_lookup h')

theorem table_withEscalation (tables : ReasonTables) (namespaces : List String) (shelf : Shelf) :
    (tables.withEscalation namespaces).table shelf = tables.table shelf := by
  cases shelf <;> rfl

theorem separate_withEscalation (h : tables.Separate) (namespaces : List String) :
    (tables.withEscalation namespaces).Separate := by
  intro shelf shelf' reason description description'
  rw [table_withEscalation, table_withEscalation]
  exact h shelf shelf' reason description description'

/-- Classifies with the tables the watcher comes with, under the given escalation namespaces. -/
def classifyFor (namespaces : List String) (e : Event) : Classification :=
  (builtin.withEscalation namespaces).classify e

/-- A configuration decides about the namespaces only. -/
theorem classify_reasonTables (c : Config) (e : Event) :
    c.reasonTables.classify e =
      classifyFor (c.sinks.alert.escalationNamespaces.getD adminNamespaces) e := by
  unfold Config.reasonTables
  split
  · next hnames => rw [hnames]; rfl
  · next hnone => rw [hnone]; rfl

/-! ### What matters -/

variable {namespaces : List String}

/-- The namespace decides whom the reasons of the first table concern. -/
theorem classifyFor_of_user (h : builtin.user.lookup e.reason = some description)
    (hreason : e.reason ≠ "Killing") :
    classifyFor namespaces e =
      ⟨description, if e.namespaceName ∈ namespaces then .admin else .appOwner⟩ := by
  simp [classifyFor, classify, withEscalation, escalates, h, hreason]

/-- The message decides what a kill was about. -/
theorem classifyFor_of_killing (h : e.reason = "Killing") :
    classifyFor namespaces e =
      if livenessMark.toList <:+: e.message.toList then ⟨livenessDescription, .appOwner⟩
      else if startHookMark.toList <:+: e.message.toList then ⟨startHookDescription, .appOwner⟩
      else ⟨"Container was killed", .normal⟩ := by
  -- kills stand in the first table, but no namespace is looked at
  have hkilling : builtin.user.lookup "Killing" = some "Container was killed" := rfl
  simp only [classifyFor, classify, withEscalation, h, hkilling, if_true, classifyKilling,
    Text.occurs_iff]

theorem classifyFor_killing_ne_admin (h : e.reason = "Killing") :
    (classifyFor namespaces e).tier ≠ .admin := by
  rw [classifyFor_of_killing h]
  split
  · decide
  · split <;> decide

/-- Nothing but the reason matters for those of another table. -/
theorem classifyFor_of_other (hshelf : shelf ≠ .user)
    (h : (builtin.table shelf).lookup e.reason = some description) :
    classifyFor namespaces e = ⟨description, shelf.tier⟩ := by
  rw [← table_withEscalation builtin namespaces] at h
  rw [classifyFor, classify_of_lookup (separate_withEscalation separate_builtin namespaces) h]
  cases shelf with
  | user => exact absurd rfl hshelf
  | admin | normal | warning => rfl

/-- The type decides whom a reason concerns that stands in no table. -/
theorem classifyFor_of_type (h : ∀ shelf, (builtin.table shelf).lookup e.reason = none) :
    classifyFor namespaces e =
      ⟨e.reason, if e.type = "Warning" then .admin else if e.type = "Normal" then .normal
        else .unknown⟩ := by
  refine classify_of_unknown fun shelf => ?_
  rw [table_withEscalation, h]

/-- The namespaces matter for no reason but those of the first table, and not for kills. -/
theorem classifyFor_congr (h : builtin.user.lookup e.reason = none ∨ e.reason = "Killing")
    (namespaces namespaces' : List String) :
    classifyFor namespaces' e = classifyFor namespaces e := by
  rcases h with h | h
  · simp only [classifyFor, classify, withEscalation, h]
  · rw [classifyFor_of_killing h, classifyFor_of_killing h]

/-- **The table of a reason decides what else matters.** Of two events with the same reason the
classifications differ by the namespaces for a reason of the first table, by the messages for a
kill, by the types for an unknown reason, and not at all for any other. The namespaces that are
escalated matter in the first of these cases alone, and the order of the tables matters in none.
Which namespaces these are is all that a configuration decides. -/
theorem classify_depends (namespaces : List String) (hreason : e.reason = e'.reason) :
    (∀ description, builtin.user.lookup e.reason = some description → e.reason ≠ "Killing" →
      classifyFor namespaces e =
        ⟨description, if e.namespaceName ∈ namespaces then .admin else .appOwner⟩ ∧
      classifyFor namespaces e' =
        ⟨description, if e'.namespaceName ∈ namespaces then .admin else .appOwner⟩ ∧
      ((classifyFor namespaces e).tier ≠ (classifyFor namespaces e').tier ↔
        ¬ (e.namespaceName ∈ namespaces ↔ e'.namespaceName ∈ namespaces))) ∧
    (e.reason = "Killing" →
      classifyFor namespaces e =
        (if livenessMark.toList <:+: e.message.toList then ⟨livenessDescription, .appOwner⟩
        else if startHookMark.toList <:+: e.message.toList then ⟨startHookDescription, .appOwner⟩
        else ⟨"Container was killed", .normal⟩) ∧
      (classifyFor namespaces e).tier ≠ .admin ∧
      (e.message = e'.message → classifyFor namespaces e = classifyFor namespaces e')) ∧
    (∀ shelf description, shelf ≠ .user →
      (builtin.table shelf).lookup e.reason = some description →
      classifyFor namespaces e = ⟨description, shelf.tier⟩ ∧
      classifyFor namespaces e = classifyFor namespaces e') ∧
    ((∀ shelf, (builtin.table shelf).lookup e.reason = none) →
      classifyFor namespaces e = ⟨e.reason, if e.type = "Warning" then .admin
        else if e.type = "Normal" then .normal else .unknown⟩ ∧
      (e.type = e'.type → classifyFor namespaces e = classifyFor namespaces e')) ∧
    (builtin.user.lookup e.reason = none ∨ e.reason = "Killing" →
      ∀ namespaces', classifyFor namespaces' e = classifyFor namespaces e) ∧
    (∀ order, (∀ shelf, shelf ∈ order) →
      (builtin.withEscalation namespaces).classifyIn order e = classifyFor namespaces e) ∧
    ∀ c : Config, c.reasonTables.classify e =
      classifyFor (c.sinks.alert.escalationNamespaces.getD adminNamespaces) e := by
  refine ⟨?_, ?_, ?_, ?_, fun h => classifyFor_congr h namespaces, fun order hall =>
    classifyIn_eq (separate_withEscalation separate_builtin namespaces) hall e,
    fun c => classify_reasonTables c e⟩
  · intro description h hkilling
    refine ⟨classifyFor_of_user h hkilling, ?_, ?_⟩
    · rw [hreason] at h hkilling
      exact classifyFor_of_user h hkilling
    · rw [classifyFor_of_user h hkilling]
      rw [hreason] at h hkilling
      rw [classifyFor_of_user h hkilling]
      by_cases hin : e.namespaceName ∈ namespaces <;>
        by_cases hin' : e'.namespaceName ∈ namespaces <;> simp [hin, hin']
  · intro h
    refine ⟨classifyFor_of_killing h, classifyFor_killing_ne_admin h, fun hmessage => ?_⟩
    rw [classifyFor_of_killing h, classifyFor_of_killing (hreason.symm.trans h), hmessage]
  · intro shelf description hshelf h
    refine ⟨classifyFor_of_other hshelf h, ?_⟩
    rw [classifyFor_of_other hshelf h]
    rw [hreason] at h
    rw [classifyFor_of_other hshelf h]
  · intro h
    refine ⟨classifyFor_of_type h, fun htype => ?_⟩
    rw [classifyFor_of_type h, classifyFor_of_type fun shelf => hreason ▸ h shelf, hreason, htype]

/-- Two restarts of containers, one of them in a namespace of the administrators. -/
theorem classify_depends_backOff :
    let e : Event := { reason := "BackOff", namespaceName := "ops", message := "first" }
    let e' : Event := { reason := "BackOff", namespaceName := "shop", message := "second" }
    let namespaces := ["ops", "monitoring"]
    e.reason = e'.reason ∧ classifyFor namespaces e = ⟨"BackOff", .admin⟩ ∧
      classifyFor namespaces e' = ⟨"BackOff", .appOwner⟩ ∧
      (builtin.withEscalation namespaces).classifyIn [.warning, .normal, .admin, .user] e =
        ⟨"BackOff", .admin⟩ := by
  intro e e' namespaces
  have hreason : e.reason = e'.reason := rfl
  obtain ⟨huser, -, -, -, -, horder, -⟩ := classify_depends namespaces hreason
  obtain ⟨hfirst, hsecond, -⟩ := huser "BackOff" rfl (by decide)
  have hall : ∀ shelf, shelf ∈ [Shelf.warning, .normal, .admin, .user] := by
    intro shelf
    cases shelf <;> decide
  exact ⟨hreason, hfirst, hsecond, (horder _ hall).trans hfirst⟩

end ReasonTables

end ClusterWatch
