import ClusterWatch.Proofs.Json.Records
import ClusterWatch.Proofs.Json.RoundTrip
import ClusterWatch.Sink.Alert
import ClusterWatch.Sink.MessageBus
import ClusterWatch.Sink.SearchIndex
/-!
# Event records read back

The record of an event reads back from every form in which it is sent: alone, with the subject of an
alert beside its members, and as a text within the message for a bus. The names of its members are
the names under which they are looked for, and a reader depends on nothing but the members of these
names.

- `Event.layout`: the fields of a record are places of their own.
- `Event.ofJson?`, `Event.ofText?`: reading a record.
- `SearchIndex.document?_eq`: the documents of a search are read that way.
- `Event.ofText?_members`: the members of a record, with others beside them, read as the record.
- `Event.events?_stored`: stored records are found as they were.

Main result: `Event.wire_round_trip`.
-/

namespace ClusterWatch

open Json (Format Value)

theorem Action.readsBack_format : Action.format.ReadsBack := by
  intro a
  cases a <;> rfl

/-- Actions have names of their own. -/
theorem Action.name_inj {a b : Action} : a.name = b.name ↔ a = b := by
  refine ⟨fun h => ?_, congrArg name⟩
  revert h
  cases a <;> cases b <;> decide

namespace Event

/-! ### Fields -/

/-- Each field is the place of its own update, in a format that reads back. -/
theorem lawful_of_mem : ∀ f ∈ fields, f.Lawful := by
  have htext := Format.readsBack_text
  have hcount := Format.readsBack_signed32
  have haction := Action.readsBack_format
  simp only [fields, List.forall_mem_cons, List.not_mem_nil, false_imp_iff, implies_true, and_true]
  and_intros
  all_goals exact .of (by assumption) fun _ _ => rfl

/-- What is put into one field does not show in another. -/
theorem apart : ∀ f ∈ fields, ∀ g ∈ fields, g.name ≠ f.name → ∀ {v a a'}, f.set v a = .ok a' →
    g.get a' = g.get a := by
  intro f hf g hg hname v a a' hset
  simp only [fields, List.mem_cons, List.not_mem_nil, or_false] at hf
  rcases hf with rfl | rfl | rfl | rfl | rfl | rfl | rfl | rfl | rfl | rfl | rfl | rfl | rfl | rfl |
    rfl | rfl | rfl | rfl | rfl | rfl
  -- one case for each field: its update leaves what the others show, or has the same name
  all_goals
    obtain ⟨x, -, rfl⟩ := Json.Field.set_eq_ok_iff.mp hset
    revert g
    simp [fields, Json.Field.of]

/-- All of a record shows in its fields. -/
theorem ext_fields {a b : Event} (h : ∀ f ∈ fields, f.get a = f.get b) : a = b := by
  simp only [fields, List.forall_mem_cons, Json.Field.of, Format.text, Format.signed32,
    Format.integer, Action.format, Format.names, Value.int, Value.string.injEq, Value.number.injEq,
    Json.Number.integer.injEq, Int32.toInt_inj, Action.name_inj] at h
  cases a
  cases b
  simpa using h

theorem layout : Json.Layout fields where
  names := by decide
  lawful := lawful_of_mem
  apart := apart
  ext := ext_fields

/-! ### Texts -/

/-- The members of a record read back from a text. -/
theorem fits_of_mem_members (e : Event) (depth : Nat) :
    ∀ m ∈ Json.Field.members fields e, m.2.Fits depth := by
  have hcount : Json.IsInt64 e.count.toInt := by
    have hlow := e.count.le_toInt
    have hhigh := e.count.toInt_lt
    have hsize : UInt64.size = 2 ^ 64 := rfl
    unfold Json.IsInt64 Text.int64Min
    omega
  simp [Json.Field.members, fields, Json.Field.of, Format.text, Format.signed32, Format.integer,
    Action.format, Format.names, Value.int, Value.Fits, hcount]

/-- A tree of the members of a record and other members reads back from its text. -/
theorem read_members (e : Event) {members : List (String × Value)}
    (h : ∀ m ∈ members, m.2.Fits 127) :
    Json.read (Value.object (Json.Field.members fields e ++ members)).text =
      .ok (.object (Json.Field.members fields e ++ members)) := by
  refine Json.read_text ?_
  show Value.MembersFit 127 _
  rw [Value.membersFit_iff, List.forall_mem_append]
  exact ⟨fits_of_mem_members e 127, h⟩

/-! ### Reading records -/

/-- The record of a tree. No member of the record may be given twice. -/
def ofJson? : Value → Option Event
  | .object members => Json.Field.read? fields {} members
  | v => (format.read v).toOption

/-- The record of a text. -/
def ofText? (text : String) : Option Event :=
  (Json.read text).toOption.bind ofJson?

end Event

/-- The documents of a search are read as records. -/
theorem Sink.SearchIndex.document?_eq (v : Value) :
    document? v = (Json.single? "_source" v).bind Event.ofJson? := by
  unfold document?
  cases Json.single? "_source" v with
  | none => rfl
  | some source =>
    show (if _ then none else (Event.format.read source).toOption) = Event.ofJson? source
    -- the check for repeated members comes first, and only an object can fail it
    cases source with
    | object members =>
      show _ = if Json.Unrepeated Event.fields members then
        (Json.Field.setMembers Event.fields members {}).toOption else none
      by_cases hmembers : Json.Unrepeated Event.fields members
      · rw [if_pos hmembers, if_neg]
        · rfl
        · rw [List.any_eq_true]
          rintro ⟨f, hf, hrepeated⟩
          exact absurd (of_decide_eq_true hrepeated) (Nat.not_lt.mpr (hmembers f hf))
      · have hrepeated : ∃ f ∈ Event.fields,
            1 < (members.filter fun m => m.1 == f.name).length := by
          simpa [Json.Unrepeated] using hmembers
        obtain ⟨f, hf, hlength⟩ := hrepeated
        rw [if_neg hmembers, if_pos (List.any_eq_true.mpr ⟨f, hf, decide_eq_true hlength⟩)]
    | null | bool | number | string | array =>
      rw [if_neg]
      · rfl
      · simp [Value.members?]

namespace Event

/-- The members of a record, with other members beside them, are read as the record. -/
theorem ofText?_members (e : Event) {members : List (String × Value)}
    (hfits : ∀ m ∈ members, m.2.Fits 127) (hother : ∀ m ∈ members, ∀ f ∈ fields, m.1 ≠ f.name) :
    ofText? (Value.object (Json.Field.members fields e ++ members)).text = some e := by
  rw [ofText?, read_members e hfits]
  exact layout.read?_members {} e hother

theorem ofText?_text (e : Event) : ofText? e.text = some e := by
  have hmembers : ofText? (Value.object (Json.Field.members fields e ++ [])).text = some e :=
    ofText?_members e (by simp) (by simp)
  rwa [List.append_nil] at hmembers

theorem ofJson?_toJson (e : Event) : ofJson? e.toJson = some e := by
  have hmembers : Json.Field.read? fields {} (Json.Field.members fields e ++ []) = some e :=
    layout.read?_members {} e (by simp)
  rwa [List.append_nil] at hmembers

/-- The answer of a search with stored records is read as these records. -/
theorem events?_stored (events : List Event) :
    Sink.SearchIndex.events? (Value.object [("hits", .object [("hits",
      .array (events.map fun e => .object [("_source", e.toJson)]))])]).text = some events := by
  have hdocument : Sink.SearchIndex.document? ∘ (fun e => .object [("_source", e.toJson)]) =
      some := by
    funext e
    rw [Function.comp_apply, Sink.SearchIndex.document?_eq]
    exact ofJson?_toJson e
  have hfits : (Value.object [("hits", .object [("hits",
      .array (events.map fun e => .object [("_source", e.toJson)]))])]).Fits Json.depthLimit := by
    show (Value.ItemsFit 125 _ ∧ True) ∧ True
    rw [Value.itemsFit_iff, List.forall_mem_map]
    refine ⟨⟨?_, trivial⟩, trivial⟩
    intro e he
    exact ⟨Value.membersFit_iff.mpr (fits_of_mem_members e 123), trivial⟩
  unfold Sink.SearchIndex.events?
  rw [Json.read_text hfits]
  show (events.map fun e => .object [("_source", e.toJson)]).mapM Sink.SearchIndex.document? = _
  rw [List.mapM_map, hdocument]
  exact List.mapM_pure.trans (congrArg some (List.map_id events))

/-- **The record of an event reads back** from its own text, from the body of an alert and from the
payload in the message for a bus. What is read depends neither on the order of members nor on
members that are no fields, and without the member of a field that field has its default and all
others are as with it. -/
theorem wire_round_trip :
    (∀ e : Event, ofText? e.text = some e ∧
      (∀ (a : Sink.Alert) (description : String),
        ofText? (a.body e description).text = some e) ∧
      ∀ c : Config.MessageBus, ∃ v payload,
        Json.read (Sink.MessageBus.message c e).text = .ok v ∧
          v.member? "payload" = some (.string payload) ∧ ofText? payload = some e) ∧
    (∀ members members' : List (String × Value), members'.Perm members →
      ofJson? (.object members') = ofJson? (.object members)) ∧
    (∀ members : List (String × Value),
      ofJson? (.object (members.filter fun m => fields.any fun f => f.name == m.1)) =
        ofJson? (.object members)) ∧
    ∀ (members : List (String × Value)) (e : Event), ofJson? (.object members) = some e →
      ∀ f ∈ fields, ∃ e',
        ofJson? (.object (members.filter fun m => m.1 != f.name)) = some e' ∧
          f.get e' = f.get {} ∧ ∀ g ∈ fields, g.name ≠ f.name → g.get e' = g.get e := by
  refine ⟨fun e => ⟨ofText?_text e, ?_, ?_⟩, ?_, ?_, ?_⟩
  · intro a description
    exact ofText?_members e (by simp [Value.Fits]) (by simp [fields, Json.Field.of])
  · intro c
    refine ⟨_, e.text, Json.read_text ?_, rfl, ofText?_text e⟩
    have hmode : Json.IsInt64 2 := ⟨by decide, by decide⟩
    simp [Sink.MessageBus.message, Value.Fits, Value.MembersFit, Json.depthLimit, Value.int, hmode]
  · intro members members' hperm
    exact layout.read?_perm hperm
  · intro members
    exact layout.read?_filter {} members
  · intro members e he f hf
    exact layout.read?_without he hf

end Event

end ClusterWatch
