import ClusterWatch.Event.Normalize
/-!
# Containers in field paths

The field path of a native event may name a container: in braces, after a mark. Marks and braces may
stand anywhere else in the path too, so it takes a rule which of them count: the first mark, and the
first brace that closes after it.

- `NamesContainer`: the grammar of the paths that name a container.
- `containerName?_eq_some_iff`: the search accepts that grammar and nothing else.

Main result: `containerName_exact`.
-/

namespace ClusterWatch

/-- A path names a container: the name stands behind the first mark and in front of a closing brace,
and it is neither empty nor has such a brace in it. -/
def NamesContainer (path name : List Char) : Prop :=
  ∃ before after,
    path = before ++ containerMark ++ name ++ '\x7d' :: after ∧
    (∀ earlier rest, path = earlier ++ containerMark ++ rest → before.length ≤ earlier.length) ∧
    name ≠ [] ∧ '\x7d' ∉ name

/-- The two cuts of the search, and its last check. -/
theorem containerName?_eq_some_iff_cuts {path name : List Char} :
    containerName? path = some name ↔
      ∃ before rest after, Text.cut? containerMark path = some (before, rest) ∧
        Text.cut? ['\x7d'] rest = some (name, after) ∧ name ≠ [] := by
  constructor
  · intro h
    obtain ⟨⟨before, rest⟩, hmark, h⟩ := Option.bind_eq_some_iff.mp h
    obtain ⟨⟨name', after⟩, hbrace, h⟩ := Option.bind_eq_some_iff.mp h
    have hnonempty : ¬ name'.isEmpty = true := fun hempty => by simp [hempty] at h
    obtain rfl := Option.some.inj ((if_neg hnonempty).symm.trans h)
    exact ⟨before, rest, after, hmark, hbrace, by simpa using hnonempty⟩
  · rintro ⟨before, rest, after, hmark, hbrace, hnonempty⟩
    rw [containerName?, hmark]
    show (Text.cut? ['\x7d'] rest >>= fun p => if p.1.isEmpty then none else some p.1) = _
    rw [hbrace]
    exact if_neg (by simpa using hnonempty)

theorem containerName?_eq_some_iff {path name : List Char} :
    containerName? path = some name ↔ NamesContainer path name := by
  rw [containerName?_eq_some_iff_cuts]
  constructor
  · rintro ⟨before, rest, after, hmark, hbrace, hnonempty⟩
    obtain ⟨hpath, hfirst⟩ := Text.cut?_eq_some_iff.mp hmark
    obtain ⟨rfl, hclosed⟩ := Text.cut?_mark_eq_some_iff.mp hbrace
    exact ⟨before, after, hpath.trans (List.append_assoc ..).symm, hfirst, hnonempty, hclosed⟩
  · rintro ⟨before, after, hpath, hfirst, hnonempty, hclosed⟩
    refine ⟨before, name ++ '\x7d' :: after, after, Text.cut?_eq_some_iff.mpr ⟨?_, hfirst⟩,
      Text.cut?_mark_eq_some_iff.mpr ⟨rfl, hclosed⟩, hnonempty⟩
    rw [hpath, List.append_assoc]

/-- A path that begins with the mark has no other first mark. -/
theorem namesContainer_mark {name : List Char} (hnonempty : name ≠ []) (hclosed : '\x7d' ∉ name)
    (after : List Char) : NamesContainer (containerMark ++ name ++ '\x7d' :: after) name :=
  ⟨[], after, rfl, fun _ _ _ => Nat.zero_le _, hnonempty, hclosed⟩

/-- **A field path names a container in one way only.** A container is found in a path exactly if
the path names it: some text, the first mark in the path, the name, a closing brace and more text,
where the name is neither empty nor has a closing brace in it. No path names two containers, and
every such name is given back by the path that is written for it. -/
theorem containerName_exact :
    (∀ path name, containerName? path = some name ↔ NamesContainer path name) ∧
      (∀ path name name', NamesContainer path name → NamesContainer path name' → name = name') ∧
      ∀ name, name ≠ [] → '\x7d' ∉ name →
        containerName? (containerMark ++ name ++ ['\x7d']) = some name := by
  refine ⟨fun path name => containerName?_eq_some_iff, fun path name name' h h' => ?_,
    fun name hnonempty hclosed => ?_⟩
  · have hfound := containerName?_eq_some_iff.mpr h
    rw [containerName?_eq_some_iff.mpr h'] at hfound
    exact (Option.some.inj hfound).symm
  · exact containerName?_eq_some_iff.mpr (namesContainer_mark hnonempty hclosed [])

/-- Another pair of braces stands before the first mark. The name has a mark in it, and two braces
close it. -/
theorem containerName_exact_nested :
    let path := "spec.initContainers\x7bjob\x7dspec.containers\x7bweb.spec.containers\x7bdb\x7d\x7d"
    let name := "web.spec.containers\x7bdb"
    containerName? path.toList = some name.toList ∧ NamesContainer path.toList name.toList ∧
      (∀ other, NamesContainer path.toList other → other = name.toList) ∧
      containerName? (containerMark ++ name.toList ++ ['\x7d']) = some name.toList := by
  intro path name
  obtain ⟨hfound, hunique, hwritten⟩ := containerName_exact
  have hname : containerName? path.toList = some name.toList := by decide
  have hnames := (hfound path.toList name.toList).mp hname
  exact ⟨hname, hnames, fun other h => hunique path.toList other name.toList h hnames,
    hwritten name.toList (by decide) (by decide)⟩

end ClusterWatch
