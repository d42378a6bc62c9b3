import ShardControl.Files.Tree
import ShardControl.Proofs.KeyedMap.Lookup

/-!
# Writing and moving files

Files come and go while the directories stay, so a path names the same place
before and after a file is written or moved, and what was last put there is
read back.
-/

namespace ShardControl.FileTree

variable {tree other : FileTree} {names : List String} {path source target : String}
  {bytes : ByteArray}

/-- The path names a place that is no directory, so a file can be written there. -/
def Takes (tree : FileTree) (path : String) : Prop :=
  ∃ names, tree.resolve path = some names ∧ tree.isDirectory names = false

/-- Both trees have the same directories, and relative paths start from the same one. -/
structure SameDirectories (tree other : FileTree) : Prop where
  home : other.home = tree.home
  isDirectory : ∀ names, other.isDirectory names = tree.isDirectory names

namespace SameDirectories

theorem trans {last : FileTree} (first : tree.SameDirectories other)
    (second : other.SameDirectories last) : tree.SameDirectories last where
  home := second.home.trans first.home
  isDirectory names := (second.isDirectory names).trans (first.isDirectory names)

theorem follow_eq (same : tree.SameDirectories other) (names parts : List String) :
    other.follow names parts = tree.follow names parts := by
  induction parts generalizing names with
  | nil => rfl
  | cons part parts ih => simp only [follow, same.isDirectory, ih]

/-- A path names the same place in both trees. -/
theorem resolve_eq (same : tree.SameDirectories other) (path : String) :
    other.resolve path = tree.resolve path := by
  simp only [resolve, same.home, same.follow_eq]

end SameDirectories

/-! ## One place -/

theorem isDirectory_eq_false_iff :
    tree.isDirectory names = false ↔
      names ≠ [] ∧ ∀ entry, tree.entry? names = some entry → entry.content.isSome = true := by
  rw [isDirectory, Bool.or_eq_false_iff, Bool.eq_false_iff]
  cases tree.entry? names with
  | none => simp
  | some entry => cases held : entry.content <;> simp [held]

/-- Trees that differ in one place, which is no directory in either, have the same directories. -/
theorem sameDirectories_of_elsewhere (home : other.home = tree.home)
    (elsewhere : ∀ others, placeOf names ≠ placeOf others →
      other.entry? others = tree.entry? others)
    (before : tree.isDirectory names = false) (after : other.isDirectory names = false) :
    tree.SameDirectories other := by
  refine ⟨home, fun others => ?_⟩
  by_cases here : placeOf names = placeOf others
  · have found (any : FileTree) : any.entry? others = any.entry? names :=
      congrArg any.entries.find? here.symm
    rw [isDirectory, Bool.or_eq_false_iff] at before after
    rw [isDirectory, isDirectory, found, found, before.2, after.2]
  · rw [isDirectory, isDirectory, elsewhere others here]

theorem put_eq_some_iff :
    tree.put names bytes = some other ↔ tree.isDirectory names = false ∧
      other = { tree with entries := tree.entries.insert ⟨placeOf names, some bytes⟩ } := by
  rw [put]
  cases tree.isDirectory names with
  | true => simp
  | false => simp [eq_comm]

theorem entry_put (put : tree.put names bytes = some other) (others : List String) :
    other.entry? others =
      if placeOf names = placeOf others then some ⟨placeOf names, some bytes⟩
      else tree.entry? others := by
  obtain ⟨_, rfl⟩ := put_eq_some_iff.mp put
  exact KeyedMap.find?_insert _ _ _

theorem sameDirectories_put (put : tree.put names bytes = some other) :
    tree.SameDirectories other := by
  have found := entry_put put
  obtain ⟨before, rfl⟩ := put_eq_some_iff.mp put
  refine sameDirectories_of_elsewhere rfl (fun others differ => ?_) before ?_
  · rw [found, if_neg differ]
  · refine isDirectory_eq_false_iff.mpr ⟨(isDirectory_eq_false_iff.mp before).1, fun entry => ?_⟩
    rw [found, if_pos rfl]
    intro present
    cases Option.some.inj present
    rfl

def without (tree : FileTree) (names : List String) : FileTree :=
  { tree with entries := tree.entries.erase (placeOf names) }

theorem entry_without (others : List String) :
    FileTree.entry? (tree.without names) others =
      if placeOf others = placeOf names then none else tree.entry? others :=
  KeyedMap.find?_erase _ _ _

/-- A file can be taken away without any directory. -/
theorem sameDirectories_without (file : tree.isDirectory names = false) :
    tree.SameDirectories (tree.without names) := by
  refine sameDirectories_of_elsewhere rfl (fun others differ => ?_) file ?_
  · rw [entry_without, if_neg (Ne.symm differ)]
  · refine isDirectory_eq_false_iff.mpr ⟨(isDirectory_eq_false_iff.mp file).1, fun entry => ?_⟩
    rw [entry_without, if_pos rfl]
    nofun

/-! ## Paths -/

theorem write_eq_some_iff :
    tree.write path bytes = some other ↔
      ∃ names, tree.resolve path = some names ∧ tree.put names bytes = some other :=
  Option.bind_eq_some_iff

/-- A file can be written exactly where the path may have one. -/
theorem exists_write_iff : (∃ other, tree.write path bytes = some other) ↔ tree.Takes path := by
  constructor
  · rintro ⟨other, wrote⟩
    obtain ⟨names, resolved, put⟩ := write_eq_some_iff.mp wrote
    exact ⟨names, resolved, (put_eq_some_iff.mp put).1⟩
  · rintro ⟨names, resolved, free⟩
    exact ⟨_, write_eq_some_iff.mpr ⟨names, resolved, put_eq_some_iff.mpr ⟨free, rfl⟩⟩⟩

theorem sameDirectories_write (wrote : tree.write path bytes = some other) :
    tree.SameDirectories other := by
  obtain ⟨names, _, put⟩ := write_eq_some_iff.mp wrote
  exact sameDirectories_put put

theorem hasPath_of_read (held : tree.read path = some bytes) : tree.hasPath path = true := by
  obtain ⟨names, resolved, inner⟩ := Option.bind_eq_some_iff.mp held
  obtain ⟨entry, present, _⟩ := Option.bind_eq_some_iff.mp inner
  rw [hasPath, resolved, Option.any_some, present]
  exact Bool.or_true _

/-! ## Moves -/

theorem rename_eq_some_iff :
    tree.rename source target = some other ↔
      ∃ names entry bytes moved, tree.resolve source = some names ∧
        tree.entry? names = some entry ∧ entry.content = some bytes ∧
        tree.resolve target = some moved ∧ (tree.without names).put moved bytes = some other := by
  simp only [rename, without, Option.bind_eq_bind, Option.bind_eq_some_iff]
  constructor
  · rintro ⟨names, resolved, entry, present, bytes, file, moved, onto, put⟩
    exact ⟨names, entry, bytes, moved, resolved, present, file, onto, put⟩
  · rintro ⟨names, entry, bytes, moved, resolved, present, file, onto, put⟩
    exact ⟨names, resolved, entry, present, bytes, file, moved, onto, put⟩

section

variable {written : FileTree} (wrote : tree.write source bytes = some written)

include wrote

/-- A file that was just written is what is moved. -/
theorem rename_written_iff :
    written.rename source target = some other ↔
      ∃ names moved, tree.resolve source = some names ∧ written.isDirectory names = false ∧
        tree.resolve target = some moved ∧
          (written.without names).put moved bytes = some other := by
  obtain ⟨names, resolved, wrote⟩ := write_eq_some_iff.mp wrote
  have same := sameDirectories_put wrote
  have present : written.entry? names = some ⟨placeOf names, some bytes⟩ := by
    rw [entry_put wrote, if_pos rfl]
  have file : written.isDirectory names = false :=
    (same.isDirectory names).trans (put_eq_some_iff.mp wrote).1
  rw [rename_eq_some_iff, same.resolve_eq, same.resolve_eq]
  constructor
  · rintro ⟨others, entry, content, moved, found, held, stored, onto, put⟩
    obtain rfl := Option.some.inj (resolved.symm.trans found)
    obtain rfl := Option.some.inj (present.symm.trans held)
    cases stored
    exact ⟨names, moved, resolved, file, onto, put⟩
  · rintro ⟨others, moved, found, _, onto, put⟩
    obtain rfl := Option.some.inj (resolved.symm.trans found)
    exact ⟨names, _, bytes, moved, resolved, present, rfl, onto, put⟩

/-- It can be moved exactly to where a file can be written. -/
theorem exists_rename_iff :
    (∃ moved, written.rename source target = some moved) ↔ tree.Takes target := by
  have same := sameDirectories_write wrote
  constructor
  · rintro ⟨moved, renamed⟩
    obtain ⟨names, place, _, file, onto, put⟩ := (rename_written_iff wrote).mp renamed
    have free := (put_eq_some_iff.mp put).1
    rw [(sameDirectories_without file).isDirectory, same.isDirectory] at free
    exact ⟨place, onto, free⟩
  · rintro ⟨place, onto, free⟩
    obtain ⟨names, resolved, put⟩ := write_eq_some_iff.mp wrote
    have file : written.isDirectory names = false :=
      (same.isDirectory names).trans (put_eq_some_iff.mp put).1
    have clear : (written.without names).isDirectory place = false := by
      rw [(sameDirectories_without file).isDirectory, same.isDirectory]
      exact free
    exact ⟨_, (rename_written_iff wrote).mpr
      ⟨names, place, resolved, file, onto, put_eq_some_iff.mpr ⟨clear, rfl⟩⟩⟩

/-- Where it was moved to it is read. -/
theorem read_rename (renamed : written.rename source target = some other) :
    other.read target = some bytes := by
  obtain ⟨names, place, _, file, onto, put⟩ := (rename_written_iff wrote).mp renamed
  have same := ((sameDirectories_write wrote).trans (sameDirectories_without file)).trans
    (sameDirectories_put put)
  rw [read, same.resolve_eq, onto, Option.bind_some, entry_put put, if_pos rfl]
  rfl

end

end ShardControl.FileTree
