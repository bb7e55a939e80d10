import Mathlib.Data.List.Nodup
import Mathlib.Data.List.Perm.Basic
import MessageRefs.Workspace.Walk

/-!
**A walk meets every visible file once.**

A file below a directory is visible when no entry on the way to it is passed by. Where the entries
of every directory have names of their own, a walk comes upon no file a second time.

* `IsVisible`: the files that are visible from a place of a walk;
* `Tree.IsProper`: the entries of every directory have different names;
* `mem_filesOf_iff`: a walk meets the visible files and no other;
* `names_nodup_filesOf`: no two files that it meets have the same names;
* `IsWalk`: a list of the visible files below a directory, in any order and each once;
* `exists_isWalk`: what the walk of a directory meets is such a list.
-/

namespace MessageRefs.Workspace

/-! ### Visible files -/

/-- A file is visible from a place of a walk when the place is the file, or when the file is visible
from an entry of the directory there that is not passed by. -/
inductive IsVisible (origin : Origin) :
    List DirectoryRules → String → List String → Tree → SourceFile → Prop
  | file {inside : List DirectoryRules} {path : String} {names : List String}
      {content : Except String ByteArray} :
      IsVisible origin inside path names (.file content) ⟨path, names.reverse, content⟩
  | entry {inside : List DirectoryRules} {path name : String} {names : List String}
      {entries : List (String × Tree)} {tree : Tree} {file : SourceFile} :
      (name, tree) ∈ entries →
      isSkipped origin (.ofTree path (.directory entries) :: inside) (join path name) name
        tree.isDirectory = false →
      IsVisible origin (.ofTree path (.directory entries) :: inside) (join path name)
        (name :: names) tree file →
      IsVisible origin inside path names (.directory entries) file

/-- The entries of every directory of a tree have different names. -/
inductive Tree.IsProper : Tree → Prop
  | file {content : Except String ByteArray} : IsProper (.file content)
  | directory {entries : List (String × Tree)} : (entries.map Prod.fst).Nodup →
      (∀ entry ∈ entries, IsProper entry.2) → IsProper (.directory entries)

/-- What holds of files, and of a directory if it holds of its entries, holds of every tree. -/
theorem Tree.induction {motive : Tree → Prop} (file : ∀ content, motive (.file content))
    (directory : ∀ entries, (∀ name tree, (name, tree) ∈ entries → motive tree) →
      motive (.directory entries)) (tree : Tree) : motive tree := by
  match tree with
  | .file content => exact file content
  | .directory entries =>
    exact directory entries fun name tree member => induction file directory tree
termination_by sizeOf tree
decreasing_by
  have smaller := List.sizeOf_lt_of_mem member
  rw [Prod.mk.sizeOf_spec] at smaller
  rw [Tree.directory.sizeOf_spec]
  omega

variable {origin : Origin} {inside : List DirectoryRules} {path name : String}
  {names : List String} {entries : List (String × Tree)} {tree : Tree} {file : SourceFile}

/-- Among the entries of a directory a walk meets what it meets from those that it does not pass
by. -/
theorem mem_filesAmong_iff :
    file ∈ filesAmong origin inside path names entries ↔
      ∃ name tree, (name, tree) ∈ entries ∧
        isSkipped origin inside (join path name) name tree.isDirectory = false ∧
        file ∈ filesOf origin inside (join path name) (name :: names) tree := by
  induction entries with
  | nil => simp [filesAmong]
  | cons entry others ih =>
    obtain ⟨name, tree⟩ := entry
    rw [filesAmong, List.mem_append, ih]
    constructor
    · rintro (here | ⟨name', tree', member, shown, met⟩)
      · split at here
        next => exact absurd here List.not_mem_nil
        next shown => exact ⟨name, tree, List.mem_cons_self, by simpa using shown, here⟩
      · exact ⟨name', tree', List.mem_cons_of_mem _ member, shown, met⟩
    · rintro ⟨name', tree', member, shown, met⟩
      rcases List.mem_cons.mp member with same | later
      · obtain ⟨rfl, rfl⟩ := Prod.mk.inj same
        exact .inl (by rwa [shown])
      · exact .inr ⟨name', tree', later, shown, met⟩

/-- A walk meets visible files only. -/
theorem isVisible_of_mem_filesOf (met : file ∈ filesOf origin inside path names tree) :
    IsVisible origin inside path names tree file := by
  induction tree using Tree.induction generalizing inside path names with
  | file content =>
    rw [filesOf, List.mem_singleton] at met
    exact met ▸ .file
  | directory entries ih =>
    rw [filesOf, mem_filesAmong_iff] at met
    obtain ⟨name, tree, member, shown, below⟩ := met
    exact .entry member shown (ih name tree member below)

/-- **A walk meets the visible files and no other.** -/
theorem mem_filesOf_iff : file ∈ filesOf origin inside path names tree ↔
    IsVisible origin inside path names tree file := by
  refine ⟨isVisible_of_mem_filesOf, fun visible => ?_⟩
  induction visible with
  | file => rw [filesOf, List.mem_singleton]
  | entry member shown _ ih =>
    rw [filesOf]
    exact mem_filesAmong_iff.mpr ⟨_, _, member, shown, ih⟩

/-! ### Each file once -/

/-- The names of a visible file begin with those that lead to the place. -/
theorem IsVisible.names_lead (visible : IsVisible origin inside path names tree file) :
    names.reverse <+: file.names := by
  induction visible with
  | file => exact List.prefix_rfl
  | entry _ _ _ ih =>
    rw [List.reverse_cons] at ih
    exact (List.prefix_append _ _).trans ih

/-- From entries of different names, files with different names are visible. -/
theorem names_ne_of_name_ne {name' : String} {inside' : List DirectoryRules} {path' : String}
    {tree' : Tree} {file' : SourceFile} (different : name ≠ name')
    (visible : IsVisible origin inside path (name :: names) tree file)
    (visible' : IsVisible origin inside' path' (name' :: names) tree' file') :
    file.names ≠ file'.names := by
  intro same
  have leads := visible.names_lead
  have leads' := visible'.names_lead
  rw [← same] at leads'
  have equal := List.prefix_of_prefix_length_le leads leads' (by simp)
  rw [List.reverse_cons, List.reverse_cons, List.prefix_append_right_inj] at equal
  simp at equal
  exact different equal

/-- Among entries of different names a walk meets files of different names, if it does so from each
of them. -/
theorem names_nodup_filesAmong (distinct : (entries.map Prod.fst).Nodup)
    (each : ∀ entry ∈ entries, ∀ inside path names,
      ((filesOf origin inside path names entry.2).map SourceFile.names).Nodup) :
    ((filesAmong origin inside path names entries).map SourceFile.names).Nodup := by
  induction entries with
  | nil => exact List.nodup_nil
  | cons entry others ih =>
    obtain ⟨name, tree⟩ := entry
    rw [List.map_cons, List.nodup_cons] at distinct
    have later := ih distinct.2 fun entry member => each entry (List.mem_cons_of_mem _ member)
    rw [filesAmong]
    split
    next => exact later
    next =>
      rw [List.map_append, List.nodup_append]
      refine ⟨each _ List.mem_cons_self _ _ _, later, ?_⟩
      intro first isFirst second isSecond
      obtain ⟨file, met, rfl⟩ := List.mem_map.mp isFirst
      obtain ⟨file', met', rfl⟩ := List.mem_map.mp isSecond
      obtain ⟨name', tree', member, -, met'⟩ := mem_filesAmong_iff.mp met'
      have different : name ≠ name' := by
        rintro rfl
        exact distinct.1 (List.mem_map.mpr ⟨_, member, rfl⟩)
      exact names_ne_of_name_ne different (isVisible_of_mem_filesOf met)
        (isVisible_of_mem_filesOf met')

/-- **No two files that a walk meets have the same names.** -/
theorem names_nodup_filesOf (proper : tree.IsProper) (inside : List DirectoryRules) (path : String)
    (names : List String) :
    ((filesOf origin inside path names tree).map SourceFile.names).Nodup := by
  induction proper generalizing inside path names with
  | file =>
    rw [filesOf]
    exact List.nodup_singleton _
  | directory distinct _ ih =>
    rw [filesOf]
    exact names_nodup_filesAmong distinct fun entry member => ih entry member

/-! ### Walks of a directory -/

section Walk

variable {files : FileSystem} {root : String} {walked found : List SourceFile}

/-- A file is visible below the directory at a path. -/
def IsVisibleBelow (files : FileSystem) (root : String) (file : SourceFile) : Prop :=
  ∃ names entries, files.resolve? root = some names ∧
    files.root.below? names = some (.directory entries) ∧
    IsVisible ⟨root, absolutePath names, rulesAbove [] [] files.root names⟩ [] root []
      (.directory entries) file

/-- The visible files below the directory at a path, each once and in any order. -/
structure IsWalk (files : FileSystem) (root : String) (walked : List SourceFile) : Prop where
  once : walked.Nodup
  meets : ∀ file, file ∈ walked ↔ IsVisibleBelow files root file

/-- **The files that are met below a proper directory are a walk of it**, and none of them shares
its names with another. -/
theorem exists_isWalk (directory : files.find? root = some (.directory entries))
    (proper : (Tree.directory entries).IsProper) :
    ∃ found, visibleFiles? files root = some found ∧ IsWalk files root found ∧
      (found.map SourceFile.names).Nodup := by
  obtain ⟨names, resolved, below⟩ := Option.bind_eq_some_iff.mp directory
  have met : visibleFiles? files root = some (filesOf
      ⟨root, absolutePath names, rulesAbove [] [] files.root names⟩ [] root []
      (.directory entries)) := by
    simp only [visibleFiles?, resolved, below]
  have distinct := @names_nodup_filesOf
    ⟨root, absolutePath names, rulesAbove [] [] files.root names⟩ _ proper [] root []
  refine ⟨_, met, ⟨List.Nodup.of_map _ distinct, fun file => ?_⟩, distinct⟩
  rw [mem_filesOf_iff]
  constructor
  · exact fun visible => ⟨names, entries, resolved, below, visible⟩
  · rintro ⟨names', entries', resolved', below', visible⟩
    obtain rfl := Option.some.inj (resolved.symm.trans resolved')
    obtain ⟨rfl⟩ := Tree.directory.inj (Option.some.inj (below.symm.trans below'))
    exact visible

/-- Two walks of one directory differ in their order only. -/
theorem IsWalk.perm (isWalk : IsWalk files root walked) (isWalk' : IsWalk files root found) :
    walked.Perm found :=
  (List.perm_ext_iff_of_nodup isWalk.once isWalk'.once).mpr fun file =>
    (isWalk.meets file).trans (isWalk'.meets file).symm

theorem IsWalk.of_perm (isWalk : IsWalk files root found) (perm : walked.Perm found) :
    IsWalk files root walked :=
  ⟨perm.nodup_iff.mpr isWalk.once, fun file => perm.mem_iff.trans (isWalk.meets file)⟩

end Walk

end MessageRefs.Workspace
