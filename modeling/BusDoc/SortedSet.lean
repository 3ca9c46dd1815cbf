/-!
# Sorted sets

A finite set kept as the strictly increasing list of its members. Two sets with the same members
are equal, because their lists are.

* `mem_sortUnique`, `pairwise_sortUnique`: sorting a list keeps its members, each of them once.
* `mem_ofList`: the set made of a list has the members of the list.
* `ext_mem`: sets with the same members are equal.
* `ofList_names`: a set is the set of its members.
-/

namespace BusDoc

section Insert

variable {α : Type} [LT α] [DecidableLT α]

/-- A strictly increasing list with `x` put in its place, unless it is there. -/
def insertSorted (x : α) : List α → List α
  | [] => [x]
  | y :: ys => if x < y then x :: y :: ys else if y < x then y :: insertSorted x ys else y :: ys

theorem mem_insertSorted [Std.Trichotomous (α := α) (· < ·)] {x z : α} {ys : List α} :
    z ∈ insertSorted x ys ↔ z = x ∨ z ∈ ys := by
  induction ys with
  | nil => simp [insertSorted]
  | cons y ys ih =>
    simp only [insertSorted]
    split
    next => simp
    next h₁ =>
      split
      next => simp only [List.mem_cons, ih]; grind
      next h₂ =>
        have : x = y := Std.Trichotomous.trichotomous (r := (· < ·)) x y h₁ h₂
        simp [this]

theorem pairwise_insertSorted [Std.Trichotomous (α := α) (· < ·)]
    [Trans (α := α) (β := α) (γ := α) (· < ·) (· < ·) (· < ·)] {x : α} {ys : List α}
    (h : ys.Pairwise (· < ·)) : (insertSorted x ys).Pairwise (· < ·) := by
  induction ys with
  | nil => simp [insertSorted]
  | cons y ys ih =>
    have hy := List.pairwise_cons.1 h
    simp only [insertSorted]
    split
    next h₁ =>
      refine List.pairwise_cons.2 ⟨fun z hz => ?_, h⟩
      rcases List.mem_cons.1 hz with rfl | hz
      · exact h₁
      · exact Trans.trans h₁ (hy.1 z hz)
    next h₁ =>
      split
      next h₂ =>
        refine List.pairwise_cons.2 ⟨fun z hz => ?_, ih hy.2⟩
        rcases mem_insertSorted.1 hz with rfl | hz
        · exact h₂
        · exact hy.1 z hz
      next => exact h

/-- The members of a list, strictly increasing. -/
def sortUnique (xs : List α) : List α := xs.foldl (fun ys x => insertSorted x ys) []

theorem mem_sortUnique [Std.Trichotomous (α := α) (· < ·)] {x : α} {xs : List α} :
    x ∈ sortUnique xs ↔ x ∈ xs := by
  suffices ∀ ys, x ∈ xs.foldl (fun ys x => insertSorted x ys) ys ↔ x ∈ xs ∨ x ∈ ys by
    simpa [sortUnique] using this []
  induction xs with
  | nil => simp
  | cons y xs ih =>
    intro ys
    rw [List.foldl_cons, ih, mem_insertSorted, List.mem_cons]
    grind

theorem pairwise_sortUnique [Std.Trichotomous (α := α) (· < ·)]
    [Trans (α := α) (β := α) (γ := α) (· < ·) (· < ·) (· < ·)] (xs : List α) :
    (sortUnique xs).Pairwise (· < ·) := by
  suffices ∀ ys : List α, ys.Pairwise (· < ·) →
      (xs.foldl (fun ys x => insertSorted x ys) ys).Pairwise (· < ·) from this [] .nil
  induction xs with
  | nil => exact fun _ h => h
  | cons x xs ih => exact fun _ h => ih _ (pairwise_insertSorted h)

end Insert

/-- A finite set of names, in the order of code points. -/
structure NameSet where
  names : List String
  sorted : names.Pairwise (· < ·)

namespace NameSet

instance : Repr NameSet := ⟨fun s p => reprPrec s.names p⟩

theorem ext {s t : NameSet} (h : s.names = t.names) : s = t := by
  cases s; cases t; cases h; rfl

instance : DecidableEq NameSet := fun s t =>
  if h : s.names = t.names then isTrue (ext h) else isFalse fun e => h (e ▸ rfl)

/-- The set without members. -/
def empty : NameSet := ⟨[], List.Pairwise.nil⟩

instance : Inhabited NameSet := ⟨empty⟩

instance : Membership String NameSet := ⟨fun s x => x ∈ s.names⟩

/-- The set with `x` added. -/
def insert (s : NameSet) (x : String) : NameSet where
  names := insertSorted x s.names
  sorted := by exact pairwise_insertSorted s.sorted

/-- The set with all of `xs` added. -/
def insertAll (s : NameSet) (xs : List String) : NameSet := xs.foldl insert s

/-- The set of the members of a list. -/
def ofList (xs : List String) : NameSet := empty.insertAll xs

theorem mem_insert {s : NameSet} {x z : String} : z ∈ s.insert x ↔ z = x ∨ z ∈ s :=
  mem_insertSorted

theorem mem_insertAll {s : NameSet} {xs : List String} {z : String} :
    z ∈ s.insertAll xs ↔ z ∈ xs ∨ z ∈ s := by
  induction xs generalizing s with
  | nil => simp [insertAll]
  | cons x xs ih =>
    have : s.insertAll (x :: xs) = (s.insert x).insertAll xs := rfl
    rw [this, ih, mem_insert]
    grind

theorem mem_ofList {xs : List String} {z : String} : z ∈ ofList xs ↔ z ∈ xs := by
  rw [ofList, mem_insertAll]
  exact or_iff_left (List.not_mem_nil (a := z))

theorem ext_mem {s t : NameSet} (h : ∀ x, x ∈ s ↔ x ∈ t) : s = t := by
  have hnodup (s : NameSet) : s.names.Nodup := by
    refine s.sorted.imp fun {x y} hlt => ?_
    rintro rfl
    exact String.lt_irrefl x hlt
  have hperm : s.names.Perm t.names := (List.perm_ext_iff_of_nodup (hnodup s) (hnodup t)).2 h
  refine ext (hperm.eq_of_pairwise (fun x y _ _ hxy hyx => ?_) s.sorted t.sorted)
  exact absurd (String.lt_trans hxy hyx) (String.lt_irrefl x)

theorem ofList_names (s : NameSet) : ofList s.names = s := ext_mem fun _ => mem_ofList

end NameSet

end BusDoc
