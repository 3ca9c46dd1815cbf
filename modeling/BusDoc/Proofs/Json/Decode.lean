import BusDoc.Json.Decode
import BusDoc.Proofs.Result

/-!
# Reading typed values of one's own

What the readers make of values of the shape they expect.

* `asRecord?_object`: a record whose names differ gives its values in order.
* `asListOf?_map`, `asMembersOf?_map`: where reading undoes writing for the parts, it does so for
  an array and for an object of them.
-/

namespace BusDoc.Json

/-- Where every name comes once, a name has the value that stands with it. -/
theorem uniqueMember?_of_mem {members : List (String × Json)}
    (h : (members.map Prod.fst).Nodup) {m : String × Json} (hm : m ∈ members) :
    uniqueMember? members m.1 = some m.2 := by
  have hfilter : members.filter (fun e => e.1 = m.1) = [m] := by
    induction members with
    | nil => cases hm
    | cons e es ih =>
      rw [List.map_cons, List.nodup_cons] at h
      rcases List.mem_cons.1 hm with rfl | hm
      · have hrest : es.filter (fun e => e.1 = m.1) = [] :=
          List.filter_eq_nil_iff.2 fun e he heq =>
            h.1 (of_decide_eq_true heq ▸ List.mem_map_of_mem he)
        rw [List.filter_cons_of_pos (by simp), hrest]
      · have hne : e.1 ≠ m.1 := fun heq => h.1 (heq ▸ List.mem_map_of_mem hm)
        rw [List.filter_cons_of_neg (by simpa using hne), ih h.2 hm]
  rw [uniqueMember?, hfilter]

/-- A record in the order of its names, all of them different, gives its values. -/
theorem asRecord?_object {names : List String} {members : List (String × Json)} {levels : Nat}
    (hnames : members.map Prod.fst = names) (h : names.Nodup) :
    asRecord? names (levels + 1) (object members) = some (levels, members.map Prod.snd) := by
  subst hnames
  have hvalues : (members.map Prod.fst).mapM (uniqueMember? members) =
      some (members.map Prod.snd) := by
    rw [List.mapM_map]
    exact Result.mapM_eq_some fun m hm => uniqueMember?_of_mem h hm
  simp [asRecord?, openLevel?, hvalues]

section Parts

variable {α : Type} {read : Nat → Json → Option α} {write : α → Json} {levels : Nat}

theorem asListOf?_map {xs : List α} (h : ∀ x ∈ xs, read levels (write x) = some x) :
    asListOf? read (levels + 1) (array (xs.map write)) = some xs :=
  Result.mapM_map_eq_some h

theorem asMembersOf?_map {es : List (String × α)}
    (h : ∀ e ∈ es, read levels (write e.2) = some e.2) :
    asMembersOf? read (levels + 1) (object (es.map fun e => (e.1, write e.2))) = some es := by
  refine Result.mapM_map_eq_some fun e he => ?_
  simp only [h e he, Option.map_some]

end Parts

end BusDoc.Json
