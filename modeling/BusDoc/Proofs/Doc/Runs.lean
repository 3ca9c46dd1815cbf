import BusDoc.Doc.Unit
import BusDoc.Proofs.Text.Trim
import Mathlib.Data.List.Chain

/-!
# Runs between marks

The splitter cuts a file three times in the same way: into units before titles, a unit into
sections before keywords, and a section into blocks before their first lines. Each time a list is
cut before its marked elements.

* `cutBefore_runs`: a list made of runs, each with a mark on its first element alone, is cut into
  them.
* `isRun_of_mem_cutBefore`, `exists_of_mem_cutBefore`: whatever a list is cut into are such runs,
  and each of them goes on up to the next mark.
* `flatten_unitRanges_suffix`: nothing of a file is lost but what stands before its first title.
* `unitRanges_flatten`: for units, each with an underlined title and no underline below it.
* `splitBlocks_flatten`: for blocks, each starting behind a blank line and going on deeper.
-/

namespace BusDoc.Doc

open Text

variable {α : Type} {marked : α → Bool}

/-- The first element is marked, and no other. -/
def IsRun (marked : α → Bool) : List α → Prop
  | [] => False
  | x :: xs => marked x = true ∧ ∀ y ∈ xs, marked y = false

theorem cutBefore_append_of_unmarked {front : List α} (hf : ∀ x ∈ front, marked x = false)
    (xs : List α) :
    cutBefore marked (front ++ xs) =
      (front ++ (cutBefore marked xs).1, (cutBefore marked xs).2) := by
  induction front with
  | nil => rfl
  | cons x front ih =>
    have hx := hf x List.mem_cons_self
    rw [List.cons_append, cutBefore, ih fun y hy => hf y (List.mem_cons_of_mem _ hy)]
    simp [hx]

theorem cutBefore_runs {front : List α} {runs : List (List α)}
    (hf : ∀ x ∈ front, marked x = false) (hr : ∀ r ∈ runs, IsRun marked r) :
    cutBefore marked (front ++ runs.flatten) = (front, runs) := by
  have hruns : cutBefore marked runs.flatten = ([], runs) := by
    induction runs with
    | nil => rfl
    | cons r runs ih =>
      have ih := ih fun s hs => hr s (List.mem_cons_of_mem _ hs)
      cases r with
      | nil => exact absurd (hr [] List.mem_cons_self) id
      | cons x xs =>
        obtain ⟨hx, hxs⟩ := hr (x :: xs) List.mem_cons_self
        rw [List.flatten_cons, List.cons_append, cutBefore, cutBefore_append_of_unmarked hxs, ih]
        simp [hx]
  rw [cutBefore_append_of_unmarked hf, hruns, List.append_nil]

theorem forall_cutBefore (marked : α → Bool) (xs : List α) :
    (∀ x ∈ (cutBefore marked xs).1, marked x = false) ∧
      ∀ r ∈ (cutBefore marked xs).2, IsRun marked r := by
  induction xs with
  | nil => exact ⟨fun _ h => absurd h List.not_mem_nil, fun _ h => absurd h List.not_mem_nil⟩
  | cons x xs ih =>
    cases hx : marked x with
    | true => simpa [cutBefore, hx, IsRun] using ih
    | false => simpa [cutBefore, hx] using ih

theorem isRun_of_mem_cutBefore {xs r : List α} (h : r ∈ (cutBefore marked xs).2) :
    IsRun marked r := (forall_cutBefore marked xs).2 r h

/-- The runs are what follows the first mark. -/
theorem flatten_cutBefore (marked : α → Bool) (xs : List α) :
    (cutBefore marked xs).2.flatten = xs.dropWhile fun x => !marked x := by
  induction xs with
  | nil => rfl
  | cons x xs ih =>
    have hxs := cutBefore_flatten marked xs
    rw [cutBefore, List.dropWhile_cons]
    cases hx : marked x with
    | true => simpa using hxs
    | false => simpa using ih

theorem exists_of_mem_cutBefore {xs r : List α} (h : r ∈ (cutBefore marked xs).2) :
    ∃ before after, xs = before ++ r ++ after ∧ ∀ x ∈ after.head?, marked x = true := by
  obtain ⟨runs, rest, hsplit⟩ := List.append_of_mem h
  refine ⟨(cutBefore marked xs).1 ++ runs.flatten, rest.flatten, ?_, fun x hx => ?_⟩
  · conv_lhs => rw [← cutBefore_flatten marked xs, hsplit]
    simp
  · cases rest with
    | nil => cases hx
    | cons s rest =>
      have hs : IsRun marked s := (forall_cutBefore marked xs).2 s (by simp [hsplit])
      cases s with
      | nil => exact absurd hs id
      | cons y s => exact Option.some.inj hx ▸ hs.1

theorem snd_of_mem_map_false {xs : List α} {x : α × Bool} (h : x ∈ xs.map fun y => (y, false)) :
    x.2 = false := by
  obtain ⟨y, -, rfl⟩ := List.mem_map.1 h
  rfl

/-- The elements paired with marks, the first one marked. -/
def markFirst : List α → List (α × Bool)
  | [] => []
  | x :: xs => (x, true) :: xs.map fun y => (y, false)

theorem isRun_markFirst {xs : List α} (h : xs ≠ []) : IsRun Prod.snd (markFirst xs) := by
  cases xs with
  | nil => exact absurd rfl h
  | cons x xs => exact ⟨rfl, fun _ hy => snd_of_mem_map_false hy⟩

theorem map_fst_markFirst (xs : List α) : (markFirst xs).map Prod.fst = xs := by
  cases xs with
  | nil => rfl
  | cons x xs => simp [markFirst, Function.comp_def]

/-! ## Units -/

/-- An underlined title and lines that are no underlines. -/
def IsUnitRange : List Line → Prop
  | l :: next :: ls =>
    isTitleText l.text = true ∧ isUnderline l.text = false ∧ isUnderline next.text = true ∧
      ∀ m ∈ ls, isUnderline m.text = false
  | _ => False

theorem startsUnit_of_not_underline {l : Line} {ls : List Line}
    (h : ∀ m ∈ ls.head?, isUnderline m.text = false) : startsUnit (l :: ls) = false := by
  cases ls with
  | nil => rfl
  | cons m ls => simp [startsUnit, h m rfl]

/-- Lines without underlines below them are no titles. -/
theorem markTitles_append_of_plain {ls rest : List Line}
    (hls : ∀ m ∈ ls.tail, isUnderline m.text = false)
    (hrest : ∀ m ∈ rest.head?, isUnderline m.text = false) :
    markTitles (ls ++ rest) = (ls.map fun l => (l, false)) ++ markTitles rest := by
  induction ls with
  | nil => rfl
  | cons l ls ih =>
    have hl : startsUnit (l :: (ls ++ rest)) = false := by
      apply startsUnit_of_not_underline
      cases ls with
      | nil => exact hrest
      | cons m ls => exact fun n hn => Option.some.inj hn ▸ hls m List.mem_cons_self
    rw [List.cons_append, markTitles, hl, ih fun m hm => hls m (List.mem_of_mem_tail hm)]
    rfl

theorem markTitles_flatten {ranges : List (List Line)} (h : ∀ r ∈ ranges, IsUnitRange r) :
    markTitles ranges.flatten = (ranges.map markFirst).flatten := by
  induction ranges with
  | nil => rfl
  | cons r ranges ih =>
    have ih := ih fun s hs => h s (List.mem_cons_of_mem _ hs)
    have hr := h r List.mem_cons_self
    obtain _ | ⟨l, _ | ⟨next, ls⟩⟩ := r
    · exact absurd hr id
    · exact absurd hr id
    · obtain ⟨htitle, -, hnext, hls⟩ := hr
      -- below the last line of a unit stands a title, which is no underline
      have hrest : ∀ m ∈ ranges.flatten.head?, isUnderline m.text = false := by
        cases ranges with
        | nil => intro m hm; cases hm
        | cons s ranges =>
          have hs := h s (List.mem_cons_of_mem _ List.mem_cons_self)
          obtain _ | ⟨m, _ | ⟨_, _⟩⟩ := s
          · exact absurd hs id
          · exact absurd hs id
          · exact fun n hn => Option.some.inj hn ▸ hs.2.1
      have hbody : markTitles (next :: ls ++ ranges.flatten) =
          ((next :: ls).map fun m => (m, false)) ++ markTitles ranges.flatten :=
        markTitles_append_of_plain hls hrest
      rw [List.flatten_cons, List.cons_append, markTitles, hbody, ih]
      simp [startsUnit, markFirst, htitle, hnext]

theorem unitRanges_flatten {ranges : List (List Line)} (h : ∀ r ∈ ranges, IsUnitRange r)
    (hne : ranges ≠ []) : unitRanges ranges.flatten = ranges := by
  have hruns : ∀ r ∈ ranges.map markFirst, IsRun Prod.snd r := by
    intro r hr
    obtain ⟨s, hs, rfl⟩ := List.mem_map.1 hr
    apply isRun_markFirst
    rintro rfl
    exact h [] hs
  have hcut : cutBefore Prod.snd ([] ++ (ranges.map markFirst).flatten) =
      ([], ranges.map markFirst) := cutBefore_runs (by simp) hruns
  rw [List.nil_append] at hcut
  unfold unitRanges
  rw [markTitles_flatten h, hcut]
  cases ranges with
  | nil => exact absurd rfl hne
  | cons r ranges => simp [map_fst_markFirst, Function.comp_def]

theorem map_fst_markTitles (ls : List Line) : (markTitles ls).map Prod.fst = ls := by
  induction ls with
  | nil => rfl
  | cons l ls ih => rw [markTitles, List.map_cons, ih]

/-- The ranges of a file are its lines from the first title on, or all of them. -/
theorem flatten_unitRanges_suffix (ls : List Line) : (unitRanges ls).flatten <:+ ls := by
  unfold unitRanges
  split
  next => simp
  next front runs _ hcut =>
    have hruns := flatten_cutBefore Prod.snd (markTitles ls)
    rw [hcut] at hruns
    have hsuffix : ((markTitles ls).dropWhile fun x => !x.2).map Prod.fst <:+
        (markTitles ls).map Prod.fst := (List.dropWhile_suffix _).map Prod.fst
    rw [← hruns, List.map_flatten, map_fst_markTitles] at hsuffix
    exact hsuffix

/-! ## Blocks -/

/-- The line is blank, or it is indented deeper than `n` where the line before is blank. -/
def GoesOn (n : Nat) (l next : Line) : Prop :=
  l.isBlank = true → next.isBlank = true ∨ n < next.indent

theorem markStarts_append_of_goesOn {n : Nat} {l : Line} {ls rest : List Line}
    (h : (l :: ls).IsChain (GoesOn n)) :
    markStarts n l.isBlank (ls ++ rest) =
      (ls.map fun m => (m, false)) ++ markStarts n ((l :: ls).getLast (by simp)).isBlank rest := by
  induction ls generalizing l with
  | nil => rfl
  | cons m ls ih =>
    obtain ⟨hm, hls⟩ := List.isChain_cons_cons.1 h
    have hmark : (l.isBlank && !m.isBlank && decide (m.indent ≤ n)) = false := by
      cases hl : l.isBlank with
      | false => rfl
      | true =>
        rcases hm hl with hm | hm
        · simp [hm]
        · simp [Nat.not_le.2 hm]
    rw [List.cons_append, markStarts, hmark, ih hls, List.getLast_cons_cons]
    rfl

theorem markStarts_blank_append {n : Nat} {front rest : List Line}
    (h : ∀ l ∈ front, l.isBlank = true) :
    markStarts n true (front ++ rest) =
      (front.map fun l => (l, false)) ++ markStarts n true rest := by
  induction front with
  | nil => rfl
  | cons l front ih =>
    have hl := h l List.mem_cons_self
    rw [List.cons_append, markStarts, hl, ih fun m hm => h m (List.mem_cons_of_mem _ hm)]
    rfl

/-- A line indented by `n` and the lines that go on with it. -/
def IsBlockRange (n : Nat) : List Line → Prop
  | [] => False
  | l :: ls => l.isBlank = false ∧ l.indent = n ∧ (l :: ls).IsChain (GoesOn n)

theorem markStarts_flatten {n : Nat} {ranges : List (List Line)}
    (h : ∀ r ∈ ranges, IsBlockRange n r)
    (hends : ranges.IsChain fun r _ => ∀ l ∈ r.getLast?, l.isBlank = true) :
    markStarts n true ranges.flatten = (ranges.map markFirst).flatten := by
  induction ranges with
  | nil => rfl
  | cons r ranges ih =>
    have hr := h r List.mem_cons_self
    have ih := ih (fun s hs => h s (List.mem_cons_of_mem _ hs)) hends.of_cons
    cases r with
    | nil => exact absurd hr id
    | cons l ls =>
      obtain ⟨hl, hn, hls⟩ := hr
      have hrest : markStarts n ((l :: ls).getLast (by simp)).isBlank ranges.flatten =
          (ranges.map markFirst).flatten := by
        cases ranges with
        | nil => rfl
        | cons s ranges =>
          have hlast := (List.isChain_cons_cons.1 hends).1 ((l :: ls).getLast (by simp))
            (List.getLast?_eq_some_getLast (by simp))
          rw [hlast, ih]
      rw [List.flatten_cons, List.cons_append, markStarts, markStarts_append_of_goesOn hls, hrest]
      simp [markFirst, hl, hn]

/-- A section is cut into its blocks: behind blank lines, each block is indented by `n` and, but
for the last, ends in a blank line. -/
theorem splitBlocks_flatten {kind : BlockKind} {n : Nat} {front : List Line}
    {ranges : List (List Line)} (hf : ∀ l ∈ front, l.isBlank = true)
    (h : ∀ r ∈ ranges, IsBlockRange n r)
    (hends : ranges.IsChain fun r _ => ∀ l ∈ r.getLast?, l.isBlank = true) :
    splitBlocks kind (front ++ ranges.flatten) = ranges.map (blockOfLines kind n) := by
  have hfind : front.find? (fun l => !l.isBlank) = none := by
    rw [List.find?_eq_none]
    intro l hl
    simp [hf l hl]
  unfold splitBlocks
  rw [List.find?_append, hfind, Option.none_or]
  cases ranges with
  | nil => rfl
  | cons r ranges =>
    have hr := h r List.mem_cons_self
    cases r with
    | nil => exact absurd hr id
    | cons l ls =>
      obtain ⟨hl, hn, -⟩ := hr
      have hfirst : ((l :: ls) :: ranges).flatten.find? (fun l => !l.isBlank) = some l := by
        simp [hl]
      have hruns : ∀ s ∈ ((l :: ls) :: ranges).map markFirst, IsRun Prod.snd s := by
        intro s hs
        obtain ⟨t, ht, rfl⟩ := List.mem_map.1 hs
        apply isRun_markFirst
        rintro rfl
        exact h [] ht
      rw [hfirst]
      simp only [hn]
      rw [markStarts_blank_append hf, markStarts_flatten h hends,
        cutBefore_runs (fun _ => snd_of_mem_map_false) hruns, List.map_map]
      exact List.map_congr_left fun s _ => by rw [Function.comp_apply, map_fst_markFirst]

end BusDoc.Doc
