import BusDoc.Proofs.Text.Braces

/-!
# Texts cut outside braces

Texts are pieces from a depth (`ArePieces`) if none of them has the separator outside braces and
each but the last leaves no brace open, so that the next one is read from depth zero. Stray closing
braces do not matter, and the last piece may leave braces open.

* `arePieces_topPieces`, `ArePieces.topPieces_join`: any text is cut into such pieces, and they are
  the pieces of their text joined.
* `ArePieces.trim`, `ArePieces.filter`: trimming the pieces and dropping the empty ones leaves
  pieces.
* `splitTop_join`: parts with closed braces, joined by the separator, are read back.
* `splitTop_stable`: what splitting gives is read back as well, whatever text was split.
-/

namespace BusDoc.Text

variable {sep : Char} {depth : Nat} {s : List Char} {pieces : List (List Char)}

/-- The texts can be pieces of a text that is read from the given depth. -/
inductive ArePieces (sep : Char) : (depth : Nat) → List (List Char) → Prop
  | last {depth : Nat} {s : List Char} (hs : lacksTop (· = sep) depth s = true) :
    ArePieces sep depth [s]
  | more {depth : Nat} {s : List Char} {rest : List (List Char)}
    (hs : lacksTop (· = sep) depth s = true) (hend : depthAfter depth s = 0)
    (hrest : ArePieces sep 0 rest) : ArePieces sep depth (s :: rest)

theorem ArePieces.ne_nil (h : ArePieces sep depth pieces) : pieces ≠ [] := by
  cases h <;> simp

theorem ArePieces.lacksTop_of_mem (h : ArePieces sep 0 pieces) :
    ∀ s ∈ pieces, lacksTop (· = sep) 0 s = true := by
  generalize hd : 0 = depth at h
  induction h with
  | last hs =>
    subst hd
    simpa using hs
  | more hs _ _ ih =>
    subst hd
    rw [List.forall_mem_cons]
    exact ⟨hs, ih rfl⟩

/-! ## Cutting and joining -/

/-- A character in front of the first piece that is no separator outside braces. -/
theorem ArePieces.consHead {c : Char} (h : ArePieces sep (braceDepth depth c) pieces)
    (hc : ¬(depth = 0 ∧ c = sep)) : ArePieces sep depth (consHead c pieces) := by
  have hcons {s : List Char} (hs : lacksTop (· = sep) (braceDepth depth c) s = true) :
      lacksTop (· = sep) depth (c :: s) = true := by
    rw [lacksTop, hs]
    simpa [Decidable.imp_iff_not_or] using hc
  cases h with
  | last hs => exact .last (hcons hs)
  | more hs hend hrest => exact .more (hcons hs) hend hrest

theorem arePieces_topPieces (ho : sep ≠ '{') (hc : sep ≠ '}') (depth : Nat) (s : List Char) :
    ArePieces sep depth (topPieces sep depth s) := by
  induction s generalizing depth with
  | nil => exact .last rfl
  | cons c s ih =>
    rw [topPieces]
    split
    next h => exact .more rfl h.2.2.2 (h.2.2.2 ▸ ih depth)
    next h =>
      refine (ih _).consHead ?_
      rintro ⟨hdepth, rfl⟩
      exact h ⟨ho, hc, rfl, hdepth⟩

theorem foldr_consHead (s piece : List Char) (rest : List (List Char)) :
    s.foldr consHead (piece :: rest) = (s ++ piece) :: rest := by
  induction s with
  | nil => rfl
  | cons c s ih => rw [List.foldr_cons, ih]; rfl

/-- What has no separator outside braces goes in front of the first piece of what follows. -/
theorem topPieces_append (hs : lacksTop (· = sep) depth s = true) (t : List Char) :
    topPieces sep depth (s ++ t) = s.foldr consHead (topPieces sep (depthAfter depth s) t) := by
  induction s generalizing depth with
  | nil => rfl
  | cons c s ih =>
    have hc : ¬(c ≠ '{' ∧ c ≠ '}' ∧ c = sep ∧ depth = 0) := by
      rintro ⟨-, -, hsep, rfl⟩
      have := not_of_lacksTop_cons hs
      simp [hsep] at this
    rw [List.cons_append, topPieces, if_neg hc, ih (lacksTop_of_cons hs)]
    rfl

theorem ArePieces.topPieces_join (ho : sep ≠ '{') (hc : sep ≠ '}')
    (h : ArePieces sep depth pieces) : topPieces sep depth (join [sep] pieces) = pieces := by
  induction h with
  | @last depth s hs =>
    have h := topPieces_append hs []
    rw [List.append_nil] at h
    rw [join, h, topPieces, foldr_consHead, List.append_nil]
  | @more depth s rest hs hend hrest ih =>
    have hsep : topPieces sep 0 (sep :: join [sep] rest) = [] :: rest := by
      rw [topPieces, if_pos ⟨ho, hc, rfl, rfl⟩, ih]
    rw [join_cons_of_ne_nil _ _ hrest.ne_nil, List.append_assoc, List.singleton_append,
      topPieces_append hs, hend, hsep, foldr_consHead, List.append_nil]

/-- Texts with closed braces are pieces if the separator is missing outside their braces. -/
theorem arePieces_of_isBalanced (hne : pieces ≠ []) (hb : ∀ s ∈ pieces, isBalanced 0 s = true)
    (hs : ∀ s ∈ pieces, lacksTop (· = sep) 0 s = true) : ArePieces sep 0 pieces := by
  induction pieces with
  | nil => exact absurd rfl hne
  | cons s rest ih =>
    rw [List.forall_mem_cons] at hb hs
    cases rest with
    | nil => exact .last hs.1
    | cons t rest => exact .more hs.1 (depthAfter_of_isBalanced hb.1) (ih (by simp) hb.2 hs.2)

/-! ## Trimming -/

theorem depthAfter_of_allBlank (h : allBlank s = true) : depthAfter depth s = depth := by
  induction s with
  | nil => rfl
  | cons c s ih =>
    rw [allBlank, List.all_cons, Bool.and_eq_true] at h
    have hc : braceDepth depth c = depth := by
      refine braceDepth_of_ne ?_ ?_ <;> (rintro rfl; exact absurd h.1 (by decide))
    rw [depthAfter, List.foldl_cons, hc]
    exact ih h.2

theorem depthAfter_append (depth : Nat) (s t : List Char) :
    depthAfter depth (s ++ t) = depthAfter (depthAfter depth s) t := List.foldl_append

theorem depthAfter_trim (s : List Char) : depthAfter depth (trim s) = depthAfter depth s := by
  obtain ⟨front, back, hcut, hfront, hback⟩ := exists_eq_append_trim_append s
  calc depthAfter depth (trim s) = depthAfter depth (front ++ trim s ++ back) := by
        rw [depthAfter_append, depthAfter_of_allBlank hback, depthAfter_append,
          depthAfter_of_allBlank hfront]
    _ = depthAfter depth s := by rw [← hcut]

theorem lacksTop_trim {p : Char → Bool} (h : lacksTop p depth s = true) :
    lacksTop p depth (trim s) = true := by
  obtain ⟨front, back, hcut, hfront, -⟩ := exists_eq_append_trim_append s
  rw [hcut, lacksTop_append_eq, lacksTop_append_eq, depthAfter_of_allBlank hfront] at h
  simp only [Bool.and_eq_true] at h
  exact h.1.2

theorem ArePieces.trim (h : ArePieces sep depth pieces) :
    ArePieces sep depth (pieces.map trim) := by
  induction h with
  | last hs => exact .last (lacksTop_trim hs)
  | more hs hend _ ih => exact .more (lacksTop_trim hs) (by rw [depthAfter_trim, hend]) ih

/-- Pieces read from depth zero are pieces without some of them, if any are left. -/
theorem ArePieces.filter (p : List Char → Bool) (h : ArePieces sep 0 pieces) :
    pieces.filter p = [] ∨ ArePieces sep 0 (pieces.filter p) := by
  generalize hd : 0 = depth at h
  induction h with
  | @last depth s hs =>
    subst hd
    rw [List.filter_cons, List.filter_nil]
    split
    · exact .inr (.last hs)
    · exact .inl rfl
  | @more depth s rest hs hend _ ih =>
    subst hd
    rw [List.filter_cons]
    split
    · obtain h | h := ih rfl
      · exact .inr (h ▸ .last hs)
      · exact .inr (.more hs hend h)
    · exact ih rfl

/-! ## Parts -/

theorem splitTop_join_of_arePieces (ho : sep ≠ '{') (hc : sep ≠ '}') (h : ArePieces sep 0 pieces) :
    splitTop sep (join [sep] pieces) = (pieces.map trim).filter fun part => !part.isEmpty := by
  rw [splitTop, h.topPieces_join ho hc]

/-- Parts with closed braces and without the separator outside them, joined by it, are the parts
again, trimmed and without the empty ones. -/
theorem splitTop_join {parts : List (List Char)} (ho : sep ≠ '{') (hc : sep ≠ '}')
    (hb : ∀ s ∈ parts, isBalanced 0 s = true) (hs : ∀ s ∈ parts, lacksTop (· = sep) 0 s = true) :
    splitTop sep (join [sep] parts) = (parts.map trim).filter fun part => !part.isEmpty := by
  cases parts with
  | nil => rfl
  | cons s parts => exact splitTop_join_of_arePieces ho hc (arePieces_of_isBalanced (by simp) hb hs)

/-- Trimming and dropping empty parts changes nothing where there is nothing to trim or drop. -/
theorem filter_map_trim {parts : List (List Char)} (h : ∀ s ∈ parts, s ≠ [] ∧ trim s = s) :
    ((parts.map trim).filter fun part => !part.isEmpty) = parts := by
  have htrim : parts.map trim = parts.map id := List.map_congr_left fun s hs => (h s hs).2
  rw [htrim, List.map_id, List.filter_eq_self]
  intro s hs
  simpa [List.isEmpty_iff] using (h s hs).1

theorem join_cons_spaced (s : List Char) (parts : List (List Char)) :
    join [',', ' '] (s :: parts) = join [','] (s :: parts.map (' ' :: ·)) := by
  induction parts generalizing s with
  | nil => rfl
  | cons t parts ih =>
    rw [List.map_cons, join_cons_of_ne_nil _ s (by simp), join_cons_of_ne_nil _ s (by simp), ih,
      join_cons_cons]
    simp

/-- Trimmed parts with closed braces and without commas outside them are read back from a list
that has a comma and a space between them. -/
theorem splitTop_commas {parts : List (List Char)} (hb : ∀ s ∈ parts, isBalanced 0 s = true)
    (hs : ∀ s ∈ parts, lacksTop (· = ',') 0 s = true) (ht : ∀ s ∈ parts, trim s = s)
    (hne : ∀ s ∈ parts, s ≠ []) : splitTop ',' (join [',', ' '] parts) = parts := by
  cases parts with
  | nil => rfl
  | cons s parts =>
    have hspace : ∀ t : List Char, trim (' ' :: t) = trim t := fun t => rfl
    have htrim : (s :: parts.map (' ' :: ·)).map trim = (s :: parts).map trim := by
      rw [List.map_cons, List.map_map, List.map_cons]
      exact congrArg _ (List.map_congr_left fun t _ => hspace t)
    rw [join_cons_spaced, splitTop_join (by decide) (by decide), htrim]
    · exact filter_map_trim fun t h => ⟨hne t h, ht t h⟩
    · intro t h
      obtain rfl | ⟨u, hu, rfl⟩ := by simpa using h
      · exact hb t List.mem_cons_self
      · exact hb u (List.mem_cons_of_mem _ hu)
    · intro t h
      obtain rfl | ⟨u, hu, rfl⟩ := by simpa using h
      · exact hs t List.mem_cons_self
      · exact hs u (List.mem_cons_of_mem _ hu)

/-- The parts of any text are trimmed, not empty and without the separator outside their braces,
and they are read back when the separator joins them. Any parts like that are read back if their
braces are closed. -/
theorem splitTop_stable (ho : sep ≠ '{') (hc : sep ≠ '}') (s : List Char) :
    (∀ part ∈ splitTop sep s, part ≠ [] ∧ trim part = part ∧ lacksTop (· = sep) 0 part = true) ∧
      splitTop sep (join [sep] (splitTop sep s)) = splitTop sep s ∧
      ∀ parts : List (List Char),
        (∀ part ∈ parts, part ≠ [] ∧ trim part = part ∧ isBalanced 0 part = true ∧
          lacksTop (· = sep) 0 part = true) →
        splitTop sep (join [sep] parts) = parts := by
  have hparts : ∀ part ∈ splitTop sep s, part ≠ [] ∧ trim part = part := by
    intro part hpart
    obtain ⟨hmem, hne⟩ := List.mem_filter.1 hpart
    obtain ⟨piece, -, rfl⟩ := List.mem_map.1 hmem
    exact ⟨by simpa [List.isEmpty_iff] using hne, trim_trim piece⟩
  have hpieces : splitTop sep s = [] ∨ ArePieces sep 0 (splitTop sep s) :=
    (arePieces_topPieces ho hc 0 s).trim.filter _
  refine ⟨fun part hpart => ?_, ?_, fun parts h => ?_⟩
  · obtain hnil | hpieces := hpieces
    · rw [hnil] at hpart
      cases hpart
    · exact ⟨(hparts part hpart).1, (hparts part hpart).2, hpieces.lacksTop_of_mem part hpart⟩
  · obtain hnil | hpieces := hpieces
    · rw [hnil]
      rfl
    · rw [splitTop_join_of_arePieces ho hc hpieces, filter_map_trim hparts]
  · rw [splitTop_join ho hc (fun part hp => (h part hp).2.2.1) fun part hp => (h part hp).2.2.2]
    exact filter_map_trim fun part hp => ⟨(h part hp).1, (h part hp).2.1⟩

/-- A text with a stray closing brace, an empty part and an open brace. -/
def strayBraces : List Char := "\x7d fd , ,\tdict\x7ba, b".toList

theorem splitTop_stable_strayBraces :
    (',' ≠ '{' ∧ ',' ≠ '}') ∧
      splitTop ',' strayBraces = ["\x7d fd".toList, "dict\x7ba, b".toList] ∧
      (∀ part ∈ splitTop ',' strayBraces,
        part ≠ [] ∧ trim part = part ∧ lacksTop (· = ',') 0 part = true) ∧
      splitTop ',' (join [','] (splitTop ',' strayBraces)) = splitTop ',' strayBraces ∧
      splitTop ',' (join [','] ["dict\x7ba, b\x7d".toList, "fd".toList]) =
        ["dict\x7ba, b\x7d".toList, "fd".toList] := by
  have ho : ',' ≠ '{' := by decide
  have hc : ',' ≠ '}' := by decide
  obtain ⟨hparts, hstable, hread⟩ := splitTop_stable ho hc strayBraces
  exact ⟨⟨ho, hc⟩, by decide, hparts, hstable, hread _ (by decide)⟩

end BusDoc.Text
