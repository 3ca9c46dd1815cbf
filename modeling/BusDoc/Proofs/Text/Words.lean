import BusDoc.Proofs.Text.Join
import BusDoc.Proofs.Text.Trim

/-!
# Words

* `words_append_cons`: a separator cuts a text into two with words of their own.
* `mem_words_iff`: the words of a text are its maximal runs without separators.
* `join_words`, `Spaced.append`: joining the words of a text by spaces changes nothing when its
  blanks are single spaces between other characters, or when it is two such texts with a space
  between them.
-/

namespace BusDoc.Text

variable {p : Char → Bool} {s t : List Char}

/-! ## Words -/

theorem words_cons_of_pos {c : Char} (hc : p c = true) : words p (c :: s) = words p s := by
  rw [words.eq_def]
  simp [hc]

theorem words_cons_cons_of_pos {c d : Char} (hc : p c = false) (hd : p d = true) :
    words p (c :: d :: s) = [c] :: words p s := by
  rw [words.eq_def]
  simp [hc, hd, words_cons_of_pos hd]

theorem words_ne_nil {c : Char} (hc : p c = false) : words p (c :: s) ≠ [] := by
  rw [words.eq_def]
  simp only [hc]
  cases s with
  | nil => simp
  | cons d s => cases hd : p d <;> cases words p (d :: s) <;> simp [hd]

/-- A character that is no separator goes on with the word that the next one begins. -/
theorem words_cons_cons_of_neg {c d : Char} (hc : p c = false) (hd : p d = false) :
    ∃ w ws, words p (d :: s) = w :: ws ∧ words p (c :: d :: s) = (c :: w) :: ws := by
  cases hw : words p (d :: s) with
  | nil => exact absurd hw (words_ne_nil hd)
  | cons w ws =>
    refine ⟨w, ws, rfl, ?_⟩
    rw [words.eq_def]
    simp [hc, hd, hw]

theorem words_append_cons {c : Char} (hc : p c = true) (s t : List Char) :
    words p (s ++ c :: t) = words p s ++ words p t := by
  induction s with
  | nil => simp [words_cons_of_pos hc, words]
  | cons a s ih =>
    cases ha : p a with
    | true => rw [List.cons_append, words_cons_of_pos ha, words_cons_of_pos ha, ih]
    | false =>
      cases s with
      | nil =>
        rw [List.cons_append, List.nil_append, words_cons_cons_of_pos ha hc]
        simp [words, ha]
      | cons b s =>
        cases hb : p b with
        | true =>
          rw [List.cons_append, List.cons_append, words_cons_cons_of_pos ha hb,
            words_cons_cons_of_pos ha hb]
          rw [List.cons_append, words_cons_of_pos hb, words_cons_of_pos hb] at ih
          rw [ih, List.cons_append]
        | false =>
          obtain ⟨w, ws, hw, haw⟩ := words_cons_cons_of_neg (s := s) ha hb
          obtain ⟨v, vs, hv, hav⟩ := words_cons_cons_of_neg (s := s ++ c :: t) ha hb
          rw [hw, List.cons_append, hv, List.cons_append] at ih
          obtain ⟨rfl, rfl⟩ := List.cons.inj ih
          rw [List.cons_append, List.cons_append, hav, haw, List.cons_append]

/-- A character in front of two texts with the same words, if it is cut off from both or from
neither. -/
theorem words_cons_congr {c : Char} (h : words p s = words p t)
    (hhead : s.head?.all p = t.head?.all p) : words p (c :: s) = words p (c :: t) := by
  have hcut {u : List Char} (hc : p c = false) (hu : u.head?.all p = true) :
      words p (c :: u) = [c] :: words p u := by
    cases u with
    | nil => simp [words, hc]
    | cons d u =>
      have hd : p d = true := by simpa using hu
      rw [words_cons_cons_of_pos hc hd, words_cons_of_pos hd]
  cases hc : p c with
  | true => rw [words_cons_of_pos hc, words_cons_of_pos hc, h]
  | false =>
    cases hs : s.head?.all p with
    | true => rw [hcut hc hs, hcut hc (hhead ▸ hs), h]
    | false =>
      -- the character goes on with the first word of both
      rw [hs] at hhead
      cases s with
      | nil => cases hs
      | cons d s =>
        cases t with
        | nil => cases hhead
        | cons e t =>
          obtain ⟨w, ws, hw, hcw⟩ := words_cons_cons_of_neg (s := s) hc (d := d) (by simpa using hs)
          obtain ⟨v, vs, hv, hcv⟩ :=
            words_cons_cons_of_neg (s := t) hc (d := e) (by simpa using hhead.symm)
          rw [hw, hv] at h
          obtain ⟨rfl, rfl⟩ := List.cons.inj h
          rw [hcw, hcv]

theorem words_of_none (hne : s ≠ []) (hs : ∀ c ∈ s, p c = false) : words p s = [s] := by
  induction s with
  | nil => exact absurd rfl hne
  | cons c s ih =>
    have hc := hs c List.mem_cons_self
    cases s with
    | nil => simp [words, hc]
    | cons d s =>
      have hd := hs d (by simp)
      obtain ⟨w, ws, hw, hcw⟩ := words_cons_cons_of_neg (s := s) hc hd
      rw [ih (by simp) fun x hx => hs x (List.mem_cons_of_mem _ hx)] at hw
      obtain ⟨rfl, rfl⟩ := List.cons.inj hw
      exact hcw

/-! ## Maximal runs -/

/-- A run up to the next separator is a word. -/
theorem words_append_of_head {w : List Char} (hne : w ≠ []) (hw : ∀ c ∈ w, p c = false)
    (ht : t.head?.all p = true) : words p (w ++ t) = w :: words p t := by
  cases t with
  | nil =>
    rw [List.append_nil, words_of_none hne hw]
    rfl
  | cons d t =>
    have hd : p d = true := by simpa using ht
    rw [words_append_cons hd, words_of_none hne hw, words_cons_of_pos hd]
    rfl

/-- A character that is no separator begins a run, which ends at the next separator. -/
theorem exists_run {c : Char} (hc : p c = false) (s : List Char) :
    ∃ w rest, c :: s = w ++ rest ∧ w ≠ [] ∧ (∀ d ∈ w, p d = false) ∧ rest.head?.all p = true := by
  refine ⟨(c :: s).takeWhile fun d => !p d, (c :: s).dropWhile fun d => !p d,
    List.takeWhile_append_dropWhile.symm, by simp [hc], fun d hd => ?_, ?_⟩
  · simpa using List.all_eq_true.1 List.all_takeWhile d hd
  · have hend := List.head?_dropWhile_not (fun d => !p d) (c :: s)
    cases hrest : (c :: s).dropWhile fun d => !p d with
    | nil => rfl
    | cons d rest => simpa [hrest] using hend

/-- `w` is a maximal run of characters of the text that are not separators. -/
def IsToken (p : Char → Bool) (s w : List Char) : Prop :=
  w ≠ [] ∧ (∀ c ∈ w, p c = false) ∧
    ∃ front back, s = front ++ w ++ back ∧ front.getLast?.all p = true ∧ back.head?.all p = true

theorem isToken_of_mem_words {w : List Char} (h : w ∈ words p s) : IsToken p s w := by
  induction hn : s.length using Nat.strongRecOn generalizing s with
  | ind n ih =>
  cases s with
  | nil => cases h
  | cons c s =>
    cases hc : p c with
    | true =>
      rw [words_cons_of_pos hc] at h
      obtain ⟨hne, hw, front, back, rfl, hfront, hback⟩ := ih _ (by simp [← hn]) h rfl
      refine ⟨hne, hw, c :: front, back, rfl, ?_, hback⟩
      rw [List.getLast?_cons]
      cases hlast : front.getLast? with
      | none => simpa using hc
      | some d => simpa [hlast] using hfront
    | false =>
      obtain ⟨v, rest, hcut, hv, hvs, hrest⟩ := exists_run hc s
      rw [hcut, words_append_of_head hv hvs hrest] at h
      obtain rfl | h := List.mem_cons.1 h
      · exact ⟨hv, hvs, [], rest, hcut, rfl, hrest⟩
      · have hlt : rest.length < n := by
          have hlength := congrArg List.length hcut
          have hpos := List.length_pos_iff.2 hv
          rw [List.length_append] at hlength
          omega
        obtain ⟨hne, hw, front, back, rfl, hfront, hback⟩ := ih _ hlt h rfl
        -- what follows the first run begins with a separator, so the word does not
        have hsome : front ≠ [] := by
          rintro rfl
          obtain ⟨d, w, rfl⟩ := List.exists_cons_of_ne_nil hne
          have hd := hw d List.mem_cons_self
          simp [hd] at hrest
        refine ⟨hne, hw, v ++ front, back, by rw [hcut]; simp, ?_, hback⟩
        have hlast := List.getLast?_eq_some_getLast hsome
        rwa [List.getLast?_append, hlast, Option.some_or, ← hlast]

/-- The words of a text are its maximal runs without separators. -/
theorem mem_words_iff {w : List Char} : w ∈ words p s ↔ IsToken p s w := by
  refine ⟨isToken_of_mem_words, ?_⟩
  rintro ⟨hne, hw, front, back, rfl, hfront, hback⟩
  rw [List.append_assoc]
  obtain rfl | ⟨front, c, rfl⟩ := List.eq_nil_or_concat front
  · rw [List.nil_append, words_append_of_head hne hw hback]
    exact List.mem_cons_self
  · have hc : p c = true := by simpa using hfront
    rw [List.concat_eq_append, List.append_assoc, List.singleton_append, words_append_cons hc,
      words_append_of_head hne hw hback]
    exact List.mem_append_right _ List.mem_cons_self

/-! ## Single spaces -/

/-- Every blank of the text is a space, and no two blanks stand next to each other. -/
def isSingleSpaced : List Char → Bool
  | [] => true
  | [c] => !isBlank c || c = ' '
  | c :: d :: s => (!isBlank c || (c = ' ' && !isBlank d)) && isSingleSpaced (d :: s)

theorem isSingleSpaced_of_cons {c : Char} (h : isSingleSpaced (c :: s) = true) :
    isSingleSpaced s = true := by
  cases s with
  | nil => rfl
  | cons d s =>
    rw [isSingleSpaced, Bool.and_eq_true] at h
    exact h.2

theorem join_words (hs : isSingleSpaced s = true)
    (hl : ∀ c, s.getLast? = some c → isBlank c = false) :
    join [' '] (words isBlank s) = trimStart s := by
  induction s with
  | nil => rfl
  | cons c s ih =>
    have hs' := isSingleSpaced_of_cons hs
    have hl' : ∀ a, s.getLast? = some a → isBlank a = false := fun a ha => hl a (by
      cases s with
      | nil => cases ha
      | cons d s => rwa [List.getLast?_cons_cons])
    cases hc : isBlank c with
    | true => rw [words_cons_of_pos hc, ih hs' hl']; simp [trimStart, hc]
    | false =>
      rw [trimStart_cons_of_not hc]
      cases s with
      | nil => simp [words, hc, join]
      | cons d s =>
        cases hd : isBlank d with
        | true =>
          -- the blank is a space, and a character that is none follows it
          cases s with
          | nil => simp [hl' d rfl] at hd
          | cons e s =>
            have hde : d = ' ' ∧ isBlank e = false := by
              rw [isSingleSpaced, Bool.and_eq_true] at hs'
              simpa [hd] using hs'.1
            have hw := ih hs' hl'
            rw [words_cons_of_pos hd] at hw
            rw [words_cons_cons_of_pos hc hd, join_cons_of_ne_nil _ _ (words_ne_nil hde.2), hw]
            simp only [trimStart, List.dropWhile_cons, hd, hde.2]
            simp [hde.1]
        | false =>
          obtain ⟨w, ws, hw, hcw⟩ := words_cons_cons_of_neg (s := s) hc hd
          have hj := ih hs' hl'
          rw [hw, trimStart_cons_of_not hd] at hj
          rw [hcw, ← hj]
          cases ws <;> simp [join]

/-! ## Spaced texts -/

/-- Joining its words by spaces gives the text back. -/
def Spaced (s : List Char) : Prop := join [' '] (words isBlank s) = s

theorem Spaced.words_ne_nil (hs : Spaced s) (hne : s ≠ []) : words isBlank s ≠ [] := by
  intro h
  rw [Spaced, h] at hs
  exact hne hs.symm

theorem Spaced.append (hs : Spaced s) (hsn : s ≠ []) (ht : Spaced t) (htn : t ≠ []) :
    Spaced (s ++ ' ' :: t) := by
  rw [Spaced, words_append_cons rfl, join_append (hs.words_ne_nil hsn) (ht.words_ne_nil htn), hs,
    ht]
  simp

theorem spaced_of_noBlank (hne : s ≠ []) (hs : ∀ c ∈ s, isBlank c = false) : Spaced s := by
  rw [Spaced, words_of_none hne hs]
  rfl

end BusDoc.Text
