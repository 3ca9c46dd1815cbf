import BusDoc.Proofs.Text.Trim
import BusDoc.Text.Braces
import BusDoc.Text.Bytes
import BusDoc.Text.Letter
import Mathlib.Data.List.TakeWhile
import Mathlib.Data.String.Basic

/-!
# Cuts at byte indices

What a cut at an index gives is known from the characters in front of it: it succeeds exactly where
one of them ends.

* `cutAt?_eq_some_iff`: the two parts of a text cut at an index; `isSome_cutAt?_iff` tells that
  these are the valid positions in the text.
* `leadingBytes_eq`: spaces and tabs take up one byte each, and no other character starts with such
  a byte.
* `findByte?_eq`, `lastTopBlank?_eq`: a character found by index is found in the text.
-/

namespace BusDoc.Text

open String

variable {s front rest : List Char} {n : Nat}

/-! ## Cuts -/

theorem cutAt?_cons_of_le {c : Char} (h : c.utf8Size ≤ n) :
    cutAt? n (c :: s) =
      (cutAt? (n - c.utf8Size) s).map fun (front, rest) => (c :: front, rest) := by
  cases n with
  | zero => exact absurd (Char.utf8Size_pos c) (Nat.not_lt.2 h)
  | succ n => rw [cutAt?, if_pos h]

theorem cutAt?_eq_some_iff :
    cutAt? n s = some (front, rest) ↔ s = front ++ rest ∧ utf8Len front = n := by
  constructor
  · intro h
    fun_induction cutAt? n s generalizing front with
    | case1 s =>
      cases h
      exact ⟨rfl, rfl⟩
    | case2 => cases h
    | case3 n c s hle ih =>
      obtain ⟨⟨front, rest⟩, hcut, h⟩ := Option.map_eq_some_iff.1 h
      cases h
      obtain ⟨rfl, hlen⟩ := ih hcut
      refine ⟨rfl, ?_⟩
      rw [utf8Len_cons, hlen]
      omega
    | case4 => cases h
  · rintro ⟨rfl, rfl⟩
    induction front with
    | nil => simp [cutAt?]
    | cons c front ih =>
      rw [List.cons_append, cutAt?_cons_of_le (by simp), utf8Len_cons, Nat.add_sub_cancel, ih]
      rfl

theorem sliceFrom?_append (front rest : List Char) :
    sliceFrom? (utf8Len front) (front ++ rest) = some rest := by
  rw [sliceFrom?, cutAt?_eq_some_iff.2 ⟨rfl, rfl⟩]
  rfl

theorem sliceTo?_append (front rest : List Char) :
    sliceTo? (utf8Len front) (front ++ rest) = some front := by
  rw [sliceTo?, cutAt?_eq_some_iff.2 ⟨rfl, rfl⟩]
  rfl

theorem sliceFrom?_takeWhile (p : Char → Bool) (s : List Char) :
    sliceFrom? (utf8Len (s.takeWhile p)) s = some (s.dropWhile p) := by
  have hcut := sliceFrom?_append (s.takeWhile p) (s.dropWhile p)
  rwa [List.takeWhile_append_dropWhile] at hcut

theorem sliceTo?_takeWhile (p : Char → Bool) (s : List Char) :
    sliceTo? (utf8Len (s.takeWhile p)) s = some (s.takeWhile p) := by
  have hcut := sliceTo?_append (s.takeWhile p) (s.dropWhile p)
  rwa [List.takeWhile_append_dropWhile] at hcut

/-- A text can be cut at the valid positions in it, and nowhere else. -/
theorem isSome_cutAt?_iff :
    (cutAt? n s).isSome ↔ String.Pos.Raw.IsValid (String.ofList s) ⟨n⟩ := by
  rw [Option.isSome_iff_exists, Prod.exists, String.Pos.Raw.isValid_iff_exists_append]
  simp only [cutAt?_eq_some_iff, String.Pos.Raw.ext_iff]
  constructor
  · rintro ⟨front, rest, rfl, rfl⟩
    exact ⟨String.ofList front, String.ofList rest, String.ofList_append,
      (utf8ByteSize_ofList front).symm⟩
  · rintro ⟨front, rest, hs, hn⟩
    refine ⟨front.toList, rest.toList, ?_, ?_⟩
    · rw [← String.toList_append, ← hs, String.toList_ofList]
    · rw [← utf8ByteSize_ofList, String.ofList_toList]
      exact hn.symm

/-! ## Spaces and tabs -/

theorem utf8EncodeChar_of_isIndent {c : Char} (h : isIndent c = true) :
    ∃ b, String.utf8EncodeChar c = [b] ∧ isIndentByte b = true := by
  simp only [isIndent, Bool.or_eq_true, beq_iff_eq] at h
  rcases h with rfl | rfl <;> exact ⟨_, rfl, rfl⟩

theorem utf8EncodeChar_of_not_isIndent {c : Char} (h : isIndent c = false) :
    ∃ b bs, String.utf8EncodeChar c = b :: bs ∧ isIndentByte b = false := by
  have hbyte {n : Nat} (hn : n < 256) : isIndentByte (.ofNat n) = (n == 32 || n == 9) := by
    simp [isIndentByte, ← UInt8.toNat_inj, Nat.mod_eq_of_lt hn, Bool.beq_eq_decide_eq]
  have hne : c.toNat ≠ 32 ∧ c.toNat ≠ 9 := by
    simp only [isIndent, Bool.or_eq_false_iff, beq_eq_false_iff_ne] at h
    exact ⟨fun heq => h.1 (Char.toNat_inj.1 heq), fun heq => h.2 (Char.toNat_inj.1 heq)⟩
  unfold String.utf8EncodeChar
  dsimp only
  split_ifs
  · exact ⟨_, [], rfl, by rw [hbyte (by omega)]; simp [hne]⟩
  all_goals exact ⟨_, _, rfl, by rw [hbyte (by omega)]; simp⟩

theorem leadingBytes_eq (s : List Char) : leadingBytes s = indentOf s := by
  induction s with
  | nil => rfl
  | cons c s ih =>
    rw [leadingBytes, List.flatMap_cons, indentOf, List.takeWhile_cons]
    cases hc : isIndent c with
    | true =>
      obtain ⟨b, hb, hindent⟩ := utf8EncodeChar_of_isIndent hc
      rw [hb, List.singleton_append, List.takeWhile_cons, if_pos hindent]
      exact congrArg (· + 1) ih
    | false =>
      obtain ⟨b, bs, hb, hindent⟩ := utf8EncodeChar_of_not_isIndent hc
      rw [hb, List.cons_append, List.takeWhile_cons, hindent]
      rfl

theorem utf8Len_of_isAscii (h : ∀ c ∈ s, isAscii c = true) : utf8Len s = s.length := by
  induction s with
  | nil => rfl
  | cons c s ih =>
    obtain ⟨hc, hs⟩ := List.forall_mem_cons.1 h
    have hsize : c.utf8Size = 1 := by
      rw [Char.utf8Size_eq_one_iff, UInt32.le_iff_toNat_le]
      exact Nat.le_of_lt_succ (of_decide_eq_true hc)
    rw [utf8Len_cons, ih hs, hsize, List.length_cons]

theorem isAscii_of_isIndent {c : Char} (h : isIndent c = true) : isAscii c = true := by
  simp only [isIndent, Bool.or_eq_true, beq_iff_eq] at h
  rcases h with rfl | rfl <;> rfl

/-- A text can be cut within the spaces and tabs that it starts with. -/
theorem sliceFrom?_of_le_indentOf (h : n ≤ indentOf s) : sliceFrom? n s = some (s.drop n) := by
  have hlen : utf8Len (s.take n) = n := by
    rw [utf8Len_of_isAscii fun c hc => ?_,
      List.length_take_of_le (h.trans (indentOf_le_length s))]
    exact isAscii_of_isIndent (List.all_eq_true.1 (all_take_of_le_indentOf h) c hc)
  have hcut := sliceFrom?_append (s.take n) (s.drop n)
  rwa [hlen, List.take_append_drop] at hcut

/-! ## Searches -/

theorem findByte?_eq (p : Char → Bool) (s : List Char) :
    findByte? p s = if s.any p then some (utf8Len (s.takeWhile fun c => !p c)) else none := by
  have hfrom (start : Nat) : ((charIndices start s).find? fun e => p e.2).map Prod.fst =
      if s.any p then some (start + utf8Len (s.takeWhile fun c => !p c)) else none := by
    induction s generalizing start with
    | nil => rfl
    | cons c s ih =>
      rw [charIndices, List.find?_cons, List.any_cons, List.takeWhile_cons]
      cases hc : p c with
      | true => simp
      | false =>
        simp only [ih, Bool.false_or, Bool.not_false, if_true, utf8Len_cons]
        rw [Nat.add_assoc, Nat.add_comm c.utf8Size]
  rw [findByte?, hfrom, Nat.zero_add]

theorem takeWhile_not_of_any_eq_false {p : Char → Bool} (h : s.any p = false) :
    (s.takeWhile fun c => !p c) = s :=
  List.takeWhile_eq_self_iff.2 fun c hc => by simp [List.any_eq_false.1 h c hc]

theorem dropWhile_not_of_any_eq_false {p : Char → Bool} (h : s.any p = false) :
    (s.dropWhile fun c => !p c) = [] :=
  List.dropWhile_eq_nil_iff.2 fun c hc => by simp [List.any_eq_false.1 h c hc]

theorem lastTopBlank?_cons (depth i : Nat) (found : Option Nat) (c : Char)
    (rest : List (Nat × Char)) :
    lastTopBlank? depth found ((i, c) :: rest) =
      lastTopBlank? (braceDepth depth c) (if isBlank c ∧ depth = 0 then some i else found)
        rest := by
  rw [lastTopBlank?, braceDepth]
  by_cases ho : c = '{'
  · subst ho
    simp [show isBlank '{' = false from rfl]
  by_cases hc : c = '}'
  · subst hc
    simp [show isBlank '}' = false from rfl]
  rw [if_neg ho, if_neg hc, if_neg ho, if_neg hc]
  by_cases hb : isBlank c = true ∧ depth = 0
  · simp [hb]
  · rw [if_neg (by simpa using hb), if_neg hb]

theorem lastTopBlank?_eq (depth start : Nat) (found : Option Nat) (s : List Char) :
    lastTopBlank? depth found (charIndices start s) =
      match cutLastBlank depth s with
      | some (front, _) => some (start + utf8Len front)
      | none => found := by
  induction s generalizing depth start found with
  | nil => rfl
  | cons c s ih =>
    rw [charIndices, lastTopBlank?_cons, ih, cutLastBlank]
    cases cutLastBlank (braceDepth depth c) s with
    | some cut => simp only [utf8Len_cons, Nat.add_assoc, Nat.add_comm c.utf8Size]
    | none =>
      by_cases hb : isBlank c = true ∧ depth = 0
      · simp [hb]
      · simp only [if_neg hb]

theorem cutLastBlank_append_eq {depth : Nat} (h : cutLastBlank depth s = some (front, rest)) :
    s = front ++ rest := by
  induction s generalizing depth front with
  | nil => cases h
  | cons c s ih =>
    rw [cutLastBlank] at h
    split at h
    next front rest hs =>
      cases h
      rw [ih hs, List.cons_append]
    next =>
      obtain ⟨-, h⟩ := Option.ite_none_right_eq_some.1 h
      cases h
      rfl

end BusDoc.Text
