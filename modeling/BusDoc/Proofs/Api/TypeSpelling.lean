import BusDoc.Api.DocType
import BusDoc.Proofs.Text.TopPieces

/-!
# Spellings of types

A basic type is spelled by its keyword, `dict` with or without members in braces, and `array` with
its element, or with the several members of a structure, in braces (`IsSpelling`). Members are
separated by commas, and blanks may stand around each of them and around the whole.

- **Reading** (`ofChars_of_members`, `ofChars_congr`): the braces of an array are stripped once, and
  what stands between them is read member by member, without the blanks around it.
- **Members** (`IsMember`): every spelling closes its braces and has its commas inside them, so a
  list of members is cut at its own commas only (`splitTop_join_members`).
- **Spellings** (`ofString_spelling`): which types have a spelling, and that every spelling of a
  type is read as that type.
-/

namespace BusDoc.DocType

open Text

variable {s : List Char}

/-! ## Reading -/

theorem ofChars_of_members {members : List Char} (h : arrayMembers? (trim s) = some members) :
    ofChars s = array (match splitTop ',' members with
      | [] => variant
      | [member] => ofChars member
      | members => struct (members.map ofChars)) := by
  rw [ofChars]
  split
  next inner hinner =>
    obtain rfl := Option.some.inj (h.symm.trans hinner)
    split
    next hm => simp only [hm]
    next member hm => simp only [hm]
    next first second rest hm => simp [hm]
  next hnone =>
    rw [hnone] at h
    cases h

theorem ofChars_of_no_members (h : arrayMembers? (trim s) = none) :
    ofChars s = if isDict (trim s) then dict else ofWord (trim s) := by
  rw [ofChars]
  split
  next inner hinner =>
    rw [hinner] at h
    cases h
  next => rfl

/-- The blanks around a spelling do not matter. -/
theorem ofChars_congr {t : List Char} (h : trim s = trim t) : ofChars s = ofChars t := by
  cases hmembers : arrayMembers? (trim t) with
  | some members => rw [ofChars_of_members hmembers, ofChars_of_members (h ▸ hmembers)]
  | none => rw [ofChars_of_no_members hmembers, ofChars_of_no_members (h ▸ hmembers), h]

theorem ofChars_trim (s : List Char) : ofChars (trim s) = ofChars s := ofChars_congr (trim_trim s)

/-! ## Members in braces -/

/-- The text can be one of several members: its braces are closed, it has commas inside them only,
and it is not blank. -/
structure IsMember (s : List Char) : Prop where
  balanced : isBalanced 0 s = true
  noComma : lacksTop (· = ',') 0 s = true
  notBlank : allBlank s = false

/-- The members in braces behind a word. -/
def braced (word : String) (members : List (List Char)) : List Char :=
  word.toList ++ '{' :: (join [','] members ++ ['}'])

/-- The character is no brace and no comma. -/
def isPlain (c : Char) : Bool := c != '{' && c != '}' && c != ','

theorem isPlain_iff {c : Char} : isPlain c = true ↔ (c ≠ '{' ∧ c ≠ '}') ∧ c ≠ ',' := by
  simp only [isPlain, Bool.and_eq_true, bne_iff_ne]

theorem isBalanced_of_plain (h : s.all isPlain = true) : isBalanced 0 s = true :=
  isBalanced_of_noBrace fun c hc => (isPlain_iff.1 (List.all_eq_true.1 h c hc)).1

theorem lacksTop_of_plain (h : s.all isPlain = true) : lacksTop (· = ',') 0 s = true :=
  lacksTop_of_none fun c hc => decide_eq_false (isPlain_iff.1 (List.all_eq_true.1 h c hc)).2

theorem plain_of_allBlank (h : allBlank s = true) : s.all isPlain = true := by
  refine List.all_eq_true.2 fun c hc => isPlain_iff.2 ?_
  have hblank := List.all_eq_true.1 h c hc
  refine ⟨⟨?_, ?_⟩, ?_⟩ <;> rintro rfl <;> cases hblank

theorem isMember_of_plain (h : s.all isPlain = true) (hblank : allBlank s = false) : IsMember s :=
  ⟨isBalanced_of_plain h, lacksTop_of_plain h, hblank⟩

theorem IsMember.padded (h : IsMember s) {front back : List Char} (hfront : allBlank front = true)
    (hback : allBlank back = true) : IsMember (front ++ s ++ back) := by
  have hf := plain_of_allBlank hfront
  have hb := plain_of_allBlank hback
  have hbalanced := isBalanced_append (isBalanced_of_plain hf) h.balanced
  have hcomma := lacksTop_append (isBalanced_of_plain hf) (lacksTop_of_plain hf) h.noComma
  refine ⟨isBalanced_append hbalanced (isBalanced_of_plain hb),
    lacksTop_append hbalanced hcomma (lacksTop_of_plain hb), ?_⟩
  have hs : s.all isBlank = false := h.notBlank
  rw [allBlank, List.all_append, List.all_append, hs, Bool.and_false, Bool.false_and]

theorem isMember_braced {word : String} (hword : word.toList.all isPlain = true)
    {members : List (List Char)} (h : ∀ m ∈ members, IsMember m) :
    IsMember (braced word members) := by
  have hinside : isBalanced 0 (join [','] members) = true :=
    isBalanced_join (by decide) fun m hm => (h m hm).balanced
  have hbrace : isBlank '{' = false := rfl
  refine ⟨isBalanced_append (isBalanced_of_plain hword) (isBalanced_braces hinside),
    lacksTop_append (isBalanced_of_plain hword) (lacksTop_of_plain hword)
      (lacksTop_braces rfl hinside), ?_⟩
  rw [allBlank, braced, List.all_append, List.all_cons, hbrace, Bool.false_and, Bool.and_false]

theorem splitTop_join_members {members : List (List Char)} (h : ∀ m ∈ members, IsMember m) :
    splitTop ',' (join [','] members) = members.map trim := by
  rw [splitTop_join (by decide) (by decide) (fun m hm => (h m hm).balanced)
    (fun m hm => (h m hm).noComma), List.filter_eq_self]
  intro part hpart
  obtain ⟨m, hm, rfl⟩ := List.mem_map.1 hpart
  have hne : trim m ≠ [] := fun hnil => by
    rw [trim_eq_nil_iff, (h m hm).notBlank] at hnil
    cases hnil
  simpa using hne

theorem trim_braced {word : String} {c : Char} (hword : word.toList.head? = some c)
    (hc : isBlank c = false) (members : List (List Char)) :
    trim (braced word members) = braced word members := by
  refine trim_of_ends (fun d hd => ?_) fun d hd => ?_
  · rw [braced, List.head?_append, hword, Option.some_or] at hd
    exact Option.some.inj hd ▸ hc
  · rw [braced, ← List.cons_append, ← List.append_assoc, List.getLast?_concat] at hd
    exact Option.some.inj hd ▸ rfl

/-- An array with members in braces is read member by member. -/
theorem ofChars_array {members : List (List Char)} (h : ∀ m ∈ members, IsMember m) :
    ofChars (braced "array" members) = array (match members with
      | [] => variant
      | [member] => ofChars member
      | members => struct (members.map ofChars)) := by
  have hinside : after? "array\x7b".toList (braced "array" members) =
      some (join [','] members ++ ['}']) := after?_eq_some_iff.2 rfl
  have hmembers : arrayMembers? (trim (braced "array" members)) = some (join [','] members) := by
    rw [trim_braced rfl rfl, arrayMembers?, hinside]
    exact before?_eq_some_iff.2 rfl
  rw [ofChars_of_members hmembers, splitTop_join_members h]
  match members with
  | [] => rfl
  | [member] => simp [ofChars_trim]
  | first :: second :: rest => simp [ofChars_trim]

theorem ofChars_dict (members : List (List Char)) : ofChars (braced "dict" members) = dict := by
  have htrim : trim (braced "dict" members) = braced "dict" members := trim_braced rfl rfl members
  have hnone : arrayMembers? (trim (braced "dict" members)) = none := by
    rw [htrim]
    rfl
  have hstart : startsWith "dict\x7b".toList (braced "dict" members) = true :=
    startsWith_iff.2 ⟨join [','] members ++ ['}'], rfl⟩
  rw [ofChars_of_no_members hnone, htrim, isDict, hstart, Bool.or_true, if_pos rfl]

/-! ## Spellings -/

/-- The keyword of a basic type. -/
def keyword? : DocType → Option String
  | void => some "void"
  | bool => some "bool"
  | byte => some "byte"
  | int16 => some "int16"
  | uint16 => some "uint16"
  | int32 => some "int32"
  | uint32 => some "uint32"
  | int64 => some "int64"
  | uint64 => some "uint64"
  | double => some "double"
  | string => some "string"
  | objectPath => some "object"
  | fileDescriptor => some "fd"
  | variant => some "variant"
  | dict | array _ | struct _ | unknown _ => none

/-- The text spells the type. -/
inductive IsSpelling : DocType → List Char → Prop
  | keyword {t : DocType} {word : String} (h : t.keyword? = some word) : IsSpelling t word.toList
  | dict : IsSpelling dict "dict".toList
  | dictOf {members : List (DocType × List Char)} (hne : members ≠ [])
      (h : ∀ m ∈ members, IsSpelling m.1 m.2) :
      IsSpelling dict (braced "dict" (members.map Prod.snd))
  | array {t : DocType} {s : List Char} (h : IsSpelling t s) :
      IsSpelling (array t) (braced "array" [s])
  /-- The members of a structure stand directly in the braces of an array. -/
  | struct {members : List (DocType × List Char)} (hlength : 2 ≤ members.length)
      (h : ∀ m ∈ members, IsSpelling m.1 m.2) :
      IsSpelling (.array (struct (members.map Prod.fst))) (braced "array" (members.map Prod.snd))
  | padded {t : DocType} {front s back : List Char} (hfront : allBlank front = true)
      (hback : allBlank back = true) (h : IsSpelling t s) : IsSpelling t (front ++ s ++ back)

namespace IsSpelling

variable {t : DocType}

theorem plain_keyword {word : String} (h : t.keyword? = some word) :
    word.toList.all isPlain = true ∧ allBlank word.toList = false := by
  cases t <;> cases h <;> decide

theorem isMember (h : IsSpelling t s) : IsMember s := by
  induction h with
  | keyword h => exact isMember_of_plain (plain_keyword h).1 (plain_keyword h).2
  | dict => exact isMember_of_plain (by decide) (by decide)
  | dictOf _ _ ih => exact isMember_braced (by decide) (List.forall_mem_map.2 ih)
  | array _ ih => exact isMember_braced (by decide) (by simpa using ih)
  | struct _ _ ih => exact isMember_braced (by decide) (List.forall_mem_map.2 ih)
  | padded hfront hback _ ih => exact ih.padded hfront hback

theorem ofChars_keyword {word : String} (h : t.keyword? = some word) : ofChars word.toList = t := by
  have hnone : arrayMembers? (trim word.toList) = none := by cases t <;> cases h <;> rfl
  rw [ofChars_of_no_members hnone]
  cases t <;> cases h <;> rfl

/-- A spelling is read as the type it spells. -/
theorem ofChars_eq (h : IsSpelling t s) : ofChars s = t := by
  induction h with
  | keyword h => exact ofChars_keyword h
  | dict =>
    have hnone : arrayMembers? (trim "dict".toList) = none := rfl
    rw [ofChars_of_no_members hnone]
    rfl
  | dictOf _ _ _ => exact ofChars_dict _
  | array h ih =>
    rw [ofChars_array (by simpa using h.isMember)]
    exact congrArg _ ih
  | @struct members hlength h ih =>
    have hmember : ∀ s ∈ members.map Prod.snd, IsMember s :=
      List.forall_mem_map.2 fun m hm => (h m hm).isMember
    have hread : (members.map Prod.snd).map ofChars = members.map Prod.fst := by
      rw [List.map_map]
      exact List.map_congr_left ih
    rw [ofChars_array hmember, ← hread]
    match members with
    | first :: second :: rest => rfl
  | padded hfront hback _ ih => rw [ofChars_congr (trim_padded hfront hback), ih]

end IsSpelling

mutual

/-- The type has a spelling; `inArray` tells whether it stands directly in the braces of an array,
where the members of a structure may stand. -/
def isSpellable (inArray : Bool) : DocType → Bool
  | array element => element.isSpellable true
  | struct members => inArray && 2 ≤ members.length && areSpellable members
  | unknown _ => false
  | _ => true

/-- Each of the types has a spelling. -/
def areSpellable : List DocType → Bool
  | [] => true
  | t :: ts => t.isSpellable false && areSpellable ts

end

mutual

theorem exists_isSpelling : ∀ t : DocType,
    (t.isSpellable false = true → ∃ s, IsSpelling t s) ∧
      (t.isSpellable true = true → ∃ s, IsSpelling (array t) s)
  | array element => by
    have hinside := (exists_isSpelling element).2
    rw [isSpellable, isSpellable]
    refine ⟨hinside, fun h => ?_⟩
    obtain ⟨s, hs⟩ := hinside h
    exact ⟨_, .array hs⟩
  | struct members => by
    rw [isSpellable, isSpellable, Bool.false_and, Bool.false_and]
    refine ⟨nofun, fun h => ?_⟩
    rw [Bool.true_and, Bool.and_eq_true, decide_eq_true_iff] at h
    obtain ⟨spelled, rfl, hspelled⟩ := exists_spellings members h.2
    exact ⟨_, .struct (by simpa using h.1) hspelled⟩
  | unknown _ => ⟨nofun, nofun⟩
  | dict => ⟨fun _ => ⟨_, .dict⟩, fun _ => ⟨_, .array .dict⟩⟩
  | void | bool | byte | int16 | uint16 | int32 | uint32 | int64 | uint64 | double | string
  | objectPath | fileDescriptor | variant =>
    ⟨fun _ => ⟨_, .keyword rfl⟩, fun _ => ⟨_, .array (.keyword rfl)⟩⟩

theorem exists_spellings : ∀ ts : List DocType, areSpellable ts = true →
    ∃ members : List (DocType × List Char),
      members.map Prod.fst = ts ∧ ∀ m ∈ members, IsSpelling m.1 m.2
  | [], _ => ⟨[], rfl, fun _ h => absurd h List.not_mem_nil⟩
  | t :: ts, h => by
    rw [areSpellable, Bool.and_eq_true] at h
    obtain ⟨s, hs⟩ := (exists_isSpelling t).1 h.1
    obtain ⟨members, rfl, hmembers⟩ := exists_spellings ts h.2
    exact ⟨(t, s) :: members, rfl, List.forall_mem_cons.2 ⟨hs, hmembers⟩⟩

end

theorem areSpellable_iff {ts : List DocType} :
    areSpellable ts = true ↔ ∀ t ∈ ts, t.isSpellable false = true := by
  induction ts with
  | nil => simp [areSpellable]
  | cons t ts ih => rw [areSpellable, Bool.and_eq_true, ih, List.forall_mem_cons]

theorem isSpellable_inArray {t : DocType} (h : t.isSpellable false = true) :
    t.isSpellable true = true := by
  cases t with
  | struct members => rw [isSpellable] at h; cases h
  | _ => exact h

theorem IsSpelling.isSpellable {t : DocType} (h : IsSpelling t s) :
    t.isSpellable false = true := by
  induction h with
  | @keyword t _ h =>
    cases t with
    | dict | array _ | struct _ | unknown _ => cases h
    | _ => rfl
  | dict => rfl
  | dictOf _ _ _ => rfl
  | array _ ih => exact isSpellable_inArray ih
  | struct hlength _ ih =>
    have hmembers : areSpellable (List.map Prod.fst _) = true :=
      areSpellable_iff.2 (List.forall_mem_map.2 ih)
    rw [DocType.isSpellable, DocType.isSpellable, hmembers, List.length_map]
    simpa using hlength
  | padded _ _ _ ih => exact ih

/-- **Spellings of types.** The types with a spelling are the trees of basic types, `dict`, arrays,
and structures of two or more members directly in arrays. Every spelling of a type, whatever blanks
stand around it and around its members at any depth, is read as that type. -/
theorem ofString_spelling (t : DocType) :
    (t.isSpellable false = true ↔ ∃ s, IsSpelling t s) ∧
      ∀ s : String, IsSpelling t s.toList → ofString s = t :=
  ⟨⟨(exists_isSpelling t).1, fun ⟨_, h⟩ => h.isSpellable⟩, fun _ h => h.ofChars_eq⟩

/-- Pairs of an object and its properties, with a list of byte strings in each. -/
def objectsType : DocType := array (struct [objectPath, dict, array (array byte)])

/-- The type with blanks around some of its members and behind the whole. -/
def objectsText : String :=
  "array\x7bobject ,\tdict\x7bstring, array\x7b variant\x7d\x7d,array\x7barray\x7bbyte\x7d \x7d\x7d\n"

theorem ofString_spelling_objects :
    IsSpelling objectsType objectsText.toList ∧ ofString objectsText = objectsType := by
  have hobject : IsSpelling objectPath "object ".toList :=
    show IsSpelling _ ([] ++ "object".toList ++ [' ']) from .padded rfl rfl (.keyword rfl)
  have hvalues : IsSpelling (array variant) " array\x7b variant\x7d".toList :=
    show IsSpelling _ ([' '] ++ braced "array" [[' '] ++ "variant".toList ++ []] ++ []) from
      .padded rfl rfl (.array (.padded rfl rfl (.keyword rfl)))
  have hentry : ∀ m ∈ [(string, "string".toList), (array variant, " array\x7b variant\x7d".toList)],
      IsSpelling m.1 m.2 := by
    simp only [List.forall_mem_cons]
    exact ⟨.keyword rfl, hvalues, nofun⟩
  have hdict : IsSpelling dict "\tdict\x7bstring, array\x7b variant\x7d\x7d".toList :=
    show IsSpelling _ (['\t'] ++ braced "dict" (List.map Prod.snd _) ++ []) from
      .padded rfl rfl (.dictOf (by simp) hentry)
  have hbytes : IsSpelling (array (array byte)) "array\x7barray\x7bbyte\x7d \x7d".toList :=
    show IsSpelling _ (braced "array" [[] ++ braced "array" ["byte".toList] ++ [' ']]) from
      .array (.padded rfl rfl (.array (.keyword rfl)))
  have hmember : ∀ m ∈ [(objectPath, "object ".toList),
      (dict, "\tdict\x7bstring, array\x7b variant\x7d\x7d".toList),
      (array (array byte), "array\x7barray\x7bbyte\x7d \x7d".toList)], IsSpelling m.1 m.2 := by
    simp only [List.forall_mem_cons]
    exact ⟨hobject, hdict, hbytes, nofun⟩
  have hobjects : IsSpelling objectsType objectsText.toList :=
    show IsSpelling _ ([] ++ braced "array" (List.map Prod.snd _) ++ ['\n']) from
      .padded rfl rfl (.struct (by simp) hmember)
  exact ⟨hobjects, (ofString_spelling objectsType).2 objectsText hobjects⟩

end BusDoc.DocType
