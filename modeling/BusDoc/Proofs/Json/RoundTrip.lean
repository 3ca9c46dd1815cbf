import BusDoc.Json.Parser
import BusDoc.Json.Printer
import BusDoc.Proofs.Result

/-!
# Printed values read back

A value made of words, integers, texts, arrays and objects is read back from its printed form. The
text of a string may hold any characters, and arrays and objects may nest to any depth.

* `stringBody?_escaped`: a string reads back from between its quotes.
* `number?_toString`: an integer reads back from its digits.
* `value?_prettyChars`: a value reads back from its lines, and the text behind it is left over.
* `parse?_pretty`: a printed value is a document that holds the value.
-/

namespace BusDoc.Json

/-! ## Strings -/

section Strings

variable (s : List Char)

theorem stringUnits?_letter {e : Char} {n : Nat} (h : letterEscape? e = some n) :
    stringUnits? ('\\' :: e :: s) = (stringUnits? s).map fun r => (n :: r.1, r.2) := by
  have hu : e ≠ 'u' := by
    rintro rfl
    cases h
  cases hs : stringUnits? s <;> simp [stringUnits?, hu, h, hs]

theorem hex4?_control : ∀ n < 0x20, hex4? '0' '0' (hexDigit (n / 16)) (hexDigit n) = some n := by
  decide

theorem stringUnits?_control {n : Nat} (h : n < 0x20) :
    stringUnits? ('\\' :: 'u' :: '0' :: '0' :: hexDigit (n / 16) :: hexDigit n :: s) =
      (stringUnits? s).map fun r => (n :: r.1, r.2) := by
  rw [stringUnits?, hex4?_control n h, Option.map_eq_bind]
  rfl

theorem stringUnits?_plain {c : Char} (hquote : c ≠ '"') (hslash : c ≠ '\\')
    (hc : ¬ c.toNat < 0x20) :
    stringUnits? (c :: s) = (stringUnits? s).map fun r => (c.toNat :: r.1, r.2) := by
  cases hs : stringUnits? s <;> simp [stringUnits?, hslash, hc, hs]

/-- A character is read back from what stands for it inside a string. -/
theorem stringUnits?_escapeChar (c : Char) :
    stringUnits? (escapeChar c ++ s) = (stringUnits? s).map fun r => (c.toNat :: r.1, r.2) := by
  unfold escapeChar
  split
  next => exact stringUnits?_letter s rfl
  next => exact stringUnits?_letter s rfl
  next => exact stringUnits?_letter s rfl
  next => exact stringUnits?_letter s rfl
  next => exact stringUnits?_letter s rfl
  next hquote hslash _ _ _ =>
    split
    next h => rw [h]; exact stringUnits?_letter s rfl
    next =>
      split
      next h => rw [h]; exact stringUnits?_letter s rfl
      next =>
        split
        next h => exact stringUnits?_control s h
        next h => exact stringUnits?_plain s hquote hslash h

theorem stringUnits?_escaped (cs : List Char) :
    stringUnits? (cs.flatMap escapeChar ++ '"' :: s) = some (cs.map Char.toNat, s) := by
  induction cs with
  | nil => rfl
  | cons c cs ih =>
    rw [List.flatMap_cons, List.append_assoc, stringUnits?_escapeChar, ih]
    rfl

theorem not_surrogate_toNat (c : Char) :
    isHighSurrogate c.toNat = false ∧ isLowSurrogate c.toNat = false := by
  have hvalid : c.toNat < 0xD800 ∨ 0xDFFF < c.toNat ∧ c.toNat < 0x110000 := c.valid
  simp only [isHighSurrogate, isLowSurrogate, Bool.and_eq_false_iff, decide_eq_false_iff_not]
  omega

/-- The code points of a text denote the text: none of them is half of a surrogate pair. -/
theorem textOfUnits?_map_toNat (cs : List Char) : textOfUnits? (cs.map Char.toNat) = some cs := by
  induction cs with
  | nil => rfl
  | cons c cs ih =>
    obtain ⟨hhigh, hlow⟩ := not_surrogate_toNat c
    cases cs with
    | nil => simp [textOfUnits?, hhigh, hlow, Char.ofNat_toNat]
    | cons d cs =>
      rw [List.map_cons] at ih
      simp [textOfUnits?, hhigh, hlow, ih, Char.ofNat_toNat]

theorem stringBody?_escaped (t : String) :
    stringBody? (t.toList.flatMap escapeChar ++ '"' :: s) = some (some t, s) := by
  simp [stringBody?, stringUnits?_escaped, textOfUnits?_map_toNat]

end Strings

/-! ## Integers -/

/-- The text does not go on as a number would: it starts with no digit, point or exponent. -/
def EndsNumber (s : List Char) : Prop :=
  ∀ c ∈ s.head?, isDigit c = false ∧ c ≠ '.' ∧ c ≠ 'e' ∧ c ≠ 'E'

theorem digitsValue_toDigits (n : Nat) : digitsValue (Nat.toDigits 10 n) = n := by
  have hfold : digitsValue (Nat.toDigits 10 n) = Nat.ofDigitChars 10 (Nat.toDigits 10 n) 0 := by
    simp only [digitsValue, Nat.ofDigitChars, Nat.mul_comm 10]
    rfl
  rw [hfold, Nat.ofDigitChars_toDigits (by decide) (by decide)]

theorem isDigit_of_mem_toDigits {n : Nat} {c : Char} (h : c ∈ Nat.toDigits 10 n) :
    isDigit c = true := by
  have := Nat.isDigit_of_mem_toDigits (by decide) (by decide) h
  simpa [isDigit, Char.isDigit, Char.le_def] using this

theorem exists_toDigits (n : Nat) : ∃ d ds, Nat.toDigits 10 n = d :: ds ∧ isDigit d = true := by
  obtain ⟨d, ds, hd⟩ := List.exists_cons_of_ne_nil (Nat.toDigits_ne_nil (n := n) (b := 10))
  exact ⟨d, ds, hd, isDigit_of_mem_toDigits (hd ▸ List.mem_cons_self)⟩

/-- A number other than zero has no leading zero. -/
theorem head?_toDigits_ne_zero (n : Nat) (h : n ≠ 0) : (Nat.toDigits 10 n).head? ≠ some '0' := by
  induction n using Nat.strongRecOn with
  | ind n ih =>
    rcases Nat.lt_or_ge n 10 with hlt | hge
    · rw [Nat.toDigits_of_lt_base hlt, List.head?_cons, ne_eq, Option.some.injEq,
        Nat.digitChar_eq_zero]
      exact h
    · rw [Nat.toDigits_of_base_le (by decide) hge, List.head?_append,
        Option.or_of_isSome (by simp [Nat.toDigits_ne_nil])]
      exact ih (n / 10) (by omega) (by omega)

theorem digits?_append {ds s : List Char} (hne : ds ≠ []) (hds : ∀ c ∈ ds, isDigit c = true)
    (hs : EndsNumber s) : digits? (ds ++ s) = some (ds, s) := by
  have hstop : s.takeWhile isDigit = [] ∧ s.dropWhile isDigit = s := by
    cases s with
    | nil => exact ⟨rfl, rfl⟩
    | cons c s => simp [(hs c rfl).1]
  simp only [digits?, List.takeWhile_append_of_pos hds, List.dropWhile_append_of_pos hds, hstop,
    List.append_nil]
  simpa using hne

theorem wholePart?_toDigits (n : Nat) {s : List Char} (hs : EndsNumber s) :
    wholePart? (Nat.toDigits 10 n ++ s) = some (Nat.toDigits 10 n, s) := by
  by_cases h : n = 0
  · rw [h]
    rfl
  · unfold wholePart?
    split
    next rest heq =>
      have hhead := head?_toDigits_ne_zero n h
      have hsome : (Nat.toDigits 10 n).head?.isSome := by simp [Nat.toDigits_ne_nil]
      rw [← Option.or_of_isSome hsome, ← List.head?_append, heq] at hhead
      exact absurd rfl hhead
    next => exact digits?_append Nat.toDigits_ne_nil (fun c => isDigit_of_mem_toDigits) hs

theorem fraction?_of_endsNumber {s : List Char} (hs : EndsNumber s) :
    fraction? s = some ([], s) := by
  unfold fraction?
  split
  next => exact absurd rfl (hs '.' rfl).2.1
  next => rfl

theorem exponent?_of_endsNumber {s : List Char} (hs : EndsNumber s) :
    exponent? s = some ([], s) := by
  unfold exponent?
  split
  next => rfl
  next e rest =>
    obtain ⟨-, -, he, hE⟩ := hs e rfl
    rw [if_neg (not_or.2 ⟨he, hE⟩)]

theorem number?_toString (n : Int) {s : List Char} (hs : EndsNumber s) :
    number? ((toString n).toList ++ s) = some (integer n, s) := by
  cases n with
  | ofNat n =>
    show number? (n.repr.toList ++ s) = _
    rw [Nat.toList_repr]
    -- what starts with a digit has no sign
    have hsign (rest : List Char) : Nat.toDigits 10 n ++ s ≠ '-' :: rest := by
      obtain ⟨d, ds, hd, hdigit⟩ := exists_toDigits n
      rw [hd]
      rintro ⟨⟩
      cases hdigit
    simp [number?, wholePart?_toDigits n hs, fraction?_of_endsNumber hs,
      exponent?_of_endsNumber hs, digitsValue_toDigits]
  | negSucc n =>
    have hminus : (toString (Int.negSucc n)).toList = '-' :: Nat.toDigits 10 (n + 1) := by
      rw [← Nat.toList_repr]
      exact String.toList_append
    -- minus one and below has no zero for its only digit
    have hzero : Nat.toDigits 10 (n + 1) ≠ ['0'] := fun h =>
      head?_toDigits_ne_zero (n + 1) (Nat.succ_ne_zero n) (h ▸ rfl)
    rw [hminus, List.cons_append]
    simp [number?, wholePart?_toDigits (n + 1) hs, fraction?_of_endsNumber hs,
      exponent?_of_endsNumber hs, digitsValue_toDigits, hzero, Int.negSucc_eq]

/-! ## Blanks -/

@[simp] theorem skipSpace_cons_of_not {c : Char} (h : isSpace c = false) (s : List Char) :
    skipSpace (c :: s) = c :: s := List.dropWhile_cons_of_neg (by simp [h])

@[simp] theorem skipSpace_newline (level : Nat) (s : List Char) :
    skipSpace (newline level ++ s) = skipSpace s := by
  refine List.dropWhile_append_of_pos fun c hc => ?_
  rcases List.mem_cons.1 hc with rfl | hc
  · rfl
  · rw [List.eq_of_mem_replicate hc]
    rfl

theorem value?_congr {s t : List Char} (h : skipSpace s = skipSpace t) (fuel : Nat) :
    value? fuel s = value? fuel t := by
  cases fuel with
  | zero => rfl
  | succ fuel => rw [value?, value?, h]

theorem endsNumber_newline (level : Nat) (s : List Char) : EndsNumber (newline level ++ s) := by
  rintro c ⟨⟩
  decide

theorem endsNumber_comma (s : List Char) : EndsNumber (',' :: s) := by
  rintro c ⟨⟩
  decide

/-! ## Values -/

/-- A value that its printed form determines: it holds no number that is kept as it was written,
and everything in it can be read. -/
inductive Printable : Json → Prop
  | null : Printable null
  | bool (b : Bool) : Printable (bool b)
  | integer (n : Int) : Printable (integer n)
  | text (t : String) : Printable (text t)
  | array {items : List Json} (h : ∀ v ∈ items, Printable v) : Printable (array items)
  | object {members : List (String × Json)} (h : ∀ m ∈ members, Printable m.2) :
    Printable (object members)

@[simp] theorem printable_text (t : String) : Printable (text t) := .text t

@[simp] theorem printable_object_nil : Printable (object []) := .object fun _ h => nomatch h

@[simp] theorem printable_object_cons {k : String} {v : Json} {members : List (String × Json)} :
    Printable (object ((k, v) :: members)) ↔ Printable v ∧ Printable (object members) := by
  constructor
  · rintro ⟨⟩
    next h =>
      exact ⟨h (k, v) List.mem_cons_self, .object fun m hm => h m (List.mem_cons_of_mem _ hm)⟩
  · rintro ⟨hv, ⟨⟩⟩
    next h => exact .object (List.forall_mem_cons.2 ⟨hv, h⟩)

theorem printable_array_map {α : Type} {write : α → Json} (h : ∀ x, Printable (write x))
    (xs : List α) : Printable (array (xs.map write)) := by
  refine .array fun v hv => ?_
  obtain ⟨x, -, rfl⟩ := List.mem_map.1 hv
  exact h x

/-- The value is read back from its lines at every level, whatever text follows that does not go
on as a number, in twice as many steps as the lines have characters. -/
def ReadsBack (v : Json) : Prop :=
  ∀ (level fuel : Nat) (s : List Char), EndsNumber s →
    2 * (prettyChars level v).length ≤ fuel + 1 →
      value? (fuel + 1) (prettyChars level v ++ s) = some (v, s)

theorem readsBack_null : ReadsBack null := fun _ _ _ _ _ => rfl

theorem readsBack_bool (b : Bool) : ReadsBack (bool b) := by
  cases b
  · exact fun _ _ _ _ _ => rfl
  · exact fun _ _ _ _ _ => rfl

theorem readsBack_text (t : String) : ReadsBack (text t) := by
  intro level fuel s _ _
  have hquote : prettyChars level (text t) ++ s =
      '"' :: (t.toList.flatMap escapeChar ++ '"' :: s) := by
    simp [prettyChars, quoteText]
  rw [hquote, value?, skipSpace_cons_of_not (by decide)]
  simp [stringBody?_escaped]

/-- The first character of an integer is a minus sign or a digit. -/
theorem exists_toString_integer (n : Int) :
    ∃ c cs, (toString n).toList = c :: cs ∧ (c = '-' ∨ isDigit c = true) := by
  cases n with
  | ofNat n =>
    obtain ⟨d, ds, hd, hdigit⟩ := exists_toDigits n
    exact ⟨d, ds, Nat.toList_repr.trans hd, .inr hdigit⟩
  | negSucc n => exact ⟨'-', _, String.toList_append, .inl rfl⟩

theorem isSpace_of_isDigit {c : Char} (h : isDigit c = true) : isSpace c = false := by
  cases hspace : isSpace c with
  | false => rfl
  | true =>
    simp only [isSpace, Bool.or_eq_true, beq_iff_eq] at hspace
    obtain ((rfl | rfl) | rfl) | rfl := hspace <;> cases h

theorem value?_number {c : Char} (hc : c = '-' ∨ isDigit c = true) (fuel : Nat) (s : List Char) :
    value? (fuel + 1) (c :: s) = number? (c :: s) := by
  rcases hc with rfl | hc
  · rfl
  · rw [value?, skipSpace_cons_of_not (isSpace_of_isDigit hc)]
    split
    next h => cases h; cases hc
    next h => cases h; cases hc
    next h => cases h; cases hc
    next h => cases h; rfl
    next h => cases h; rw [if_pos hc]
    next h => cases h

theorem readsBack_integer (n : Int) : ReadsBack (integer n) := by
  intro level fuel s hs _
  obtain ⟨c, cs, hc, hhead⟩ := exists_toString_integer n
  have := number?_toString n hs
  rw [hc, List.cons_append] at this
  rw [prettyChars, hc, List.cons_append, value?_number hhead, this]

/-- No value starts with a blank or like the end of an array. -/
theorem exists_prettyChars {v : Json} (hv : Printable v) (level : Nat) :
    ∃ c cs, prettyChars level v = c :: cs ∧ isSpace c = false ∧ c ≠ ']' := by
  cases hv with
  | null => exact ⟨'n', _, rfl, by decide⟩
  | bool b => cases b <;> exact ⟨_, _, rfl, by decide⟩
  | integer n =>
    obtain ⟨c, cs, hc, hhead⟩ := exists_toString_integer n
    refine ⟨c, cs, hc, ?_⟩
    rcases hhead with rfl | hd
    · decide
    · refine ⟨isSpace_of_isDigit hd, ?_⟩
      rintro rfl
      cases hd
  | text t => exact ⟨'"', _, rfl, by decide⟩
  | @array items h => cases items <;> exact ⟨'[', _, rfl, by decide⟩
  | @object members h => cases members <;> exact ⟨'\x7b', _, rfl, by decide⟩

/-- A value is also read back from behind blanks, with one step to spare. -/
theorem ReadsBack.value?_eq {v : Json} (h : ReadsBack v) (level fuel : Nat) {s t : List Char}
    (hs : EndsNumber s) (ht : skipSpace t = skipSpace (prettyChars level v ++ s))
    (hfuel : 2 * (prettyChars level v).length < fuel) : value? fuel t = some (v, s) := by
  obtain ⟨k, rfl⟩ : ∃ k, fuel = k + 1 := ⟨fuel - 1, by omega⟩
  rw [value?_congr ht]
  exact h level k s hs (by omega)

section Lines

variable {level closing fuel : Nat} {v : Json} {s : List Char}

/-- An item on a line of its own is read, and what follows decides whether it was the last. -/
theorem items?_line (hv : ReadsBack v) (hs : EndsNumber s)
    (hfuel : 2 * (prettyChars level v).length < fuel) :
    items? (fuel + 1) (newline level ++ prettyChars level v ++ s) =
      match skipSpace s with
      | ',' :: rest => (items? fuel rest).map fun r => (v :: r.1, r.2)
      | ']' :: rest => some ([v], rest)
      | _ => none := by
  have hvalue : value? fuel (newline level ++ (prettyChars level v ++ s)) = some (v, s) :=
    hv.value?_eq level fuel hs (skipSpace_newline level _) hfuel
  rw [items?, List.append_assoc, hvalue]
  simp only [Option.bind_eq_bind, Option.bind_some, Option.map_eq_bind]
  rfl

/-- Items that are read back one by one are read back together. -/
theorem items?_prettyItems {items : List Json} (hne : items ≠ [])
    (h : ∀ v ∈ items, ReadsBack v) (hfuel : 2 * (prettyItems level items).length ≤ fuel) :
    items? fuel (prettyItems level items ++ (newline closing ++ ']' :: s)) = some (items, s) := by
  induction items generalizing fuel with
  | nil => exact absurd rfl hne
  | cons v rest ih =>
    have hv := h v List.mem_cons_self
    cases rest with
    | nil =>
      -- the line break in front of an item leaves a step for the item
      simp only [prettyItems, newline, List.length_append, List.length_cons] at hfuel
      obtain ⟨k, rfl⟩ : ∃ k, fuel = k + 1 := ⟨fuel - 1, by omega⟩
      rw [prettyItems, items?_line hv (endsNumber_newline closing _) (by omega)]
      simp [isSpace]
    | cons w rest =>
      simp only [prettyItems, newline, List.length_append, List.length_cons] at hfuel
      obtain ⟨k, rfl⟩ : ∃ k, fuel = k + 1 := ⟨fuel - 1, by omega⟩
      have hrest : items? k _ = _ := ih (List.cons_ne_nil w rest)
        (fun u hu => h u (List.mem_cons_of_mem v hu)) (by omega)
      rw [prettyItems, List.append_assoc, List.cons_append,
        items?_line hv (endsNumber_comma _) (by omega)]
      simp [isSpace, hrest]

/-- A member on a line of its own is read, and what follows decides whether it was the last. -/
theorem members?_line (hv : ReadsBack v) (k : String) (hs : EndsNumber s)
    (hfuel : 2 * (prettyChars level v).length < fuel) :
    members? (fuel + 1) (newline level ++ quoteText k ++ ':' :: ' ' :: prettyChars level v ++ s) =
      match skipSpace s with
      | ',' :: rest => (members? fuel rest).map fun r => ((some k, v) :: r.1, r.2)
      | '\x7d' :: rest => some ([(some k, v)], rest)
      | _ => none := by
  have hname : skipSpace (newline level ++ quoteText k ++ ':' :: ' ' :: prettyChars level v ++ s) =
      '"' :: (k.toList.flatMap escapeChar ++ '"' :: ':' :: ' ' :: (prettyChars level v ++ s)) := by
    rw [List.append_assoc, List.append_assoc, skipSpace_newline]
    simp [quoteText, isSpace]
  have hvalue : value? fuel (' ' :: (prettyChars level v ++ s)) = some (v, s) :=
    hv.value?_eq level fuel hs rfl hfuel
  rw [members?, hname]
  simp only [stringBody?_escaped, Option.bind_eq_bind, Option.bind_some, Option.map_eq_bind,
    skipSpace_cons_of_not (c := ':') (by decide), hvalue]
  rfl

/-- Members that are read back one by one are read back together. -/
theorem members?_prettyMembers {members : List (String × Json)} (hne : members ≠ [])
    (h : ∀ m ∈ members, ReadsBack m.2) (hfuel : 2 * (prettyMembers level members).length ≤ fuel) :
    members? fuel (prettyMembers level members ++ (newline closing ++ '\x7d' :: s)) =
      some (members.map fun m => (some m.1, m.2), s) := by
  induction members generalizing fuel with
  | nil => exact absurd rfl hne
  | cons m rest ih =>
    obtain ⟨k, v⟩ := m
    have hv : ReadsBack v := h (k, v) List.mem_cons_self
    cases rest with
    | nil =>
      simp only [prettyMembers, newline, List.length_append, List.length_cons] at hfuel
      obtain ⟨n, rfl⟩ : ∃ n, fuel = n + 1 := ⟨fuel - 1, by omega⟩
      rw [prettyMembers, members?_line hv k (endsNumber_newline closing _) (by omega)]
      simp [isSpace]
    | cons w rest =>
      simp only [prettyMembers, newline, List.length_append, List.length_cons] at hfuel
      obtain ⟨n, rfl⟩ : ∃ n, fuel = n + 1 := ⟨fuel - 1, by omega⟩
      have hrest : members? n _ = _ := ih (List.cons_ne_nil w rest)
        (fun u hu => h u (List.mem_cons_of_mem _ hu)) (by omega)
      rw [prettyMembers, List.append_assoc, List.cons_append,
        members?_line hv k (endsNumber_comma _) (by omega)]
      simp [isSpace, hrest]

end Lines

theorem objectOf_some (members : List (String × Json)) :
    objectOf (members.map fun m => (some m.1, m.2)) = object members := by
  rw [objectOf, Result.mapM_map_eq_some]
  exact fun _ _ => rfl

/-- Where the array does not close at once, it holds the items that are read. -/
theorem value?_array {fuel : Nat} {items : List Json} {s t : List Char}
    (hopen : ∀ r, skipSpace t ≠ ']' :: r) (h : items? fuel t = some (items, s)) :
    value? (fuel + 1) ('[' :: t) = some (array items, s) := by
  rw [value?, skipSpace_cons_of_not (by decide)]
  -- by `hopen` the branch of the empty array is not taken
  simp only [h]
  rfl

/-- Where the object does not close at once, it holds the members that are read. -/
theorem value?_object {fuel : Nat} {members : List (Option String × Json)} {s t : List Char}
    (hopen : ∀ r, skipSpace t ≠ '\x7d' :: r) (h : members? fuel t = some (members, s)) :
    value? (fuel + 1) ('\x7b' :: t) = some (objectOf members, s) := by
  rw [value?, skipSpace_cons_of_not (by decide)]
  simp only [h]
  rfl

theorem readsBack_array {items : List Json} (hitems : ∀ v ∈ items, Printable v)
    (h : ∀ v ∈ items, ReadsBack v) : ReadsBack (array items) := by
  intro level fuel s _ hfuel
  cases items with
  | nil => rfl
  | cons v rest =>
    simp only [prettyChars, List.length_append, List.length_cons] at hfuel
    rw [prettyChars, List.append_assoc, List.append_assoc, List.cons_append]
    refine value?_array (fun r hr => ?_) (items?_prettyItems (List.cons_ne_nil v rest) h (by omega))
    obtain ⟨c, cs, hc, hspace, hne⟩ := exists_prettyChars (hitems v List.mem_cons_self) (level + 1)
    obtain ⟨t, ht⟩ : ∃ t, prettyItems (level + 1) (v :: rest) =
        newline (level + 1) ++ (c :: cs ++ t) := by
      cases rest with
      | nil => exact ⟨[], by rw [prettyItems, hc, List.append_nil]⟩
      | cons w rest => exact ⟨_, by rw [prettyItems, hc, List.append_assoc]⟩
    rw [ht, List.append_assoc, skipSpace_newline, List.cons_append, List.cons_append,
      skipSpace_cons_of_not hspace] at hr
    exact hne (List.cons.inj hr).1

theorem readsBack_object {members : List (String × Json)} (h : ∀ m ∈ members, ReadsBack m.2) :
    ReadsBack (object members) := by
  intro level fuel s _ hfuel
  cases members with
  | nil => rfl
  | cons m rest =>
    simp only [prettyChars, List.length_append, List.length_cons] at hfuel
    rw [prettyChars, List.append_assoc, List.append_assoc, List.cons_append, ← objectOf_some]
    refine value?_object (fun r hr => ?_)
      (members?_prettyMembers (List.cons_ne_nil m rest) h (by omega))
    obtain ⟨t, ht⟩ : ∃ t, prettyMembers (level + 1) (m :: rest) =
        newline (level + 1) ++ ('"' :: t) := by
      cases rest with
      | nil => exact ⟨_, by rw [prettyMembers, List.append_assoc]; rfl⟩
      | cons w rest => exact ⟨_, by rw [prettyMembers, List.append_assoc, List.append_assoc]; rfl⟩
    rw [ht, List.append_assoc, skipSpace_newline, List.cons_append,
      skipSpace_cons_of_not (by decide)] at hr
    cases hr

theorem Printable.readsBack {v : Json} (hv : Printable v) : ReadsBack v := by
  induction hv with
  | null => exact readsBack_null
  | bool b => exact readsBack_bool b
  | integer n => exact readsBack_integer n
  | text t => exact readsBack_text t
  | array hitems ih => exact readsBack_array hitems ih
  | object _ ih => exact readsBack_object ih

/-- A printed value is a document that holds the value. -/
theorem parse?_pretty {v : Json} (hv : Printable v) : parse? v.pretty = some v := by
  have hread := hv.readsBack 0 (2 * (prettyChars 0 v).length + 1) [] (by rintro c ⟨⟩) (by omega)
  rw [List.append_nil] at hread
  rw [parse?, pretty, String.toList_ofList, hread]
  rfl

end BusDoc.Json
