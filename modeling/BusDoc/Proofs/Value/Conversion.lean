import BusDoc.Value.Convert
import Mathlib.Data.List.Forall2

/-!
# What a conversion keeps

* `Alike`: values that say the same in different kinds: a number at two widths, a text and a path,
  bytes and an array of bytes.
* `inRange_eq_some_iff`: an integer is read as the number that it stands for, if that is in range.
  `read?_eq_some_iff_of_range` says so of the five integer types at once.
* `read?_toVariant`: what was wrapped as a value reads as itself.
* `alike_of_read?`: what was read is alike to what it was read from.
* `exists_read?_iff`: which types an integer is read at.
* `convert_alike`: the same of conversions, and what a failure says.
-/

namespace BusDoc

/-- The least and the greatest number of an integer type. -/
def FieldType.range? : FieldType → Option (Int × Int)
  | byte => some (0, 255)
  | int16 => some (-32768, 32767)
  | uint16 => some (0, 65535)
  | int32 => some (-2147483648, 2147483647)
  | uint32 => some (0, 4294967295)
  | _ => none

namespace Variant

/-- The values in a sequence. Bytes count as a list of byte values. -/
def items? : Variant → Option (List Variant)
  | bytes b => some (b.map byte)
  | array items => some items
  | _ => none

/-- The values are equal, or integers of the same number, or texts with the same characters, or
sequences of values that are alike one by one. -/
inductive Alike : Variant → Variant → Prop
  | refl (v : Variant) : Alike v v
  | integer {v w : Variant} {n : Int} :
      v.asInteger? = some n → w.asInteger? = some n → Alike v w
  | text {v w : Variant} {s : String} : v.asText? = some s → w.asText? = some s → Alike v w
  | items {v w : Variant} {xs ys : List Variant} :
      v.items? = some xs → w.items? = some ys → List.Forall₂ Alike xs ys → Alike v w

/-! ## Numbers in range -/

section InRange

variable {α : Type} {lo hi : Int}

/-- The reading of a number at a type whose numbers are those from `lo` up to, but not including,
`hi`. -/
theorem inRange_eq_some_iff (ofInt : Int → α) (toInt : α → Int)
    (hto : ∀ n, lo ≤ n → n < hi → toInt (ofInt n) = n) (hof : ∀ x, ofInt (toInt x) = x)
    (hbounds : ∀ x, lo ≤ toInt x ∧ toInt x < hi) {n : Option Int} {x : α} :
    (n.bind fun n => if lo ≤ n ∧ n < hi then some (ofInt n) else none) = some x ↔
      n = some (toInt x) := by
  constructor
  · intro h
    obtain ⟨n, rfl, hread⟩ := Option.bind_eq_some_iff.1 h
    by_cases hn : lo ≤ n ∧ n < hi
    · rw [if_pos hn] at hread
      rw [← Option.some.inj hread, hto n hn.1 hn.2]
    · rw [if_neg hn] at hread
      cases hread
  · rintro rfl
    rw [Option.bind_some, if_pos (hbounds x), hof]

theorem exists_inRange_iff {n : Int} {ofInt : Int → α} :
    (∃ x, ((some n).bind fun n => if lo ≤ n ∧ n < hi then some (ofInt n) else none) = some x) ↔
      lo ≤ n ∧ n < hi := by
  rw [Option.bind_some]
  split <;> simp [*]

end InRange

/-- At an integer type, a value is read as the number that it stands for. -/
theorem read?_eq_some_iff_of_range {t : FieldType} {lo hi : Int} (ht : t.range? = some (lo, hi))
    {v : Variant} {x : t.Carrier} :
    v.read? t = some x ↔ v.asInteger? = (t.toVariant x).asInteger? := by
  cases t with
  | byte =>
    exact inRange_eq_some_iff (fun n => UInt8.ofNat n.toNat) (fun x => (x.toNat : Int))
      (fun n h₀ h₁ => by rw [UInt8.toNat_ofNat']; omega) (fun x => UInt8.ofNat_toNat)
      (fun x => by have := x.toNat_lt; omega)
  | int16 =>
    exact inRange_eq_some_iff Int16.ofInt Int16.toInt (fun n => Int16.toInt_ofInt_of_le)
      Int16.ofInt_toInt (fun x => ⟨x.le_toInt, x.toInt_lt⟩)
  | uint16 =>
    exact inRange_eq_some_iff (fun n => UInt16.ofNat n.toNat) (fun x => (x.toNat : Int))
      (fun n h₀ h₁ => by rw [UInt16.toNat_ofNat']; omega) (fun x => UInt16.ofNat_toNat)
      (fun x => by have := x.toNat_lt; omega)
  | int32 =>
    exact inRange_eq_some_iff Int32.ofInt Int32.toInt (fun n => Int32.toInt_ofInt_of_le)
      Int32.ofInt_toInt (fun x => ⟨x.le_toInt, x.toInt_lt⟩)
  | uint32 =>
    exact inRange_eq_some_iff (fun n => UInt32.ofNat n.toNat) (fun x => (x.toNat : Int))
      (fun n h₀ h₁ => by rw [UInt32.toNat_ofNat']; omega) (fun x => UInt32.ofNat_toNat)
      (fun x => by have := x.toNat_lt; omega)
  | bool | string | path | bytes | array | strings | paths | dict | variant => cases ht

/-! ## Lists of values -/

theorem mapAll?_eq_some_iff {α : Type} {f : Variant → Option α} {vs : List Variant}
    {xs : List α} : mapAll? f vs = some xs ↔ List.Forall₂ (fun x v => f v = some x) xs vs := by
  induction vs generalizing xs with
  | nil => cases xs <;> simp [mapAll?]
  | cons v vs ih =>
    rw [mapAll?]
    constructor
    · intro h
      obtain ⟨x, hx, hrest⟩ := Option.bind_eq_some_iff.1 h
      obtain ⟨ys, hys, hcons⟩ := Option.bind_eq_some_iff.1 hrest
      rw [← Option.some.inj hcons]
      exact .cons hx (ih.1 hys)
    · rintro (_ | ⟨hx, hxs⟩)
      rw [hx, ih.2 hxs]
      rfl

theorem mapAll?_map {α : Type} {f : Variant → Option α} {g : α → Variant}
    (h : ∀ x, f (g x) = some x) (xs : List α) : mapAll? f (xs.map g) = some xs := by
  rw [mapAll?_eq_some_iff, List.forall₂_map_right_iff]
  exact List.forall₂_same.2 fun x _ => h x

/-- Values that are read one by one are alike to what was read. -/
theorem forall₂_alike {α : Type} {f : Variant → Option α} {g : α → Variant}
    (h : ∀ x v, f v = some x → Alike (g x) v) {vs : List Variant} {xs : List α}
    (hxs : mapAll? f vs = some xs) : List.Forall₂ Alike (xs.map g) vs := by
  rw [List.forall₂_map_left_iff]
  exact (mapAll?_eq_some_iff.1 hxs).imp h

/-! ## Reading -/

theorem read?_toVariant (t : FieldType) (x : t.Carrier) : (t.toVariant x).read? t = some x := by
  cases t with
  | byte | int16 | uint16 | int32 | uint32 => exact (read?_eq_some_iff_of_range rfl).2 rfl
  | strings => exact mapAll?_map (f := asText?) (g := str) (fun _ => rfl) x
  | paths =>
    exact mapAll?_map (f := fun v => v.asText?.map ObjectPath.mk) (g := path) (fun _ => rfl) x
  | bool | string | path | bytes | array | dict | variant => rfl

theorem alike_of_asText? {v : Variant} {s : String} (h : v.asText? = some s) :
    Alike (str s) v := .text rfl h

theorem alike_of_asPath? {v : Variant} {p : ObjectPath}
    (h : v.asText?.map ObjectPath.mk = some p) : Alike (path p) v := by
  obtain ⟨s, hs, rfl⟩ := Option.map_eq_some_iff.1 h
  exact .text rfl hs

theorem alike_of_read?_of_range {t : FieldType} {lo hi : Int} (ht : t.range? = some (lo, hi))
    {v : Variant} {x : t.Carrier} (h : v.read? t = some x) : Alike (t.toVariant x) v := by
  have hv := (read?_eq_some_iff_of_range ht).1 h
  cases hn : (t.toVariant x).asInteger? with
  | none => cases t <;> cases ht <;> cases hn
  | some n => exact .integer hn (hv.trans hn)

theorem alike_of_read? {t : FieldType} {v : Variant} {x : t.Carrier} (h : v.read? t = some x) :
    Alike (t.toVariant x) v := by
  cases t with
  | byte | int16 | uint16 | int32 | uint32 => exact alike_of_read?_of_range rfl h
  | string => exact alike_of_asText? h
  | path => exact alike_of_asPath? h
  | bool =>
    cases v <;> cases h
    exact .refl _
  | dict =>
    cases v <;> cases h
    exact .refl _
  | variant =>
    cases h
    exact .refl _
  | bytes =>
    cases v with
    | bytes b =>
      cases h
      exact .refl _
    | array vs =>
      refine .items rfl rfl (forall₂_alike (fun x v hx => ?_) h)
      exact alike_of_read?_of_range (t := .byte) rfl hx
    | _ => cases h
  | array =>
    cases v with
    | array vs =>
      cases h
      exact .refl _
    | bytes b =>
      cases h
      exact .items rfl rfl (List.forall₂_same.2 fun _ _ => .refl _)
    | _ => cases h
  | strings =>
    cases v with
    | array vs => exact .items rfl rfl (forall₂_alike (fun _ _ => alike_of_asText?) h)
    | _ => cases h
  | paths =>
    cases v with
    | array vs => exact .items rfl rfl (forall₂_alike (fun _ _ => alike_of_asPath?) h)
    | _ => cases h

/-- At an integer type, an integer is read if its number is in the range of the type. -/
theorem exists_read?_iff_of_range {t : FieldType} {lo hi n : Int}
    (ht : t.range? = some (lo, hi)) {v : Variant} (hn : v.asInteger? = some n) :
    (∃ x, v.read? t = some x) ↔ lo ≤ n ∧ n ≤ hi := by
  cases t with
  | byte | int16 | uint16 | int32 | uint32 =>
    cases ht
    simp only [read?, asByte?, asInt16?, asUInt16?, asInt32?, asUInt32?, hn]
    exact exists_inRange_iff.trans (by omega)
  | bool | string | path | bytes | array | strings | paths | dict | variant => cases ht

theorem read?_eq_none_of_integer {t : FieldType} (ht : t.range? = none) (hv : t ≠ .variant)
    {v : Variant} {n : Int} (hn : v.asInteger? = some n) : v.read? t = none := by
  cases v with
  | byte | int16 | uint16 | int32 | uint32 =>
    cases t with
    | byte | int16 | uint16 | int32 | uint32 => cases ht
    | variant => exact absurd rfl hv
    | bool | string | path | bytes | array | strings | paths | dict => rfl
  | bool | str | bytes | path | array | dict => cases hn

/-! ## Conversion -/

theorem convert_eq_ok {t : FieldType} {v : Variant} {x : t.Carrier} :
    v.convert t = .ok x ↔ v.read? t = some x := by
  unfold convert
  cases v.read? t <;> simp

/-- **Conversions keep the value.** What was wrapped as a value converts back to itself. What a
value converts to is alike to it. An integer converts to the integer types whose range its number
is in, whatever its own type is, and to no other type but that of all values. A conversion that
fails names the type and the kind of the whole value. -/
theorem convert_alike (t : FieldType) (v : Variant) :
    (∀ x, (t.toVariant x).convert t = .ok x) ∧
    (∀ x, v.convert t = .ok x → Alike (t.toVariant x) v) ∧
    (∀ n, v.asInteger? = some n →
      ((∃ x, v.convert t = .ok x) ↔
        match t.range? with
        | some (lo, hi) => lo ≤ n ∧ n ≤ hi
        | none => t = .variant)) ∧
    ∀ e, v.convert t = .error e → e = .conversion t v.kind := by
  refine ⟨fun x => convert_eq_ok.2 (read?_toVariant t x),
    fun x h => alike_of_read? (convert_eq_ok.1 h), fun n hn => ?_, fun e h => ?_⟩
  · simp only [convert_eq_ok]
    split
    next lo hi ht => exact exists_read?_iff_of_range ht hn
    next ht =>
      constructor
      · rintro ⟨x, hx⟩
        by_contra hv
        rw [read?_eq_none_of_integer ht hv hn] at hx
        cases hx
      · rintro rfl
        exact ⟨v, rfl⟩
  · unfold convert at h
    split at h
    next => cases h
    next =>
      cases h
      rfl

/-- An array of numbers of other widths converts to bytes, and is alike to them. -/
theorem convert_alike_mixedWidths :
    (array [uint32 7, int16 255]).convert .bytes = .ok ([7, 255] : List UInt8) ∧
      Alike (bytes [7, 255]) (array [uint32 7, int16 255]) := by
  have hread : mapAll? asByte? [uint32 7, int16 255] = some [7, 255] := by decide +kernel
  have h : (array [uint32 7, int16 255]).convert .bytes = .ok ([7, 255] : List UInt8) :=
    convert_eq_ok.2 hread
  exact ⟨h, (convert_alike .bytes _).2.1 _ h⟩

end Variant

end BusDoc
