import BusDoc.Proofs.Bus.Watching

/-!
# The hierarchy of objects

A path lies below the root, below itself, and below every path that it goes on from with a slash
(`isBelow_iff`). On the paths that begin with a slash this is a partial order in which the paths
above a given one form a chain.

- **Order** (`isBelow_hierarchy`): going on from a path is transitive and makes the path longer, and
  of the absolute paths only the root has the root below it (`IsAbsolute.eq_root_of_isBelow`).
- **Children** (`children_below_iff`): a child of a path that ends in a slash gets no second one, so
  nothing tells it from a longer name. Such a path, the root apart, is not above its children, and
  a watch on it misses their events.
-/

namespace BusDoc

open Text

namespace ObjectPath

/-- `p` goes on with a slash where `base` ends. -/
def IsInside (p base : ObjectPath) : Prop :=
  ∃ rest, p.text.toList = base.text.toList ++ '/' :: rest

/-- The path begins with a slash. -/
def IsAbsolute (p : ObjectPath) : Prop := p.text.toList.head? = some '/'

instance (p : ObjectPath) : Decidable p.IsAbsolute :=
  inferInstanceAs (Decidable (p.text.toList.head? = some '/'))

variable {p q r : ObjectPath}

theorem ext_toList (h : p.text.toList = q.text.toList) : p = q :=
  congrArg mk (String.toList_inj.1 h)

/-- The three ways to lie below a path. -/
theorem isBelow_iff : p.isBelow q = true ↔ q = root ∨ p = q ∨ p.IsInside q := by
  rw [isBelow, Bool.or_eq_true, Bool.or_eq_true, decide_eq_true_iff, decide_eq_true_iff, or_assoc]
  refine or_congr_right (or_congr_right ⟨fun h => ?_, ?_⟩)
  · split at h
    next rest hrest =>
      obtain ⟨tail, rfl⟩ := List.head?_eq_some_iff.1 (of_decide_eq_true h)
      exact ⟨tail, after?_eq_some_iff.1 hrest⟩
    next => cases h
  · rintro ⟨rest, hrest⟩
    rw [after?_eq_some_iff.2 hrest]
    rfl

theorem isBelow_root (p : ObjectPath) : p.isBelow root = true := isBelow_iff.2 (.inl rfl)

theorem isBelow_refl (p : ObjectPath) : p.isBelow p = true := isBelow_iff.2 (.inr (.inl rfl))

theorem IsInside.isBelow (h : p.IsInside q) : p.isBelow q = true := isBelow_iff.2 (.inr (.inr h))

/-! ## Order -/

theorem IsInside.length_lt (h : p.IsInside q) : q.text.toList.length < p.text.toList.length := by
  obtain ⟨rest, h⟩ := h
  rw [h, List.length_append, List.length_cons]
  omega

theorem IsInside.trans (h : p.IsInside q) (h' : q.IsInside r) : p.IsInside r := by
  obtain ⟨s, h⟩ := h
  obtain ⟨t, h'⟩ := h'
  exact ⟨t ++ '/' :: s, by rw [h, h', List.append_assoc, List.cons_append]⟩

theorem IsInside.starts (h : p.IsInside q) : q.text.toList <+: p.text.toList := by
  obtain ⟨rest, h⟩ := h
  exact ⟨'/' :: rest, h.symm⟩

/-- Of two paths that a path is inside of, the longer is the shorter or inside of it. -/
theorem IsInside.of_starts (hq : p.IsInside q) (hr : p.IsInside r)
    (h : q.text.toList <+: r.text.toList) : r = q ∨ r.IsInside q := by
  obtain ⟨rest, hq⟩ := hq
  obtain ⟨rest', hr⟩ := hr
  obtain ⟨t, ht⟩ := h
  cases t with
  | nil => exact .inl (ext_toList (by rw [← ht, List.append_nil]))
  | cons c t =>
    -- behind `q` both go on like `p`, with a slash
    rw [hr, ← ht, List.append_assoc, List.append_cancel_left_eq, List.cons_append] at hq
    obtain ⟨rfl, -⟩ := List.cons.inj hq
    exact .inr ⟨t, ht.symm⟩

/-- Of the absolute paths only the root has the root below it. -/
theorem IsAbsolute.eq_root_of_isBelow (hq : q.IsAbsolute) (h : root.isBelow q = true) :
    q = root := by
  obtain h | h | ⟨rest, h⟩ := isBelow_iff.1 h
  · exact h
  · exact h.symm
  · obtain ⟨tail, htail⟩ := List.head?_eq_some_iff.1 hq
    rw [htail] at h
    simp [root] at h

theorem isBelow_trans (hr : r.IsAbsolute) (h : p.isBelow q = true) (h' : q.isBelow r = true) :
    p.isBelow r = true := by
  obtain rfl | rfl | h := isBelow_iff.1 h
  · rw [hr.eq_root_of_isBelow h']
    exact isBelow_root p
  · exact h'
  · obtain rfl | rfl | h' := isBelow_iff.1 h'
    · exact isBelow_root p
    · exact h.isBelow
    · exact (h.trans h').isBelow

theorem isBelow_antisymm (hp : p.IsAbsolute) (hq : q.IsAbsolute) (h : p.isBelow q = true)
    (h' : q.isBelow p = true) : p = q := by
  obtain rfl | rfl | h := isBelow_iff.1 h
  · exact hp.eq_root_of_isBelow h'
  · rfl
  · obtain rfl | rfl | h' := isBelow_iff.1 h'
    · exact (hq.eq_root_of_isBelow h.isBelow).symm
    · rfl
    · have hpq := h.length_lt
      have hqp := h'.length_lt
      omega

theorem isBelow_comparable (hq : p.isBelow q = true) (hr : p.isBelow r = true) :
    q.isBelow r = true ∨ r.isBelow q = true := by
  obtain rfl | rfl | hq := isBelow_iff.1 hq
  · exact .inr (isBelow_root r)
  · exact .inl hr
  · obtain rfl | rfl | hr := isBelow_iff.1 hr
    · exact .inl (isBelow_root q)
    · exact .inr hq.isBelow
    · rcases List.prefix_or_prefix_of_prefix hq.starts hr.starts with h | h
      · obtain rfl | h := hq.of_starts hr h
        · exact .inl (isBelow_refl r)
        · exact .inr h.isBelow
      · obtain rfl | h := hr.of_starts hq h
        · exact .inl (isBelow_refl q)
        · exact .inl h.isBelow

/-- **The hierarchy of objects.** On the absolute paths, to lie below a path is a partial order, and
the paths that one lies below are comparable. -/
theorem isBelow_hierarchy :
    (∀ p : ObjectPath, p.IsAbsolute → p.isBelow p) ∧
    (∀ p q r : ObjectPath, p.IsAbsolute → q.IsAbsolute → r.IsAbsolute →
      p.isBelow q → q.isBelow r → p.isBelow r) ∧
    (∀ p q : ObjectPath, p.IsAbsolute → q.IsAbsolute → p.isBelow q → q.isBelow p → p = q) ∧
    ∀ p q r : ObjectPath, p.IsAbsolute → q.IsAbsolute → r.IsAbsolute →
      p.isBelow q → p.isBelow r → q.isBelow r ∨ r.isBelow q :=
  ⟨fun p _ => isBelow_refl p, fun _ _ _ _ _ hr => isBelow_trans hr,
    fun _ _ hp hq => isBelow_antisymm hp hq, fun _ _ _ _ _ _ => isBelow_comparable⟩

/-- A path with a doubled slash lies below one with a slash at its end, and this below the same
without it. -/
theorem isBelow_hierarchy_slashes :
    (⟨"/org//hci0"⟩ : ObjectPath).isBelow ⟨"/org/"⟩ ∧ (⟨"/org/"⟩ : ObjectPath).isBelow ⟨"/org"⟩ ∧
      (⟨"/org//hci0"⟩ : ObjectPath).isBelow ⟨"/org"⟩ ∧
      ((⟨"/org/"⟩ : ObjectPath).isBelow ⟨"/org"⟩ ∨ (⟨"/org"⟩ : ObjectPath).isBelow ⟨"/org/"⟩) := by
  obtain ⟨-, htrans, -, hchain⟩ := isBelow_hierarchy
  have hchild : (⟨"/org//hci0"⟩ : ObjectPath).isBelow ⟨"/org/"⟩ := by decide
  have hparent : (⟨"/org/"⟩ : ObjectPath).isBelow ⟨"/org"⟩ := by decide
  have habove := htrans ⟨"/org//hci0"⟩ ⟨"/org/"⟩ ⟨"/org"⟩ (by decide) (by decide) (by decide) hchild
    hparent
  exact ⟨hchild, hparent, habove,
    hchain ⟨"/org//hci0"⟩ ⟨"/org/"⟩ ⟨"/org"⟩ (by decide) (by decide) (by decide) hchild habove⟩

/-- The empty path is not absolute, and lies below the root as the root lies below it. -/
example : (⟨""⟩ : ObjectPath).isBelow root = true ∧ root.isBelow ⟨""⟩ = true := by decide

/-! ## Children -/

theorem toList_join (p : ObjectPath) (segment : String) :
    (p.join segment).text.toList =
      p.text.toList ++ (if p.text.toList.getLast? = some '/' then [] else ['/']) ++
        segment.toList.dropWhile (· == '/') :=
  String.toList_ofList

/-- A joined path lies below the path if a slash is put between them, and else only if the path is
the root or stays as it is. -/
theorem isBelow_join_iff {segment : String} :
    (p.join segment).isBelow p = true ↔
      p = root ∨ p.text.toList.getLast? ≠ some '/' ∨ ∀ c ∈ segment.toList, c = '/' := by
  have hjoin := p.toList_join segment
  by_cases hlast : p.text.toList.getLast? = some '/'
  · rw [if_pos hlast, List.append_nil] at hjoin
    have hsame : p.join segment = p ↔ ∀ c ∈ segment.toList, c = '/' := by
      calc p.join segment = p ↔ segment.toList.dropWhile (· == '/') = [] := by
            refine ⟨fun h => ?_, fun h => ext_toList ?_⟩
            · rw [h, List.self_eq_append_right] at hjoin
              exact hjoin
            · rw [hjoin, h, List.append_nil]
        _ ↔ _ := by simp
    have hinside : ¬ (p.join segment).IsInside p := by
      rintro ⟨rest, hrest⟩
      rw [hjoin, List.append_cancel_left_eq] at hrest
      have hhead := List.head?_dropWhile_not (· == '/') segment.toList
      simp [hrest] at hhead
    simp [isBelow_iff, hsame, hinside, hlast]
  · rw [if_neg hlast, List.append_assoc, List.singleton_append] at hjoin
    have hinside : (p.join segment).IsInside p := ⟨_, hjoin⟩
    simp [hinside.isBelow, hlast]

end ObjectPath

/-- A watch on objects gives the events of all objects below its path and no others. -/
theorem Watch.accept_objects_iff {base : ObjectPath} {s : Signal} {e : ObjectEvent}
    (h : ObjectEvent.ofSignal s = .ok (some e)) :
    (objects base).accept s = some (.object e) ↔ e.path.isBelow base = true := by
  rw [accept_eq_some_iff]
  constructor
  · intro haccepts
    cases haccepts with
    | object _ _ hbelow => exact hbelow
  · exact .object (member_of_ofSignal h) h

/-- **Children.** A joined path lies below its base if the base is the root or does not end in a
slash, or if the segment is nothing but slashes, and in no other case. In these cases, and in no
other, a watch on the base gives the events of the object at the joined path. -/
theorem children_below_iff (p : ObjectPath) (segment : String) :
    ((p.join segment).isBelow p ↔
      p = ObjectPath.root ∨ p.text.toList.getLast? ≠ some '/' ∨ ∀ c ∈ segment.toList, c = '/') ∧
    ∀ s e, ObjectEvent.ofSignal s = .ok (some e) → e.path = p.join segment →
      ((Watch.objects p).accept s = some (.object e) ↔ (p.join segment).isBelow p) := by
  refine ⟨ObjectPath.isBelow_join_iff, fun s e hs he => ?_⟩
  rw [← he]
  exact Watch.accept_objects_iff hs

/-- The signal that an object without interfaces is there. -/
def appeared (path : ObjectPath) : Signal :=
  ⟨⟨"/"⟩, "org.freedesktop.DBus.ObjectManager", interfacesAdded, [.path path, .dict []]⟩

theorem children_below_iff_adapter :
    ((⟨"/org/bluez"⟩ : ObjectPath).join "/hci0").isBelow ⟨"/org/bluez"⟩ ∧
      (Watch.objects ⟨"/org/bluez"⟩).accept (appeared ⟨"/org/bluez/hci0"⟩) =
        some (.object (.added ⟨"/org/bluez/hci0"⟩ (OrderedMap.ofList []))) := by
  obtain ⟨hjoin, hwatch⟩ := children_below_iff ⟨"/org/bluez"⟩ "/hci0"
  have hbelow := hjoin.2 (.inr (.inl (by decide)))
  exact ⟨hbelow, (hwatch (appeared ⟨"/org/bluez/hci0"⟩) _ rfl (by decide)).2 hbelow⟩

/-- A child of a path with a slash at its end. -/
theorem child_missed_trailingSlash :
    (⟨"/org/bluez/"⟩ : ObjectPath).join "hci0" = ⟨"/org/bluez/hci0"⟩ ∧
      (⟨"/org/bluez/hci0"⟩ : ObjectPath).isBelow ⟨"/org/bluez/"⟩ = false ∧
      (Watch.objects ⟨"/org/bluez/"⟩).accept (appeared ⟨"/org/bluez/hci0"⟩) = none :=
  ⟨by decide, by decide, by rfl⟩

end BusDoc
