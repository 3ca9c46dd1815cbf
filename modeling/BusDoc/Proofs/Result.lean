import Mathlib.Data.List.Forall2

/-!
# Steps that can fail

* `bind_eq_ok`, `mapError_eq_ok`: where a result comes from.
* `bind_eq_error`, `mapError_eq_error`: where a failure comes from.
* `foldlM_cons_eq_ok`, `foldlM_cons_eq_error`: the state that a run passes through after its first
  step, or its failure there.
* `foldlM_eq_error_iff`: a failed run has a first step that fails.
* `foldlM_flatMap`: a loop of loops is one loop.
* `foldlM_induction`: what every step of a run keeps, the elements read so far at hand.
* `map_bind_congr`: runs whose steps look alike look alike.
* `exists_of_forall₂`: where the results are in step with the elements, each element has its result.
* `forall₂_of_mapM_ok`, `mem_of_mapM_ok`: the results of a run over a list are in step with it.
* `mapM_eq_ok`, `mapM_eq_error`: a run over a list gives all results, or the first fault met.
* `mapM_eq_some`, `mapM_map_eq_some`: a run over a list without a fault, in particular one that
  undoes what was done to every element.
-/

namespace BusDoc.Result

variable {ε δ α β σ : Type}

theorem bind_eq_ok {x : Except ε α} {f : α → Except ε β} {b : β} :
    (x >>= f) = .ok b ↔ ∃ a, x = .ok a ∧ f a = .ok b := by
  constructor
  · intro h
    cases x with
    | error e => cases h
    | ok a => exact ⟨a, rfl, h⟩
  · rintro ⟨a, rfl, h⟩
    exact h

theorem bind_eq_error {x : Except ε α} {f : α → Except ε β} {e : ε} :
    (x >>= f) = .error e ↔ x = .error e ∨ ∃ a, x = .ok a ∧ f a = .error e := by
  cases x with
  | error e' => simp [bind, Except.bind]
  | ok a => simp [bind, Except.bind]

theorem mapError_eq_ok {x : Except ε α} {f : ε → δ} {a : α} :
    x.mapError f = .ok a ↔ x = .ok a := by
  cases x with
  | error e => constructor <;> intro h <;> cases h
  | ok b => constructor <;> intro h <;> cases h <;> rfl

theorem mapError_eq_error {x : Except ε α} {f : ε → δ} {e : δ} :
    x.mapError f = .error e ↔ ∃ e', x = .error e' ∧ f e' = e := by
  cases x with
  | error e' => simp [Except.mapError]
  | ok b => simp [Except.mapError]

theorem pure_eq_ok {a b : α} : (pure a : Except ε α) = .ok b ↔ a = b :=
  ⟨fun h => by cases h; rfl, fun h => h ▸ rfl⟩

/-- Two runs look alike through `k` when their first steps look alike through `g`, and their other
steps do whenever the first ones did. -/
theorem map_bind_congr {γ : Type} {x y : Except ε α} {f h : α → Except ε β} {g : α → γ}
    {k : β → δ} (hx : x.map g = y.map g)
    (hf : ∀ a b, g a = g b → (f a).map k = (h b).map k) :
    (x >>= f).map k = (y >>= h).map k := by
  cases x with
  | error e =>
    cases y with
    | error e' => cases hx; rfl
    | ok b => cases hx
  | ok a =>
    cases y with
    | error e => cases hx
    | ok b => exact hf a b (Except.ok.inj hx)

theorem foldlM_nil_eq_ok {f : σ → α → Except ε σ} {s t : σ} :
    [].foldlM f s = .ok t ↔ s = t := pure_eq_ok

theorem foldlM_cons_eq_ok {f : σ → α → Except ε σ} {s t : σ} {x : α} {xs : List α} :
    (x :: xs).foldlM f s = .ok t ↔ ∃ u, f s x = .ok u ∧ xs.foldlM f u = .ok t := by
  rw [List.foldlM_cons, bind_eq_ok]

theorem foldlM_cons_eq_error {f : σ → α → Except ε σ} {s : σ} {x : α} {xs : List α} {e : ε} :
    (x :: xs).foldlM f s = .error e ↔
      f s x = .error e ∨ ∃ u, f s x = .ok u ∧ xs.foldlM f u = .error e := by
  rw [List.foldlM_cons, bind_eq_error]

/-- A run fails at the first step that does. -/
theorem foldlM_eq_error_iff {f : σ → α → Except ε σ} {s : σ} {xs : List α} {e : ε} :
    xs.foldlM f s = .error e ↔
      ∃ before x after t, xs = before ++ x :: after ∧ before.foldlM f s = .ok t ∧
        f t x = .error e := by
  constructor
  · induction xs generalizing s with
    | nil => exact nofun
    | cons y ys ih =>
      intro h
      rcases foldlM_cons_eq_error.1 h with h | ⟨u, hu, h⟩
      · exact ⟨[], y, ys, s, rfl, rfl, h⟩
      · obtain ⟨before, x, after, t, rfl, ht, hx⟩ := ih h
        exact ⟨y :: before, x, after, t, rfl, foldlM_cons_eq_ok.2 ⟨u, hu, ht⟩, hx⟩
  · rintro ⟨before, x, after, t, rfl, ht, hx⟩
    rw [List.foldlM_append, ht]
    exact foldlM_cons_eq_error.2 (.inl hx)

theorem foldlM_flatMap {f : σ → β → Except ε σ} {g : α → List β} {xs : List α} {s : σ} :
    (xs.flatMap g).foldlM f s = xs.foldlM (fun t x => (g x).foldlM f t) s := by
  induction xs generalizing s with
  | nil => rfl
  | cons x xs ih =>
    rw [List.flatMap_cons, List.foldlM_append, List.foldlM_cons]
    simp only [ih]

/-- What holds at the start of a run and is kept by its steps holds at its end. -/
theorem foldlM_induction {f : σ → α → Except ε σ} {P : List α → σ → Prop} {s t : σ}
    {xs : List α} (hstart : P [] s)
    (hstep : ∀ {done x s t}, P done s → f s x = .ok t → P (done ++ [x]) t)
    (h : xs.foldlM f s = .ok t) : P xs t := by
  suffices ∀ {done ys s}, P done s → ys.foldlM f s = .ok t → P (done ++ ys) t from
    this hstart h
  intro done ys
  induction ys generalizing done with
  | nil =>
    intro s hp hf
    rw [foldlM_nil_eq_ok] at hf
    rwa [List.append_nil, ← hf]
  | cons y ys ih =>
    intro s hp hf
    obtain ⟨u, hu, hf⟩ := foldlM_cons_eq_ok.1 hf
    have := ih (hstep hp hu) hf
    rwa [List.append_assoc, List.singleton_append] at this

theorem exists_of_forall₂ {R : α → β → Prop} {xs : List α} {ys : List β} {x : α}
    (h : List.Forall₂ R xs ys) (hx : x ∈ xs) : ∃ y ∈ ys, R x y := by
  induction h with
  | nil => cases hx
  | cons hr _ ih =>
    rcases List.mem_cons.1 hx with rfl | hx
    · exact ⟨_, List.mem_cons_self, hr⟩
    · obtain ⟨y, hy, hr⟩ := ih hx
      exact ⟨y, List.mem_cons_of_mem _ hy, hr⟩

/-- A run over a list has a result for each of its elements. -/
theorem forall₂_of_mapM_ok {f : α → Except ε β} {xs : List α} {ys : List β}
    (h : xs.mapM f = .ok ys) : List.Forall₂ (fun x y => f x = .ok y) xs ys := by
  induction xs generalizing ys with
  | nil =>
    cases h
    exact .nil
  | cons x xs ih =>
    rw [List.mapM_cons] at h
    obtain ⟨y, hy, h⟩ := bind_eq_ok.1 h
    obtain ⟨ys, hys, h⟩ := bind_eq_ok.1 h
    cases h
    exact .cons hy (ih hys)

/-- Each result of a run over a list comes from one of its elements. -/
theorem mem_of_mapM_ok {f : α → Except ε β} {xs : List α} {ys : List β} {y : β}
    (h : xs.mapM f = .ok ys) (hy : y ∈ ys) : ∃ x ∈ xs, f x = .ok y :=
  exists_of_forall₂ (forall₂_of_mapM_ok h).flip hy

/-- The fault of a failed step. -/
def fault? : Except ε α → Option ε
  | .error e => some e
  | .ok _ => none

theorem mapM_eq_ok {f : α → Except ε β} {xs : List α}
    (h : xs.filterMap (fun x => fault? (f x)) = []) :
    xs.mapM f = .ok (xs.filterMap fun x => (f x).toOption) := by
  induction xs with
  | nil => rfl
  | cons x xs ih =>
    rw [List.mapM_cons]
    cases hx : f x with
    | error e => simp [fault?, hx] at h
    | ok y =>
      rw [List.filterMap_cons, hx] at h
      rw [ih h, List.filterMap_cons, hx]
      rfl

theorem mapM_eq_error {f : α → Except ε β} {xs : List α} {e : ε} {es : List ε}
    (h : xs.filterMap (fun x => fault? (f x)) = e :: es) : xs.mapM f = .error e := by
  induction xs with
  | nil => cases h
  | cons x xs ih =>
    rw [List.mapM_cons]
    cases hx : f x with
    | error e' =>
      rw [List.filterMap_cons, hx] at h
      cases h
      rfl
    | ok y =>
      rw [List.filterMap_cons, hx] at h
      rw [ih h]
      rfl

theorem mapM_eq_some {f : α → Option β} {g : α → β} {xs : List α}
    (h : ∀ x ∈ xs, f x = some (g x)) : xs.mapM f = some (xs.map g) := by
  induction xs with
  | nil => rfl
  | cons x xs ih =>
    rw [List.mapM_cons, h x List.mem_cons_self, ih fun y hy => h y (List.mem_cons_of_mem x hy)]
    rfl

theorem mapM_map_eq_some {f : β → Option α} {g : α → β} {xs : List α}
    (h : ∀ x ∈ xs, f (g x) = some x) : (xs.map g).mapM f = some xs := by
  have hid : xs.mapM (f ∘ g) = some (xs.map id) := mapM_eq_some h
  rw [List.mapM_map, hid, List.map_id]

end BusDoc.Result
