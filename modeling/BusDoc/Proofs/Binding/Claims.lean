import BusDoc.Proofs.Binding.ModuleParts

/-!
# Claimed names

The names of a module are claimed one after the other: each must be fit for its place, and none may
have been claimed before. Fields, parameters, constants and functions are made in loops that do so
and differ in what they make of a name.

* `claims_cons`: the first name is claimed, and then the others beside it.
* `ClaimsEach.eq_ok_iff`: such a loop ends well exactly if the names can be claimed and each element
  can be made something of.
* `recordFields_eq_ok_iff`, `params_eq_ok_iff`, `signalConstants_eq_ok_iff`: when fields, parameters
  and constants can be made, and which.
* `claimAll_memberDrafts_eq_ok_iff`: the functions of a client.
-/

namespace BusDoc.Binding

open Result Text

variable {κ ε α β : Type}

/-- The names can be claimed in order where others are taken. -/
structure Claims (fit : κ → Prop) (taken names : List κ) : Prop where
  fit : ∀ k ∈ names, fit k
  free : ∀ k ∈ names, k ∉ taken
  nodup : names.Nodup

theorem claims_nil (fit : κ → Prop) (taken : List κ) : Claims fit taken [] :=
  ⟨fun _ hk => absurd hk List.not_mem_nil, fun _ hk => absurd hk List.not_mem_nil, List.nodup_nil⟩

theorem claims_cons {fit : κ → Prop} {taken names : List κ} {k : κ} :
    Claims fit taken (k :: names) ↔ fit k ∧ k ∉ taken ∧ Claims fit (k :: taken) names := by
  constructor
  · rintro ⟨hfit, hfree, hnodup⟩
    obtain ⟨hk, hnames⟩ := List.nodup_cons.1 hnodup
    refine ⟨hfit k List.mem_cons_self, hfree k List.mem_cons_self,
      fun x hx => hfit x (List.mem_cons_of_mem _ hx), fun x hx hmem => ?_, hnames⟩
    rcases List.mem_cons.1 hmem with rfl | hmem
    · exact hk hx
    · exact hfree x (List.mem_cons_of_mem _ hx) hmem
  · rintro ⟨hk, htaken, hfit, hfree, hnodup⟩
    refine ⟨List.forall_mem_cons.2 ⟨hk, hfit⟩, List.forall_mem_cons.2 ⟨htaken, fun x hx hmem => ?_⟩,
      List.nodup_cons.2 ⟨fun hmem => ?_, hnodup⟩⟩
    · exact hfree x hx (List.mem_cons_of_mem _ hmem)
    · exact hfree k hmem List.mem_cons_self

/-- What is made behind the two checks of a name is made if the name passes both. -/
theorem checked_eq_ok {fit : Bool} {taken : Prop} [Decidable taken] {e e' : ε} {x : Except ε β}
    {b : β} :
    (if !fit then .error e else if taken then .error e' else x) = .ok b ↔
      fit = true ∧ ¬ taken ∧ x = .ok b := by
  cases fit with
  | false => simp
  | true => by_cases h : taken <;> simp [h]

/-- The loop claims the name of each element beside those that are taken, and makes something of
the element. -/
structure ClaimsEach (loop : List κ → List α → Except ε (List β)) (fit : κ → Prop) (name : α → κ)
    (make : α → Except ε β) : Prop where
  nil : ∀ taken, loop taken [] = .ok []
  cons : ∀ taken x xs ys, loop taken (x :: xs) = .ok ys ↔
    fit (name x) ∧ name x ∉ taken ∧ ∃ y, make x = .ok y ∧
      ∃ rest, loop (name x :: taken) xs = .ok rest ∧ y :: rest = ys

theorem ClaimsEach.eq_ok_iff {loop : List κ → List α → Except ε (List β)} {fit : κ → Prop}
    {name : α → κ} {make : α → Except ε β} (h : ClaimsEach loop fit name make) {taken : List κ}
    {xs : List α} {ys : List β} :
    loop taken xs = .ok ys ↔
      Claims fit taken (xs.map name) ∧ List.Forall₂ (fun x y => make x = .ok y) xs ys := by
  induction xs generalizing taken ys with
  | nil =>
    rw [h.nil]
    constructor
    · rintro ⟨⟩
      exact ⟨claims_nil _ _, .nil⟩
    · rintro ⟨-, ⟨⟩⟩
      rfl
  | cons x xs ih =>
    rw [h.cons, List.map_cons, claims_cons]
    constructor
    · rintro ⟨hfit, htaken, y, hy, rest, hrest, rfl⟩
      obtain ⟨hclaims, hmade⟩ := ih.1 hrest
      exact ⟨⟨hfit, htaken, hclaims⟩, .cons hy hmade⟩
    · rintro ⟨⟨hfit, htaken, hclaims⟩, hmade⟩
      cases hmade with
      | cons hy hrest => exact ⟨hfit, htaken, _, hy, _, ih.2 ⟨hclaims, hrest⟩, rfl⟩

/-- A loop that can always make what it makes of an element. -/
theorem ClaimsEach.eq_ok_iff_map {loop : List κ → List α → Except ε (List β)} {fit : κ → Prop}
    {name : α → κ} {make : α → β} (h : ClaimsEach loop fit name fun x => .ok (make x))
    {taken : List κ} {xs : List α} {ys : List β} :
    loop taken xs = .ok ys ↔ Claims fit taken (xs.map name) ∧ ys = xs.map make := by
  have hmade : List.Forall₂ (fun x y => Except.ok (ε := ε) (make x) = .ok y) xs ys ↔
      ys = xs.map make := by
    simp only [Except.ok.injEq]
    rw [← List.forall₂_map_left_iff (R := (· = ·)), List.forall₂_eq_eq_eq, eq_comm]
  rw [h.eq_ok_iff, hmade]

/-! ## Fields, parameters and constants -/

theorem claimsEach_recordFields :
    ClaimsEach recordFields (isIdentifier · = true) propertyIdent fun p => .ok (fieldOf p) where
  nil _ := rfl
  cons taken p ps fields := by
    rw [recordFields_cons, checked_eq_ok]
    simp only [bind_eq_ok, pure_eq_ok, Except.ok.injEq, exists_eq_left']

theorem recordFields_eq_ok_iff {taken : List (List Char)} {ps : List Property}
    {fields : List FieldDecl} :
    recordFields taken ps = .ok fields ↔
      Claims (isIdentifier · = true) taken (ps.map propertyIdent) ∧ fields = ps.map fieldOf :=
  claimsEach_recordFields.eq_ok_iff_map

/-- The identifier of an argument. -/
def argIdent (a : Arg) : List Char := fieldIdent a.name.toList

/-- The parameter of an argument. -/
def paramOf (a : Arg) : Param := ⟨String.ofList (argIdent a), a.docType.fieldType.spelling⟩

theorem claimsEach_params (member : String) :
    ClaimsEach (params member) (isIdentifier · = true) argIdent fun a => .ok (paramOf a) where
  nil _ := rfl
  cons taken a args ps := by
    rw [params, checked_eq_ok]
    simp only [bind_eq_ok, pure_eq_ok, Except.ok.injEq, exists_eq_left', argIdent, paramOf]

theorem params_eq_ok_iff {member : String} {taken : List (List Char)} {args : List Arg}
    {ps : List Param} :
    params member taken args = .ok ps ↔
      Claims (isIdentifier · = true) taken (args.map argIdent) ∧ ps = args.map paramOf :=
  (claimsEach_params member).eq_ok_iff_map

/-- The constant of a signal. -/
def constOf (s : SignalDecl) : ConstDecl := { name := signalConst s, value := s.name }

theorem claimsEach_signalConstants :
    ClaimsEach signalConstants (fun _ => True) signalConst fun s => .ok (constOf s) where
  nil _ := rfl
  cons taken s ss constants := by
    rw [signalConstants]
    by_cases htaken : signalConst s ∈ taken
    · simp [htaken]
    · rw [if_neg htaken]
      simp only [bind_eq_ok, pure_eq_ok, Except.ok.injEq, exists_eq_left', true_and, htaken,
        not_false_eq_true, constOf]

theorem signalConstants_eq_ok_iff {taken : List String} {ss : List SignalDecl}
    {constants : List ConstDecl} :
    signalConstants taken ss = .ok constants ↔
      Claims (fun _ => True) taken (ss.map signalConst) ∧ constants = ss.map constOf :=
  claimsEach_signalConstants.eq_ok_iff_map

/-! ## Functions -/

/-- The draft gives the function. -/
def Draft.Gives (d : Draft) (f : FnDecl) : Prop := d.decl = .ok f

theorem claimsEach_claimAll :
    ClaimsEach claimAll (isIdentifier · = true) Draft.name Draft.decl where
  nil _ := rfl
  cons taken d ds fs := by
    rw [claimAll, checked_eq_ok]
    simp only [bind_eq_ok, pure_eq_ok]

/-- The accessors of a property. -/
def accessorsOf (p : Property) : List FnDecl :=
  (if p.flags.readOnly || p.flags.readWrite then [getterOf p] else []) ++
    if p.flags.readWrite then [setterOf p] else []

/-- The wrapper of a method, with one parameter per argument. -/
def methodFn (m : Method) : FnDecl := wrapperOf m (m.args.map paramOf)

/-- The functions of the members of an interface. -/
def memberFns (i : Interface) : List FnDecl :=
  i.properties.values.flatMap accessorsOf ++ i.methods.map methodFn ++ i.signals.map watchOf

theorem gives_methodDraft_iff {m : Method} {f : FnDecl} :
    (methodDraft m).Gives f ↔
      Claims (isIdentifier · = true) [] (m.args.map argIdent) ∧ f = methodFn m := by
  rw [Draft.Gives, methodDraft_eq]
  simp only [bind_eq_ok, pure_eq_ok, params_eq_ok_iff]
  constructor
  · rintro ⟨ps, ⟨hps, rfl⟩, rfl⟩
    exact ⟨hps, rfl⟩
  · rintro ⟨hps, rfl⟩
    exact ⟨_, ⟨hps, rfl⟩, rfl⟩

theorem gives_propertyDrafts (p : Property) :
    List.Forall₂ Draft.Gives (propertyDrafts p) (accessorsOf p) := by
  rw [propertyDrafts_eq, accessorsOf]
  refine List.rel_append ?_ ?_
  · split
    next => exact .cons rfl .nil
    next => exact .nil
  · split
    next => exact .cons rfl .nil
    next => exact .nil

theorem gives_memberDrafts {i : Interface}
    (h : ∀ m ∈ i.methods, Claims (isIdentifier · = true) [] (m.args.map argIdent)) :
    List.Forall₂ Draft.Gives (memberDrafts i) (memberFns i) := by
  refine List.rel_append (List.rel_append ?_ ?_) ?_
  · induction i.properties.values with
    | nil => exact .nil
    | cons p ps ih => exact List.rel_append (gives_propertyDrafts p) ih
  · rw [List.forall₂_map_left_iff, List.forall₂_map_right_iff, List.forall₂_same]
    exact fun m hm => gives_methodDraft_iff.2 ⟨h m hm, rfl⟩
  · rw [List.forall₂_map_left_iff, List.forall₂_map_right_iff, List.forall₂_same]
    exact fun s _ => rfl

/-- No two lists of functions come from the same drafts. -/
theorem gives_unique {ds : List Draft} {fs gs : List FnDecl}
    (hf : List.Forall₂ Draft.Gives ds fs) (hg : List.Forall₂ Draft.Gives ds gs) : fs = gs := by
  induction hf generalizing gs with
  | nil =>
    cases hg
    rfl
  | cons hf _ ih =>
    cases hg with
    | cons hg hgs => rw [Except.ok.inj (hf.symm.trans hg), ih hgs]

theorem claimAll_memberDrafts_eq_ok_iff {taken : List (List Char)} {i : Interface}
    {fs : List FnDecl} :
    claimAll taken (memberDrafts i) = .ok fs ↔
      Claims (isIdentifier · = true) taken ((memberDrafts i).map Draft.name) ∧
        (∀ m ∈ i.methods, Claims (isIdentifier · = true) [] (m.args.map argIdent)) ∧
        fs = memberFns i := by
  rw [claimsEach_claimAll.eq_ok_iff]
  refine and_congr_right fun _ => ⟨fun hfs => ?_, ?_⟩
  · have hparams : ∀ m ∈ i.methods, Claims (isIdentifier · = true) [] (m.args.map argIdent) := by
      intro m hm
      have hmem : methodDraft m ∈ memberDrafts i :=
        List.mem_append_left _ (List.mem_append_right _ (List.mem_map_of_mem hm))
      obtain ⟨f, -, hf⟩ := exists_of_forall₂ hfs hmem
      exact (gives_methodDraft_iff.1 hf).1
    exact ⟨hparams, gives_unique hfs (gives_memberDrafts hparams)⟩
  · rintro ⟨hparams, rfl⟩
    exact gives_memberDrafts hparams

end BusDoc.Binding
