import BusDoc.Proofs.Binding.Claims
import BusDoc.Proofs.Binding.Places

/-!
# Members of a client

A module has one field and at most two accessors for every property, one function for every method,
and one function and one constant for every signal of its interface.

* `isReserved_append`: a beginning that no reserved word has makes a name that is not reserved.
* `ClientModule.Exposes`: what the module of an interface has for its members, under which names.
* `exposes_of_clientModule`: every module does.
-/

namespace BusDoc.Binding

open Result Text

/-! ## Names -/

/-- A name that an item may have: an identifier that is no reserved word. -/
structure IsItemName (name : String) : Prop where
  identifier : isIdentifier name.toList = true
  free : isReserved name.toList = false

theorem isItemName_ofList {s : List Char} (hident : isIdentifier s = true)
    (hfree : isReserved s = false) : IsItemName (String.ofList s) :=
  ⟨by rwa [String.toList_ofList], by rwa [String.toList_ofList]⟩

theorem isReserved_append {front : List Char}
    (h : ∀ w ∈ reservedWords, startsWith front w.toList = false) (s : List Char) :
    isReserved (front ++ s) = false := by
  rw [isReserved, List.any_eq_false]
  intro w hw heq
  have hstarts : startsWith front w.toList = true := by
    rw [beq_iff_eq.1 heq, startsWith, after?_eq_some_iff.2 rfl]
    rfl
  rw [h w hw] at hstarts
  cases hstarts

theorem isReserved_fieldIdent (name : List Char) : isReserved (fieldIdent name) = false :=
  isReserved_unreserve _

/-- The names of the functions that do not come from members. -/
def fixedFnNames (i : Interface) : List String :=
  ["new"] ++ (if i.scopedToAdapter then ["from_adapter_id"] else []) ++
    ["path", "interface", "client", "properties", "refresh_properties", "watch_properties"] ++
    (if i.rootsHierarchy then ["watch_objects"] else []) ++ ["close"]

/-- The names of the accessors of a property. -/
def accessorNames (p : Property) : List (List Char) :=
  (if p.flags.readOnly || p.flags.readWrite then [getterName p] else []) ++
    if p.flags.readWrite then [setterName p] else []

/-- The names of the functions of members. -/
def memberNames (i : Interface) : List (List Char) :=
  i.properties.values.flatMap accessorNames ++ i.methods.map (fun m => fieldIdent m.name.toList) ++
    i.signals.map watchName

/-- The names of the functions that a client has for an interface. -/
def functionNames (i : Interface) : List String :=
  fixedFnNames i ++ (memberNames i).map String.ofList

theorem map_name_memberDrafts (i : Interface) :
    (memberDrafts i).map Draft.name = memberNames i := by
  have hproperty (p : Property) : (propertyDrafts p).map Draft.name = accessorNames p := by
    rw [propertyDrafts_eq, accessorNames, List.map_append]
    split <;> split <;> rfl
  rw [memberDrafts, memberNames, List.map_append, List.map_append, List.map_flatMap,
    List.map_map, List.map_map]
  simp only [hproperty]
  rfl

theorem map_name_memberFns (i : Interface) :
    (memberFns i).map FnDecl.name = (memberNames i).map String.ofList := by
  have hproperty (p : Property) :
      (accessorsOf p).map FnDecl.name = (accessorNames p).map String.ofList := by
    rw [accessorsOf, accessorNames, List.map_append, List.map_append]
    split <;> split <;> rfl
  rw [memberFns, memberNames, List.map_append, List.map_append, List.map_flatMap, List.map_append,
    List.map_append, List.map_flatMap, List.map_map, List.map_map, List.map_map, List.map_map]
  simp only [hproperty]
  rfl

theorem map_name_fixedFns (i : Interface) (record : String) :
    (fixedFns i record).map FnDecl.name = fixedFnNames i := by
  rw [fixedFns, fixedFnNames]
  split <;> split <;> rfl

theorem nodup_fixedFnNames (i : Interface) : (fixedFnNames i).Nodup := by
  rw [fixedFnNames]
  split <;> split <;> decide

theorem fixedFnNames_subset (i : Interface) : fixedFnNames i ⊆ fixedNames := by
  rw [fixedFnNames]
  split <;> split <;> decide

theorem isItemName_fixed {name : String} (h : name ∈ fixedNames) : IsItemName name := by
  have hall : ∀ name ∈ fixedNames,
      isIdentifier name.toList = true ∧ isReserved name.toList = false := by decide
  exact ⟨(hall name h).1, (hall name h).2⟩

/-- No function of a member is named by a reserved word. -/
theorem not_isReserved_memberNames {i : Interface} {name : List Char} (h : name ∈ memberNames i) :
    isReserved name = false := by
  have hget (s : List Char) : isReserved ("get_".toList ++ s) = false :=
    isReserved_append (by decide) s
  have hset (s : List Char) : isReserved ("set_".toList ++ s) = false :=
    isReserved_append (by decide) s
  have hwatch (s : List Char) : isReserved ("watch_".toList ++ s) = false :=
    isReserved_append (by decide) s
  simp only [memberNames, List.mem_append, List.mem_flatMap, List.mem_map] at h
  rcases h with (⟨p, -, hname⟩ | ⟨m, -, rfl⟩) | ⟨s, -, rfl⟩
  · rcases List.mem_append.1 hname with hname | hname
    · split at hname
      next => exact List.mem_singleton.1 hname ▸ hget _
      next => cases hname
    · split at hname
      next => exact List.mem_singleton.1 hname ▸ hset _
      next => cases hname
  · exact isReserved_fieldIdent _
  · exact hwatch _

/-! ## Parameters -/

/-- Parameters with different names that are usable. -/
structure AreParams (ps : List Param) : Prop where
  nodup : (ps.map Param.name).Nodup
  usable : ∀ p ∈ ps, IsItemName p.name

theorem areParams_paramOf {args : List Arg}
    (h : Claims (isIdentifier · = true) [] (args.map argIdent)) : AreParams (args.map paramOf) := by
  constructor
  · have hnames : (args.map paramOf).map Param.name = (args.map argIdent).map String.ofList := by
      rw [List.map_map, List.map_map]
      rfl
    rw [hnames]
    exact h.nodup.map fun s t hst => String.ofList_injective hst
  · intro p hp
    obtain ⟨a, ha, rfl⟩ := List.mem_map.1 hp
    exact isItemName_ofList (h.fit _ (List.mem_map_of_mem ha)) (isReserved_fieldIdent _)

theorem areParams_fixed {i : Interface} {record : String} {f : FnDecl}
    (h : f ∈ fixedFns i record) : AreParams f.params := by
  have hlist : ∀ ps ∈ [(newFn {}).params, fromAdapterFn.params, []],
      (ps.map Param.name).Nodup ∧
        ∀ p ∈ ps, isIdentifier p.name.toList = true ∧ isReserved p.name.toList = false := by
    decide
  have hmem : f.params ∈ [(newFn {}).params, fromAdapterFn.params, []] := by
    simp only [fixedFns, commonFns, List.mem_append, List.mem_cons, List.not_mem_nil,
      or_false] at h
    rcases h with (((rfl | h) | h) | h) | rfl
    · exact List.mem_cons_self
    · split at h
      next => simp [List.mem_singleton.1 h]
      next => cases h
    · rcases h with rfl | rfl | rfl | rfl | rfl | rfl <;> simp
    · split at h
      next => simp [List.mem_singleton.1 h, watchObjectsFn]
      next => cases h
    · simp [closeFn]
  exact ⟨(hlist _ hmem).1, fun p hp => ⟨((hlist _ hmem).2 p hp).1, ((hlist _ hmem).2 p hp).2⟩⟩

theorem areParams_member {i : Interface}
    (h : ∀ m ∈ i.methods, Claims (isIdentifier · = true) [] (m.args.map argIdent)) {f : FnDecl}
    (hf : f ∈ memberFns i) : AreParams f.params := by
  have hnone : AreParams [] := ⟨List.nodup_nil, by simp⟩
  have hvalue : IsItemName "value" := ⟨by decide, by decide⟩
  simp only [memberFns, List.mem_append, List.mem_flatMap, List.mem_map] at hf
  rcases hf with (⟨p, -, hf⟩ | ⟨m, hm, rfl⟩) | ⟨s, -, rfl⟩
  · rcases List.mem_append.1 hf with hf | hf
    · split at hf
      next => exact List.mem_singleton.1 hf ▸ hnone
      next => cases hf
    · split at hf
      next =>
        rw [List.mem_singleton.1 hf]
        exact ⟨List.nodup_singleton _, fun q hq => List.mem_singleton.1 hq ▸ hvalue⟩
      next => cases hf
  · exact areParams_paramOf (h m hm)
  · exact hnone

/-! ## Constants -/

/-- Of constants with different names, one has the name of each. -/
theorem filter_name_of_mem {cs : List ConstDecl} (h : (cs.map ConstDecl.name).Nodup)
    {c : ConstDecl} (hc : c ∈ cs) : cs.filter (fun d => d.name = c.name) = [c] := by
  induction cs with
  | nil => cases hc
  | cons d ds ih =>
    obtain ⟨hd, hds⟩ := List.nodup_cons.1 h
    rcases List.mem_cons.1 hc with rfl | hc
    · have hrest : ds.filter (fun d => d.name = c.name) = [] := by
        rw [List.filter_eq_nil_iff]
        intro e he hname
        exact hd (of_decide_eq_true hname ▸ List.mem_map_of_mem he)
      rw [List.filter_cons_of_pos (by simp), hrest]
    · have hne : d.name ≠ c.name := fun e => hd (e ▸ List.mem_map_of_mem hc)
      rw [List.filter_cons_of_neg (by simpa using hne), ih hds hc]

/-- The constants that do not come from signals have no name of one that does. -/
theorem filter_headerConstants (o : RenderOptions) (i : Interface) (s : SignalDecl) :
    (headerConstants o i).filter (fun c => c.name = signalConst s) = [] := by
  have hother : ∀ name ∈ ["INTERFACE", "SERVICE", "OBJECT_PATH", "PATH_PREFIX"],
      name ≠ signalConst s := by
    have hstart : ∀ name ∈ ["INTERFACE", "SERVICE", "OBJECT_PATH", "PATH_PREFIX"],
        startsWith "SIGNAL_".toList name.toList = false := by decide
    rintro name hname rfl
    have hsignal : startsWith "SIGNAL_".toList (signalConst s).toList = true := by
      rw [signalConst, String.toList_append, startsWith, after?_eq_some_iff.2 rfl]
      rfl
    rw [hstart _ hname] at hsignal
    cases hsignal
  rw [List.filter_eq_nil_iff]
  intro c hc
  have hname : c.name ∈ ["INTERFACE", "SERVICE", "OBJECT_PATH", "PATH_PREFIX"] := by
    simp only [headerConstants, List.mem_append, List.mem_cons, List.not_mem_nil, or_false] at hc
    rcases hc with ((rfl | rfl) | hc) | hc
    · simp
    · simp
    · split at hc
      next => cases hc
      next => simp [List.mem_singleton.1 hc]
    · split at hc
      next => simp [List.mem_singleton.1 hc]
      next => cases hc
  simpa using hother c.name hname

/-! ## Modules -/

/-- The module has the functions, fields and constants of the members of the interface, each once
and under a usable name. -/
structure ClientModule.Exposes (m : ClientModule) (i : Interface) : Prop where
  functions : m.client.functions = fixedFns i m.record.name ++ memberFns i
  names : m.client.functions.map FnDecl.name = functionNames i
  nodup : (functionNames i).Nodup
  usable : ∀ name ∈ functionNames i, IsItemName name
  params : ∀ f ∈ m.client.functions, AreParams f.params
  fields : m.record.fields = i.properties.values.map fieldOf
  nodup_fields : (m.record.fields.map FieldDecl.name).Nodup
  usable_fields : ∀ f ∈ m.record.fields, IsItemName f.name
  constants : ∀ s ∈ i.signals, m.constants.filter (fun c => c.name = signalConst s) = [constOf s]

theorem exposes_of_clientModule {o : RenderOptions} {i : Interface} {m : ClientModule}
    (h : clientModule o i = .ok m) : m.Exposes i := by
  obtain ⟨-, signals, fields, members, hsignals, hfields, hmembers, rfl⟩ := clientModule_eq_ok.1 h
  obtain ⟨hconsts, rfl⟩ := signalConstants_eq_ok_iff.1 hsignals
  obtain ⟨hidents, rfl⟩ := recordFields_eq_ok_iff.1 hfields
  obtain ⟨hclaims, hparams, rfl⟩ := claimAll_memberDrafts_eq_ok_iff.1 hmembers
  rw [map_name_memberDrafts] at hclaims
  have hnames : (fixedFns i (i.shortName ++ "Properties") ++ memberFns i).map FnDecl.name =
      functionNames i := by
    rw [List.map_append, map_name_fixedFns, map_name_memberFns]
    rfl
  have hmember : ∀ name ∈ memberNames i, String.ofList name ∉ fixedNames := by
    intro name hname hfixed
    refine hclaims.free name hname ?_
    rw [takenNames, List.map_append]
    refine List.mem_append_left _ (List.mem_map.2 ⟨_, hfixed, ?_⟩)
    rw [String.toList_ofList]
  constructor
  case functions => rfl
  case names => exact hnames
  case nodup =>
    rw [functionNames, List.nodup_append]
    refine ⟨nodup_fixedFnNames i, hclaims.nodup.map fun s t hst => String.ofList_injective hst, ?_⟩
    rintro x hx y hy rfl
    obtain ⟨name, hname, rfl⟩ := List.mem_map.1 hy
    exact hmember name hname (fixedFnNames_subset i hx)
  case usable =>
    intro name hname
    rcases List.mem_append.1 hname with hname | hname
    · exact isItemName_fixed (fixedFnNames_subset i hname)
    · obtain ⟨s, hs, rfl⟩ := List.mem_map.1 hname
      exact isItemName_ofList (hclaims.fit s hs) (not_isReserved_memberNames hs)
  case params =>
    intro f hf
    rcases List.mem_append.1 hf with hf | hf
    · exact areParams_fixed hf
    · exact areParams_member hparams hf
  case fields => rfl
  case nodup_fields =>
    have hmap : (i.properties.values.map fieldOf).map FieldDecl.name =
        (i.properties.values.map propertyIdent).map String.ofList := by
      rw [List.map_map, List.map_map]
      rfl
    show ((i.properties.values.map fieldOf).map FieldDecl.name).Nodup
    rw [hmap]
    exact hidents.nodup.map fun s t hst => String.ofList_injective hst
  case usable_fields =>
    intro f hf
    obtain ⟨p, hp, rfl⟩ := List.mem_map.1 hf
    exact isItemName_ofList (hidents.fit _ (List.mem_map_of_mem hp)) (isReserved_fieldIdent _)
  case constants =>
    intro s hs
    have hnodup : ((i.signals.map constOf).map ConstDecl.name).Nodup := by
      rw [List.map_map]
      exact hconsts.nodup
    show (headerConstants o i ++ i.signals.map constOf).filter _ = _
    rw [List.filter_append, filter_headerConstants, List.nil_append]
    exact filter_name_of_mem hnodup (List.mem_map_of_mem hs)

end BusDoc.Binding
