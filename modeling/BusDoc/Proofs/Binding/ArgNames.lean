import BusDoc.Proofs.Binding.Claims
import BusDoc.Proofs.Binding.Footprint
import BusDoc.Proofs.Binding.SnakeCase
import BusDoc.Proofs.Doc.SignatureLine
import Mathlib.Data.List.Nodup

/-!
# Names of arguments

An argument that is written without a name is called after its number. Such names are distinct among
themselves, but nothing keeps an author from writing one of them.

* `nodup_numbered_iff`: when names are distinct of which the missing ones are filled in by number.
* `fieldIdent_defaultName`: the name that is filled in is an identifier as it stands.
* `generate_eq_argTwice`: if modules are not generated for an argument that is given twice, a method
  has two arguments of its identifier.
* `entryAs_argNames`: names that are filled in clash with written ones only, and when they do.
-/

namespace BusDoc

/-- The arguments of the member that an entry describes; a property has none. -/
def Entry.args : Entry → List Arg
  | property _ => []
  | method m => m.args
  | signal s => s.args

namespace Binding

open Doc Text

/-! ## Filled in by number -/

section Numbered

variable {κ : Type} {default : Nat → κ} {names : List (Option κ)} {first n : Nat}

/-- The names, where one that is missing is made of its number; the first one has number `first`. -/
def numbered (default : Nat → κ) : (first : Nat) → List (Option κ) → List κ
  | _, [] => []
  | first, name :: names => name.getD (default first) :: numbered default (first + 1) names

/-- The numbers of the missing names, that of the first name being `first`. -/
def missing : (first : Nat) → List (Option κ) → List Nat
  | _, [] => []
  | first, some _ :: names => missing (first + 1) names
  | first, none :: names => first :: missing (first + 1) names

theorem le_of_mem_missing (h : n ∈ missing first names) : first ≤ n := by
  induction names generalizing first with
  | nil => cases h
  | cons name names ih =>
    cases name with
    | some _ => exact Nat.le_of_succ_le (ih h)
    | none =>
      obtain rfl | h := List.mem_cons.1 h
      · exact Nat.le_refl _
      · exact Nat.le_of_succ_le (ih h)

theorem nodup_missing (first : Nat) (names : List (Option κ)) : (missing first names).Nodup := by
  induction names generalizing first with
  | nil => exact List.nodup_nil
  | cons name names ih =>
    cases name with
    | some _ => exact ih _
    | none =>
      exact List.nodup_cons.2 ⟨fun h => absurd (le_of_mem_missing h) (Nat.not_succ_le_self _), ih _⟩

/-- The names are the given ones and those that are filled in. -/
theorem numbered_perm (default : Nat → κ) (first : Nat) (names : List (Option κ)) :
    (numbered default first names).Perm
      (names.filterMap id ++ (missing first names).map default) := by
  induction names generalizing first with
  | nil => exact .refl _
  | cons name names ih =>
    cases name with
    | some _ => exact (ih _).cons _
    | none => exact ((ih _).cons _).trans List.perm_middle.symm

/-- The names are distinct if the given ones are and none of these is one that is filled in. -/
theorem nodup_numbered_iff (hdefault : Function.Injective default) :
    (numbered default first names).Nodup ↔ (names.filterMap id).Nodup ∧
      ∀ n ∈ missing first names, default n ∉ names.filterMap id := by
  rw [(numbered_perm default first names).nodup_iff, List.nodup_append']
  simp only [(nodup_missing first names).map hdefault, true_and]
  refine and_congr_right fun _ => ⟨fun h n hn hgiven => ?_, fun h x hgiven hx => ?_⟩
  · exact h hgiven (List.mem_map_of_mem hn)
  · obtain ⟨n, hn, rfl⟩ := List.mem_map.1 hx
    exact h n hn hgiven

/-- What is filled in and stands there twice is also given. -/
theorem mem_given_of_count [BEq κ] [LawfulBEq κ] (hdefault : Function.Injective default)
    {x : κ} (h : 1 < (numbered default first names).count x) : x ∈ names.filterMap id := by
  have honce := List.nodup_iff_count_le_one.1 ((nodup_missing first names).map hdefault) x
  rw [(numbered_perm default first names).count_eq, List.count_append] at h
  exact List.count_pos_iff.1 (by omega)

theorem filterMap_map_map {β : Type} (f : κ → β) (names : List (Option κ)) :
    (names.map (Option.map f)).filterMap id = (names.filterMap id).map f := by
  rw [List.filterMap_map, List.map_filterMap]
  rfl

theorem missing_map {β : Type} (f : κ → β) (first : Nat) (names : List (Option κ)) :
    missing first (names.map (Option.map f)) = missing first names := by
  induction names generalizing first with
  | nil => rfl
  | cons name names ih =>
    cases name with
    | some _ => exact ih _
    | none => exact congrArg (first :: ·) (ih _)

end Numbered

/-! ## Written and default names -/

/-- The name that an argument without one gets. -/
def defaultName (n : Nat) : String := s!"arg{n}"

/-- The name that is written in a part of an argument list, if there is one. -/
def writtenName? (part : List Char) : Option String := (typeAndName part).2.map String.ofList

/-- The parts of the argument list of a block. -/
def listParts (text : List Char) : List (List Char) :=
  ((signatureParts? text).map fun p => argParts p.body).getD []

/-- The name that is written for each argument of a block, if there is one. -/
def argNames (text : List Char) : List (Option String) := (listParts text).map writtenName?

/-- The names that are written in the argument list of a block. -/
def writtenNames (text : List Char) : List String := (argNames text).filterMap id

/-- The numbers of the arguments of a block that are written without a name. -/
def unnamedArgs (text : List Char) : List Nat := missing 0 (argNames text)

theorem toList_defaultName (n : Nat) :
    (defaultName n).toList = 'a' :: 'r' :: 'g' :: Nat.toDigits 10 n := by
  have h : defaultName n = "arg" ++ n.repr := rfl
  simp [h]

theorem defaultName_injective : Function.Injective defaultName := by
  intro m n h
  have hlist := congrArg String.toList h
  rw [toList_defaultName, toList_defaultName] at hlist
  simp only [List.cons.injEq, true_and] at hlist
  have hread := congrArg (fun ds => Nat.ofDigitChars 10 ds 0) hlist
  simpa using hread

theorem isSmallAlnum_of_mem_defaultName {n : Nat} {c : Char} (h : c ∈ (defaultName n).toList) :
    isSmallAlnum c = true := by
  rw [toList_defaultName] at h
  simp only [List.mem_cons] at h
  obtain rfl | rfl | rfl | h := h
  · rfl
  · rfl
  · rfl
  · have hdigit := Nat.isDigit_of_mem_toDigits (by decide) (by decide) h
    simpa [isSmallAlnum, isAsciiDigit, Char.isDigit, Char.le_def] using Or.inr hdigit

theorem snakeRest_of_all {b : Bool} {s : List Char} (h : ∀ c ∈ s, isSmallAlnum c = true) :
    SnakeRest b s := by
  induction s generalizing b with
  | nil => exact .nil
  | cons c s ih =>
    obtain ⟨hc, hs⟩ := List.forall_mem_cons.1 h
    exact .letter hc (ih hs)

theorem not_isReserved_defaultName (n : Nat) : isReserved (defaultName n).toList = false := by
  rw [isReserved, List.any_eq_false]
  intro w hw
  -- no reserved word begins like the name
  have hstart : ∀ w ∈ reservedWords, w.toList.take 3 ≠ ['a', 'r', 'g'] := by decide
  have hne : w.toList ≠ (defaultName n).toList := fun e =>
    hstart w hw (by rw [e, toList_defaultName]; rfl)
  simpa using hne

/-- The generator takes the name as it is. -/
theorem fieldIdent_defaultName (n : Nat) :
    fieldIdent (defaultName n).toList = (defaultName n).toList := by
  have hsmall : ∀ c ∈ (defaultName n).toList, isSmallAlnum c = true := fun _ =>
    isSmallAlnum_of_mem_defaultName
  have hsnake : snakeCase (defaultName n).toList = (defaultName n).toList := by
    rw [snakeCase, (snakeRest_of_all (b := false) hsmall).snakeFrom_eq (by simp)]
    have hne : (defaultName n).toList ≠ [] := by simp [toList_defaultName]
    refine dropEndWhile_eq_self (List.getLast?_eq_some_getLast hne) ?_
    have halnum := isAsciiAlnum_of_isSmallAlnum (hsmall _ (List.getLast_mem hne))
    simpa using ne_underscore_of_isAsciiAlnum halnum
  rw [fieldIdent, hsnake, unreserve, not_isReserved_defaultName]
  rfl

theorem map_name_numberArgs (first : Nat) (parts : List (List Char)) :
    (numberArgs first parts).map Arg.name =
      numbered defaultName first (parts.map writtenName?) := by
  induction parts generalizing first with
  | nil => rfl
  | cons part parts ih =>
    rw [numberArgs, List.map_cons, List.map_cons, numbered, ih]
    congr 1
    rw [writtenName?]
    cases (typeAndName part).2 <;> rfl

/-- The arguments of a block are those of its list. -/
theorem args_of_entryAs {b : Block} {form : BlockKind} {e : Entry} (hform : form ≠ .property)
    (hread : b.entryAs form = .ok e) : e.args = numberArgs 0 (listParts b.text) := by
  have hmethod {m : Method} (hm : method? b.text = some m) :
      m.args = numberArgs 0 (listParts b.text) := by
    rw [method?_eq] at hm
    obtain ⟨p, hp, hm⟩ := Option.bind_eq_some_iff.1 hm
    obtain ⟨head, -, rfl⟩ := Option.map_eq_some_iff.1 hm
    rw [listParts, hp]
    rfl
  have hentry : Doc.entryOf? form b.text = some e := by
    rw [Block.entryAs] at hread
    split at hread
    next heq => rw [heq, Except.ok.inj hread]
    next => cases hread
  cases form with
  | property => exact absurd rfl hform
  | method =>
    obtain ⟨m, hm, rfl⟩ := Option.map_eq_some_iff.1 (entryOf?_method b.text ▸ hentry)
    exact hmethod hm
  | signal =>
    obtain ⟨m, hm, rfl⟩ := Option.map_eq_some_iff.1 (entryOf?_signal b.text ▸ hentry)
    exact hmethod hm

theorem map_name_args {b : Block} {form : BlockKind} {e : Entry} (hform : form ≠ .property)
    (hread : b.entryAs form = .ok e) :
    e.args.map Arg.name = numbered defaultName 0 (argNames b.text) := by
  rw [args_of_entryAs hform hread, map_name_numberArgs]
  rfl

/-! ## Identifiers -/

/-- The identifiers of the names that are written in the argument list of a block. -/
def writtenIdents (text : List Char) : List (List Char) :=
  (writtenNames text).map fun name => fieldIdent name.toList

theorem writtenIdents_eq (text : List Char) :
    writtenIdents text =
      ((argNames text).map (Option.map fun name => fieldIdent name.toList)).filterMap id :=
  (filterMap_map_map _ _).symm

theorem map_argIdent_args {b : Block} {form : BlockKind} {e : Entry} (hform : form ≠ .property)
    (hread : b.entryAs form = .ok e) :
    e.args.map argIdent = numbered (fun n => (defaultName n).toList) 0
      ((argNames b.text).map (Option.map fun name => fieldIdent name.toList)) := by
  have hident : e.args.map argIdent =
      (e.args.map Arg.name).map fun name => fieldIdent name.toList := by
    rw [List.map_map]
    rfl
  rw [hident, map_name_args hform hread]
  generalize 0 = first, argNames b.text = names
  induction names generalizing first with
  | nil => rfl
  | cons name names ih =>
    rw [numbered, List.map_cons, ih, List.map_cons, numbered]
    congr 1
    cases name with
    | some name => rfl
    | none => exact fieldIdent_defaultName first

theorem toList_defaultName_injective : Function.Injective fun n => (defaultName n).toList :=
  fun _ _ h => defaultName_injective (String.ext h)

/-- Of an identifier that two arguments have, a name is written. -/
theorem mem_writtenIdents_of_count {b : Block} {form : BlockKind} {e : Entry} {ident : List Char}
    (hform : form ≠ .property) (hread : b.entryAs form = .ok e)
    (h : 1 < (e.args.map argIdent).count ident) : ident ∈ writtenIdents b.text := by
  rw [map_argIdent_args hform hread] at h
  rw [writtenIdents_eq]
  exact mem_given_of_count toList_defaultName_injective h

/-- Where the identifiers of arguments are distinct, no name is written that has the one of a name
that is filled in. -/
theorem not_mem_writtenIdents_of_nodup {b : Block} {form : BlockKind} {e : Entry} {n : Nat}
    (hform : form ≠ .property) (hread : b.entryAs form = .ok e)
    (h : (e.args.map argIdent).Nodup) (hn : n ∈ unnamedArgs b.text) :
    (defaultName n).toList ∉ writtenIdents b.text := by
  rw [map_argIdent_args hform hread, nodup_numbered_iff toList_defaultName_injective,
    missing_map] at h
  rw [writtenIdents_eq]
  exact h.2 n hn

/-! ## Arguments that are given twice -/

section Twice

variable {ident member : String} {taken : List (List Char)}

theorem params_eq_argTwice {name : String} {args : List Arg}
    (h : params name taken args = .error (.argTwice ident member)) :
    name = member ∧ ∃ front a rest, args = front ++ a :: rest ∧
      ident = String.ofList (argIdent a) ∧
        (argIdent a ∈ taken ∨ argIdent a ∈ front.map argIdent) := by
  induction args generalizing taken with
  | nil => cases h
  | cons a args ih =>
    rw [params] at h
    split at h
    next => cases h
    next =>
      split at h
      next htaken =>
        cases h
        exact ⟨rfl, [], a, args, rfl, rfl, .inl htaken⟩
      next =>
        rw [Result.bind_eq_error] at h
        obtain h | ⟨ps, -, h⟩ := h
        · obtain ⟨hname, front, c, rest, rfl, hident, hc⟩ := ih h
          refine ⟨hname, a :: front, c, rest, rfl, hident, ?_⟩
          rw [List.mem_cons, or_assoc] at hc
          rw [List.map_cons, List.mem_cons]
          exact or_left_comm.1 hc
        · cases h

/-- Two arguments of the method have the identifier. -/
def RepeatsArg (m : Method) (ident : String) : Prop :=
  1 < (m.args.map argIdent).count ident.toList

theorem repeatsArg_of_argTwice {m : Method}
    (h : (methodDraft m).decl = .error (.argTwice ident member)) :
    m.name = member ∧ RepeatsArg m ident := by
  rw [methodDraft_eq, Result.bind_eq_error] at h
  obtain h | ⟨ps, -, h⟩ := h
  · obtain ⟨hname, front, a, rest, hargs, rfl, htaken | hfront⟩ := params_eq_argTwice h
    · cases htaken
    · have hpos := List.count_pos_iff.2 hfront
      refine ⟨hname, ?_⟩
      rw [RepeatsArg, hargs, String.toList_ofList, List.map_append, List.count_append,
        List.map_cons, List.count_cons_self]
      omega
  · cases h

/-- Of the drafts of an interface only those of its methods can be faulty. -/
theorem exists_method_of_decl {i : Interface} {d : Draft} {fault : RenderFault}
    (hd : d ∈ memberDrafts i) (h : d.decl = .error fault) : ∃ m ∈ i.methods, methodDraft m = d := by
  rw [memberDrafts, List.mem_append, List.mem_append] at hd
  obtain (hd | hd) | hd := hd
  · obtain ⟨p, -, hd⟩ := List.mem_flatMap.1 hd
    obtain ⟨f, -, hf⟩ := Result.exists_of_forall₂ (gives_propertyDrafts p) hd
    cases hf.symm.trans h
  · exact List.mem_map.1 hd
  · obtain ⟨s, -, rfl⟩ := List.mem_map.1 hd
    cases h

theorem exists_decl_of_argTwice {ds : List Draft}
    (h : claimAll taken ds = .error (.argTwice ident member)) :
    ∃ d ∈ ds, d.decl = .error (.argTwice ident member) := by
  induction ds generalizing taken with
  | nil => cases h
  | cons d ds ih =>
    rw [claimAll] at h
    split at h
    next => cases h
    next =>
      split at h
      next => cases h
      next =>
        obtain h | ⟨f, -, h⟩ := Result.bind_eq_error.1 h
        · exact ⟨d, List.mem_cons_self, h⟩
        · obtain h | ⟨fs, -, h⟩ := Result.bind_eq_error.1 h
          · obtain ⟨d', hd', hdecl⟩ := ih h
            exact ⟨d', List.mem_cons_of_mem d hd', hdecl⟩
          · cases h

theorem signalConstants_ne_argTwice {names : List String} {ss : List SignalDecl} :
    signalConstants names ss ≠ .error (.argTwice ident member) := by
  intro h
  induction ss generalizing names with
  | nil => cases h
  | cons s ss ih =>
    rw [signalConstants] at h
    split at h
    next => cases h
    next =>
      obtain h | ⟨_, -, h⟩ := Result.bind_eq_error.1 h
      · exact ih h
      · cases h

theorem recordFields_ne_argTwice {ps : List Property} :
    recordFields taken ps ≠ .error (.argTwice ident member) := by
  intro h
  induction ps generalizing taken with
  | nil => cases h
  | cons p ps ih =>
    rw [recordFields_cons] at h
    split at h
    next => cases h
    next =>
      split at h
      next => cases h
      next =>
        obtain h | ⟨_, -, h⟩ := Result.bind_eq_error.1 h
        · exact ih h
        · cases h

theorem clientModule_eq_argTwice {o : RenderOptions} {i : Interface}
    (h : clientModule o i = .error (.argTwice ident member)) :
    ∃ m ∈ i.methods, m.name = member ∧ RepeatsArg m ident := by
  cases hident : isIdentifier i.shortName.toList with
  | false =>
    rw [clientModule_of_not_identifier hident] at h
    cases h
  | true =>
    rw [clientModule_eq hident] at h
    obtain h | ⟨signals, -, h⟩ := Result.bind_eq_error.1 h
    · exact absurd h signalConstants_ne_argTwice
    obtain h | ⟨fields, -, h⟩ := Result.bind_eq_error.1 h
    · exact absurd h recordFields_ne_argTwice
    obtain h | ⟨members, -, h⟩ := Result.bind_eq_error.1 h
    · obtain ⟨d, hd, hdecl⟩ := exists_decl_of_argTwice h
      obtain ⟨m, hm, rfl⟩ := exists_method_of_decl hd hdecl
      exact ⟨m, hm, repeatsArg_of_argTwice hdecl⟩
    · cases h

theorem modulePath_ne_argTwice {name : String} :
    modulePath name ≠ .error (.argTwice ident member) := by
  intro h
  unfold modulePath at h
  dsimp only at h
  split at h
  next => cases h
  next => split at h <;> cases h

/-- Where modules are not generated for an argument that is given twice, it is one of a method of
the interface that is named: two arguments of the method have its identifier. -/
theorem generate_eq_argTwice {o : GenerateOptions} {interfaces : List Interface} {root : FilePath}
    {t u : FileTree} {name : String}
    (h : generate o interfaces root t =
      (.error (.generate (.render name (.argTwice ident member))), u)) :
    ∃ i ∈ interfaces, i.name = name ∧ ∃ m ∈ i.methods, m.name = member ∧ RepeatsArg m ident := by
  obtain ⟨i, hi, hname, hpath | hrender⟩ := outputFiles_eq_render (generate_eq_error_iff.1 h).1
  · exact absurd hpath modulePath_ne_argTwice
  · exact ⟨i, hi, hname, clientModule_eq_argTwice (render_eq_error.1 hrender)⟩

theorem nodup_argIdent_of_render {o : RenderOptions} {i : Interface} {m : Method} {s : String}
    (hm : m ∈ i.methods) (h : render o i = .ok s) : (m.args.map argIdent).Nodup := by
  obtain ⟨module, hmodule, -⟩ := render_eq_ok.1 h
  obtain ⟨-, _, _, _, -, -, hmembers, -⟩ := clientModule_eq_ok.1 hmodule
  exact ((claimAll_memberDrafts_eq_ok_iff.1 hmembers).2.1 m hm).nodup

end Twice

/-- **Names of arguments.** Where the names that are written in the argument list of a method or
signal are distinct, those of its arguments are unless a written name is the one that an unnamed
argument gets. If interfaces are refused for an argument that is given twice, a method has two
arguments of its identifier; of one that is read from a block, one of these names is written, so the
names that unnamed arguments get are never at fault alone. And if a written name has the identifier
of such a name, an interface with the method has no module: interfaces among which it is are always
refused, and no file is touched. -/
theorem entryAs_argNames {b : Block} {form : BlockKind} {e : Entry} (hform : form ≠ .property)
    (hread : b.entryAs form = .ok e) (hwritten : (writtenNames b.text).Nodup) :
    ((e.args.map Arg.name).Nodup ↔
        ∀ n ∈ unnamedArgs b.text, defaultName n ∉ writtenNames b.text) ∧
      (∀ (o : GenerateOptions) (interfaces : List Interface) (root : FilePath) (t u : FileTree)
        (name ident member : String),
        generate o interfaces root t =
            (.error (.generate (.render name (.argTwice ident member))), u) →
          ∃ i ∈ interfaces, i.name = name ∧ ∃ m ∈ i.methods, m.name = member ∧
            RepeatsArg m ident ∧ (e = .method m → ident.toList ∈ writtenIdents b.text)) ∧
      ∀ m, e = .method m →
        (∃ n ∈ unnamedArgs b.text, (defaultName n).toList ∈ writtenIdents b.text) →
          (∀ (o : RenderOptions) (i : Interface), m ∈ i.methods →
            ∃ fault, render o i = .error fault) ∧
          ∀ (o : GenerateOptions) (interfaces : List Interface) (root : FilePath) (t : FileTree),
            (∃ i ∈ interfaces, m ∈ i.methods) →
              ∃ fault, generate o interfaces root t = (.error (.generate fault), t) := by
  refine ⟨?_, ?_, ?_⟩
  · rw [map_name_args hform hread, nodup_numbered_iff defaultName_injective]
    exact and_iff_right hwritten
  · intro o interfaces root t u name ident member h
    obtain ⟨i, hi, hname, m, hm, hmember, htwice⟩ := generate_eq_argTwice h
    refine ⟨i, hi, hname, m, hm, hmember, htwice, ?_⟩
    rintro rfl
    exact mem_writtenIdents_of_count hform hread htwice
  · rintro m rfl ⟨n, hn, hmem⟩
    have hrender (o : RenderOptions) (i : Interface) (hm : m ∈ i.methods) :
        ∃ fault, render o i = .error fault := by
      cases h : render o i with
      | error fault => exact ⟨fault, rfl⟩
      | ok s =>
        have hnodup := nodup_argIdent_of_render hm h
        exact absurd hmem (not_mem_writtenIdents_of_nodup hform hread hnodup hn)
    refine ⟨hrender, fun o interfaces root t => ?_⟩
    rintro ⟨i, hi, hm⟩
    obtain ⟨fault, hfault⟩ := hrender o.toRenderOptions i hm
    exact generate_of_not_generable (not_generable_of_render hi hfault) root t

/-- A method with arguments of which the first and the last have no name. -/
def configureBlock (name : String) : Block where
  kind := .method
  text := ("void Configure(object, void, uint16 " ++ name ++ ", string)").toList

/-- What is read of it. -/
def configureMethod (name : String) : Method where
  name := "Configure"
  args := [⟨"object", "arg0"⟩, ⟨"uint16", name⟩, ⟨"string", "arg2"⟩]
  returns := []
  docs := ""
  errors := NameSet.empty

/-- An interface with the method. -/
def configureInterface (name : String) : Interface where
  name := "org.example.Device1"
  methods := [configureMethod name]

/-- A capital keeps the names apart, but not the identifiers. -/
theorem entryAs_argNames_capital :
    (configureBlock "Arg2").entryAs .method = .ok (.method (configureMethod "Arg2")) ∧
      writtenNames (configureBlock "Arg2").text = ["Arg2"] ∧
      unnamedArgs (configureBlock "Arg2").text = [0, 2] ∧
      ((configureMethod "Arg2").args.map Arg.name).Nodup ∧
      (∃ fault, generate {} [configureInterface "Arg2"] (FilePath.ofText "out") .empty =
        (.error (.generate fault), .empty)) ∧
      (generate {} [configureInterface "Arg2"] (FilePath.ofText "out") .empty).1 =
        .error (.generate (.render "org.example.Device1" (.argTwice "arg2" "Configure"))) ∧
      ∃ i ∈ [configureInterface "Arg2"], i.name = "org.example.Device1" ∧
        ∃ m ∈ i.methods, m.name = "Configure" ∧ RepeatsArg m "arg2" := by
  have hread : (configureBlock "Arg2").entryAs .method = .ok (.method (configureMethod "Arg2")) :=
    rfl
  have hwritten : writtenNames (configureBlock "Arg2").text = ["Arg2"] := by decide
  have hunnamed : unnamedArgs (configureBlock "Arg2").text = [0, 2] := by decide
  have hfault : (generate {} [configureInterface "Arg2"] (FilePath.ofText "out") .empty).1 =
      .error (.generate (.render "org.example.Device1" (.argTwice "arg2" "Configure"))) := by
    decide +kernel
  obtain ⟨hnodup, htwice, hfails⟩ := entryAs_argNames (by decide) hread (by rw [hwritten]; decide)
  have hclash : ∃ n ∈ unnamedArgs (configureBlock "Arg2").text,
      (defaultName n).toList ∈ writtenIdents (configureBlock "Arg2").text := by
    rw [hunnamed, writtenIdents, hwritten]
    exact ⟨2, by decide, by decide⟩
  obtain ⟨-, hrefused⟩ := hfails _ rfl hclash
  obtain ⟨i, hi, hname, m, hm, hmember, hrepeats, -⟩ := htwice _ _ _ _ _ _ _ _ (Prod.ext hfault rfl)
  refine ⟨hread, hwritten, hunnamed, hnodup.2 ?_, ?_, hfault, i, hi, hname, m, hm, hmember,
    hrepeats⟩
  · rw [hunnamed, hwritten]
    decide
  · exact hrefused _ _ _ _ ⟨_, List.mem_singleton_self _, List.mem_singleton_self _⟩

/-- A written name that an unnamed argument gets as well. -/
theorem clashing_configureMethod :
    (configureBlock "arg2").entryAs .method = .ok (.method (configureMethod "arg2")) ∧
      (writtenNames (configureBlock "arg2").text).Nodup ∧
      ¬ ((configureMethod "arg2").args.map Arg.name).Nodup ∧
      render {} { name := "org.example.Device1", methods := [configureMethod "arg2"] } =
        .error (.argTwice "arg2" "Configure") := by
  refine ⟨rfl, by decide, by decide, by decide⟩

end Binding

end BusDoc
