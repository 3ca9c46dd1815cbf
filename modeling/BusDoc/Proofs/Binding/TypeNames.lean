import BusDoc.Proofs.Binding.ModuleParts
import Mathlib.Data.List.Nodup

/-!
# Type names of a module

A module imports types, and declares a client named like the interface and a record named after
it. The name of the interface only has to be an identifier, so it may meet an imported type or a
reserved word.

* `nodup_typeNames_iff`: the name of the record is new, whatever the name of the client is.
* `render_typeNames_iff`: the types of a module have usable names exactly if the last segment of
  the interface name is no imported type and no reserved word.
-/

namespace BusDoc.Binding

open Text

/-- The types that every module imports. -/
def importedTypes : List String := (standardImports ++ runtimeImports).flatMap Import.names

/-- The lines of a module that bring its types into scope. -/
def ClientModule.typeLines (m : ClientModule) : List String :=
  standardImports.map Import.useLine ++ runtimeImports.map Import.line ++
    ["    pub struct " ++ m.record.name ++ " \x7b", "pub struct " ++ m.client.name ++ " \x7b"]

theorem typeLines_subset (m : ClientModule) : m.typeLines ⊆ m.lines := by
  have hrecord : "    pub struct " ++ m.record.name ++ " \x7b" ∈ m.recordLines := by
    simp [ClientModule.recordLines]
  have hclient : "pub struct " ++ m.client.name ++ " \x7b" ∈ m.clientLines := by
    simp [ClientModule.clientLines]
  intro l hl
  simp only [ClientModule.lines, ClientModule.typeLines, ClientModule.headLines, List.mem_append,
    List.mem_cons, List.not_mem_nil, or_false] at hl ⊢
  rcases hl with (hl | hl) | rfl | rfl
  · simp only [hl, true_or, or_true]
  · simp only [hl, true_or, or_true]
  · simp only [hrecord, true_or, or_true]
  · simp only [hclient, true_or, or_true]

/-- The types of the module have names that are pairwise distinct, and those that it declares are
no reserved words. -/
structure ClientModule.HasUsableTypeNames (m : ClientModule) : Prop where
  nodup : m.typeNames.Nodup
  client : isReserved m.client.name.toList = false
  record : isReserved m.record.name.toList = false

/-- The ending of the name of a property record. -/
def recordEnding : String := "Properties"

theorem importedTypes_ne_record {x : String} (hx : x ∈ importedTypes) (name : String) :
    x ≠ name ++ recordEnding := by
  have hend : ∀ x ∈ importedTypes, endsWith recordEnding.toList x.toList = false := by decide
  intro e
  refine ne_append_of_not_endsWith (hend x hx) name.toList ?_
  rw [e, String.toList_append]

theorem not_isReserved_record (name : String) :
    isReserved (name ++ recordEnding).toList = false := by
  have hend : ∀ w ∈ reservedWords, endsWith recordEnding.toList w.toList = false := by decide
  rw [isReserved, List.any_eq_false]
  intro w hw e
  rw [String.toList_append, beq_iff_eq] at e
  exact ne_append_of_not_endsWith (hend w hw) name.toList e

theorem ne_record (name : String) : name ≠ name ++ recordEnding := by
  intro e
  have := congrArg String.length e
  rw [String.length_append] at this
  have hlength : recordEnding.length = 10 := by decide
  omega

theorem nodup_typeNames_iff (name : String) :
    (importedTypes ++ [name, name ++ recordEnding]).Nodup ↔ name ∉ importedTypes := by
  have himports : importedTypes.Nodup := by decide
  have hpair : [name, name ++ recordEnding].Nodup := by simpa using ne_record name
  rw [List.nodup_append]
  constructor
  · rintro ⟨-, -, hne⟩ hmem
    exact hne name hmem name List.mem_cons_self rfl
  · intro hname
    refine ⟨himports, hpair, fun x hx y hy => ?_⟩
    rcases List.mem_cons.1 hy with rfl | hy
    · rintro rfl
      exact hname hx
    · rw [List.mem_singleton.1 hy]
      exact importedTypes_ne_record hx name

/-- **Type names.** The module of an interface imports its types and declares a client named by the
last segment of the interface name and a record named after it. These names are usable exactly if
the segment is no imported type and no reserved word. -/
theorem render_typeNames_iff {o : RenderOptions} {i : Interface} {s : String}
    (h : render o i = .ok s) :
    ∃ m, clientModule o i = .ok m ∧ m.text = s ∧ m.typeLines ⊆ m.lines ∧
      m.typeNames = importedTypes ++ [i.shortName, i.shortName ++ "Properties"] ∧
      (m.HasUsableTypeNames ↔
        i.shortName ∉ importedTypes ∧ isReserved i.shortName.toList = false) := by
  obtain ⟨m, hm, htext⟩ := render_eq_ok.1 h
  obtain ⟨-, signals, fields, members, -, -, -, rfl⟩ := clientModule_eq_ok.1 hm
  refine ⟨_, hm, htext, typeLines_subset _, rfl, ?_⟩
  constructor
  · rintro ⟨hnodup, hclient, -⟩
    exact ⟨(nodup_typeNames_iff i.shortName).1 hnodup, hclient⟩
  · rintro ⟨hname, hclient⟩
    exact ⟨(nodup_typeNames_iff i.shortName).2 hname, hclient, not_isReserved_record i.shortName⟩

/-- An interface whose client has a name of its own. -/
def deviceInterface : Interface := { name := "org.example.Device1" }

/-- An interface whose client is named like an imported type. -/
def clientInterface : Interface := { name := "org.example.Client" }

/-- An interface whose client is named by a reserved word. -/
def selfInterface : Interface := { name := "org.example.Self" }

theorem render_typeNames_deviceInterface :
    ∃ m s, render {} deviceInterface = .ok s ∧ clientModule {} deviceInterface = .ok m ∧
      m.text = s ∧ m.HasUsableTypeNames := by
  have hok : (render {} deviceInterface).toOption.isSome = true := by decide +kernel
  cases hs : render {} deviceInterface with
  | error e => rw [hs] at hok; cases hok
  | ok s =>
    obtain ⟨m, hm, htext, -, -, husable⟩ := render_typeNames_iff hs
    exact ⟨m, s, rfl, hm, htext, husable.2 (by decide)⟩

/-- A module that declares `Client` beside the imported one, and a module that declares `Self`. -/
theorem unusable_typeNames :
    (∃ m, clientModule {} clientInterface = .ok m ∧ ¬ m.typeNames.Nodup) ∧
      ∃ m, clientModule {} selfInterface = .ok m ∧ isReserved m.client.name.toList = true := by
  refine ⟨⟨moduleOfParts {} clientInterface [] [] [], by decide +kernel, by decide +kernel⟩,
    ⟨moduleOfParts {} selfInterface [] [] [], by decide +kernel, by decide +kernel⟩⟩

end BusDoc.Binding
