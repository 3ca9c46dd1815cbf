import BusDoc.Doc.Bytes
import BusDoc.Doc.Entry
import BusDoc.Proofs.Doc.Paragraph
import BusDoc.Proofs.Doc.UnitParts
import BusDoc.Proofs.Text.Bytes
import BusDoc.Proofs.Text.Letter
import BusDoc.Proofs.Text.Trim

/-!
# Cuts that do not fail

Where readers cut at byte indices, the index never lies behind the end or inside a character, and
what is read is the same.

* `Bytes.cleanDocs_eq`: paragraphs, cut at the indentation of another line.
* `Bytes.sectionStart_eq`, `Bytes.splitBlocks_eq`: section keywords, and blocks cut at the
  indentation of their section's first line.
* `Bytes.unitRanges_eq`, `Bytes.unitBody_eq`: ranges of lines.
* `slices_succeed`: units, paragraphs, parts of argument lists and properties.
-/

namespace BusDoc.Doc

open Text
open String (utf8Len)

/-! ## What the cuts rest on -/

theorem trim_headerValue? {keyword : String} {text value : List Char}
    (h : headerValue? keyword text = some value) : trim value = value := by
  unfold headerValue? at h
  split at h
  next =>
    cases h
    rfl
  next =>
    cases h
    exact trim_trim _
  next => cases h

theorem two_le_length_of_startsUnit {ls : List Line} (h : startsUnit ls = true) :
    2 ≤ ls.length := by
  unfold startsUnit at h
  split at h
  next => simp
  next => cases h

theorem cutBefore_map {α : Type} (marked : α → Bool) (xs : List α) :
    let cut := cutBefore Prod.snd (xs.map fun x => (x, marked x))
    (cut.1.map Prod.fst, cut.2.map (List.map Prod.fst)) = cutBefore marked xs := by
  induction xs with
  | nil => rfl
  | cons x xs ih =>
    dsimp only at ih ⊢
    rw [List.map_cons, cutBefore, cutBefore, ← ih]
    cases hx : marked x with
    | true => simp
    | false => simp

namespace Bytes

/-! ## Paragraphs -/

theorem commonIndent_eq (ls : List (List Char)) : commonIndent ls = Doc.commonIndent ls := by
  simp only [commonIndent, Doc.commonIndent, funext leadingBytes_eq]

theorem cleanDocs_eq (raw : List Char) : cleanDocs raw = some (Doc.cleanDocs raw) := by
  have hlines : (lines raw).mapM (dedentLine (commonIndent (lines raw))) =
      some ((lines raw).map (Doc.dedentLine (Doc.commonIndent (lines raw)))) := by
    refine Result.mapM_eq_some fun l hl => ?_
    rw [dedentLine, Doc.dedentLine, commonIndent_eq]
    cases hb : allBlank l with
    | true => rfl
    | false =>
      simp only [sliceFrom?_of_le_indentOf (commonIndent_le hl hb)]
      rfl
  rw [cleanDocs, hlines]
  rfl

/-! ## Sections -/

theorem opened_eq (kind : BlockKind) (consumed : Nat) (rest : List Char) :
    opened kind consumed rest =
      match rest with
      | [] => some (kind, List.replicate consumed ' ')
      | ' ' :: _ => some (kind, List.replicate consumed ' ' ++ rest)
      | _ => none := by
  cases rest with
  | nil => rfl
  | cons c rest =>
    by_cases hc : c = ' '
    · subst hc
      rfl
    · simp [opened, hc]

theorem sectionStart_eq (text : List Char) : sectionStart text = some (sectionStart? text) := by
  have hlen : utf8Len (text.takeWhile isAsciiAlpha) = (text.takeWhile isAsciiAlpha).length :=
    utf8Len_of_isAscii fun c hc =>
      isAscii_of_isAsciiAlnum (by simp [isAsciiAlnum, List.all_eq_true.1 List.all_takeWhile c hc])
  unfold sectionStart sectionStart?
  dsimp only
  cases sectionKind? (text.takeWhile isAsciiAlpha) with
  | none => rfl
  | some kind =>
    dsimp only
    rw [sliceFrom?_takeWhile, hlen]
    exact congrArg some (opened_eq kind _ _)

theorem blockLine_eq (indent : Nat) (l : Line) :
    blockLine indent l = some (Doc.blockLine indent l) := by
  rw [blockLine, Doc.blockLine, leadingBytes_eq]
  cases l.isBlank with
  | true => rfl
  | false => exact sliceFrom?_of_le_indentOf (Nat.min_le_right _ _)

theorem blockOfLines_eq (kind : BlockKind) (indent : Nat) (ls : List Line) :
    blockOfLines kind indent ls = some (Doc.blockOfLines kind indent ls) := by
  rw [blockOfLines, Result.mapM_eq_some fun l _ => blockLine_eq indent l]
  rfl

theorem splitBlocks_eq (kind : BlockKind) (ls : List Line) :
    splitBlocks kind ls = some (Doc.splitBlocks kind ls) := by
  rw [splitBlocks, Doc.splitBlocks]
  cases ls.find? fun l => !l.isBlank with
  | none => rfl
  | some first =>
    simp only [leadingBytes_eq]
    exact Result.mapM_eq_some fun run _ => blockOfLines_eq kind _ _

theorem sectionBlocks_eq (ls : List Line) : sectionBlocks ls = some (Doc.sectionBlocks ls) := by
  cases ls with
  | nil => rfl
  | cons first body =>
    rw [sectionBlocks, sectionStart_eq, Doc.sectionBlocks]
    cases sectionStart? first.text with
    | none => rfl
    | some start => exact splitBlocks_eq start.1 _

/-! ## Readers that can fail for two reasons

A reader gives `none` if a cut fails and an error if the text is malformed. -/

section

variable {ε σ α β : Type}

theorem bind_eq {x : Except ε α} {f : α → ExceptT ε Option β} {g : α → Except ε β}
    (h : ∀ a, f a = .mk (some (g a))) : (ExceptT.mk (some x) >>= f) = .mk (some (x >>= g)) := by
  cases x with
  | error e => rfl
  | ok a => exact h a

theorem foldlM_eq {f : σ → α → ExceptT ε Option σ} {g : σ → α → Except ε σ}
    (h : ∀ s a, f s a = .mk (some (g s a))) (xs : List α) (s : σ) :
    xs.foldlM f s = .mk (some (xs.foldlM g s)) := by
  induction xs generalizing s with
  | nil => rfl
  | cons x xs ih =>
    rw [List.foldlM_cons, List.foldlM_cons, h]
    exact bind_eq ih

theorem mapM_eq {f : α → ExceptT ε Option β} {g : α → Except ε β}
    (h : ∀ a, f a = .mk (some (g a))) (xs : List α) :
    xs.mapM f = .mk (some (xs.mapM g)) := by
  induction xs with
  | nil => rfl
  | cons x xs ih =>
    rw [List.mapM_cons, List.mapM_cons, h, ih]
    exact bind_eq fun y => bind_eq fun ys => rfl

end

/-! ## Headers -/

theorem interfaceName_eq {value : List Char} (htrim : trim value = value) :
    interfaceName value = some (trim (value.takeWhile (· ≠ '['))) := by
  rw [interfaceName, findByte?_eq]
  simp only [decide_not]
  cases hbracket : value.any fun c => decide (c = '[') with
  | true => simp only [if_true, sliceTo?_takeWhile, Option.map_some]
  | false =>
    rw [takeWhile_not_of_any_eq_false hbracket, htrim]
    rfl

theorem headerStep_eq (h : Header) (l : Line) : headerStep h l = .mk (some (h.step l)) := by
  rw [headerStep, Header.step]
  cases headerValue? "Service" l.text with
  | some value => rfl
  | none =>
    cases hvalue : headerValue? "Interface" l.text with
    | some value =>
      dsimp only
      rw [interfaceName_eq (trim_headerValue? hvalue)]
      cases h.interface.isEmpty <;> rfl
    | none => cases headerValue? "Object path" l.text <;> rfl

/-! ## Units -/

theorem sliceLines?_append {front ls : List Line} {stop : Nat} (hstart : front.length ≤ stop)
    (hstop : stop ≤ (front ++ ls).length) :
    sliceLines? front.length stop (front ++ ls) = some (ls.take (stop - front.length)) := by
  rw [sliceLines?, if_pos ⟨hstart, hstop⟩, List.drop_take, List.drop_left]

theorem zip_tail_cons (index stop : Nat) (titles : List Nat) :
    (index :: titles).zip (titles ++ [stop]) =
      (index, titles.headD stop) :: titles.zip (titles.tail ++ [stop]) := by
  cases titles <;> rfl

/-- The lines behind a front part, cut at the indices of their titles: up to the first of them, and
from each to the next. -/
theorem cut_titlesFrom (front ls : List Line) :
    let all := front ++ ls
    let titles := titlesFrom front.length ls
    let cut := cutBefore Prod.snd (markTitles ls)
    front.length ≤ titles.headD all.length ∧ titles.headD all.length ≤ all.length ∧
      cut.1.map Prod.fst = ls.take (titles.headD all.length - front.length) ∧
      (titles.zip (titles.tail ++ [all.length])).mapM (fun range =>
        sliceLines? range.1 range.2 all) = some (cut.2.map (List.map Prod.fst)) := by
  induction ls generalizing front with
  | nil => simp [titlesFrom, markTitles, cutBefore]
  | cons l ls ih =>
    obtain ⟨hstart, hstop, hfront, hruns⟩ := ih (front ++ [l])
    rw [List.append_assoc, List.singleton_append, List.length_append, List.length_singleton] at *
    -- the first line goes with what stands in front of the next title, be it a title or not
    have htake : l :: (cutBefore Prod.snd (markTitles ls)).1.map Prod.fst =
        (l :: ls).take ((titlesFrom (front.length + 1) ls).headD (front ++ l :: ls).length -
          front.length) := by
      rw [hfront, ← List.take_succ_cons]
      congr 1
      omega
    dsimp only
    rw [titlesFrom, markTitles, cutBefore]
    cases startsUnit (l :: ls) with
    | false => exact ⟨by simpa using Nat.le_of_succ_le hstart, hstop, htake, hruns⟩
    | true =>
      refine ⟨Nat.le_refl _, by simp, by simp, ?_⟩
      rw [if_pos rfl, List.tail_cons, zip_tail_cons, List.mapM_cons, hruns,
        sliceLines?_append (Nat.le_of_succ_le hstart) hstop, ← htake]
      rfl

theorem unitRanges_eq (ls : List Line) : unitRanges ls = some (Doc.unitRanges ls) := by
  obtain ⟨-, -, -, hruns⟩ := cut_titlesFrom [] ls
  rw [List.nil_append, List.length_nil] at hruns
  rw [unitRanges, Doc.unitRanges]
  cases hcut : cutBefore Prod.snd (markTitles ls) with
  | mk front runs =>
    rw [hcut] at hruns
    cases htitles : titlesFrom 0 ls with
    | nil =>
      rw [htitles] at hruns
      obtain rfl : runs = [] := List.map_eq_nil_iff.1 (Option.some.inj hruns).symm
      simp [sliceLines?]
    | cons index titles =>
      rw [htitles] at hruns
      cases runs with
      | nil => simp [zip_tail_cons, Option.bind_eq_some_iff] at hruns
      | cons run runs => exact hruns

theorem unitBody_eq (ls : List Line) : unitBody ls = some (Doc.unitBody ls) := by
  rw [unitBody, Doc.unitBody]
  split
  next h =>
    have hle : 2 ≤ ls.length ∧ ls.length ≤ ls.length :=
      ⟨two_le_length_of_startsUnit h, Nat.le_refl _⟩
    rw [sliceLines?, if_pos hle, List.take_length]
  next => rfl

theorem cutSections_eq (body : List Line) :
    cutSections body = some (cutBefore opensSection body) := by
  have hmarked : (body.mapM fun l => (sectionStart l.text).map fun start => (l, start.isSome)) =
      some (body.map fun l => (l, opensSection l)) := by
    refine Result.mapM_eq_some fun l _ => ?_
    rw [sectionStart_eq]
    rfl
  rw [cutSections, hmarked, ← cutBefore_map]
  rfl

theorem blocks_eq (sections : List (List Line)) :
    blocks sections = some (sections.flatMap Doc.sectionBlocks) := by
  rw [blocks, Result.mapM_eq_some fun ls _ => sectionBlocks_eq ls]
  rfl

theorem unitOfParts_eq (source title : String) (front : List Line) (sections : List (List Line)) :
    unitOfParts source title front sections =
      .mk (some (Doc.unitOfParts source title front sections)) := by
  have hheader : (front.foldlM headerStep {} : ExceptT UnitFault Option Header) =
      .mk (some (Header.ofLines front)) := foldlM_eq headerStep_eq front {}
  rw [unitOfParts, Doc.unitOfParts, hheader]
  refine bind_eq fun h => ?_
  rw [cleanDocs_eq, blocks_eq]
  cases h.lateFault? sections.flatten with
  | some fault => rfl
  | none =>
    cases h.interface.isEmpty with
    | false => rfl
    | true => cases decide (title = "") && sections.isEmpty <;> rfl

theorem unitOfLines_eq (source : String) (ls : List Line) :
    unitOfLines source ls = .mk (some (Doc.unitOfLines source ls)) := by
  rw [unitOfLines, unitBody_eq]
  show (ExceptT.lift (cutSections (Doc.unitBody ls)) >>= _) = _
  rw [cutSections_eq]
  exact unitOfParts_eq source _ _ _

theorem splitUnits_eq (source content : String) :
    splitUnits source content = .mk (some (Doc.splitUnits source content)) := by
  rw [splitUnits, unitRanges_eq]
  show ((Doc.unitRanges (fileLines content.toList)).mapM (unitOfLines source) >>= _) = _
  rw [mapM_eq (unitOfLines_eq source)]
  exact bind_eq fun units => rfl

/-! ## Parts of argument lists and properties -/

theorem typeAndName_eq (part : List Char) : typeAndName part = some (Doc.typeAndName part) := by
  rw [typeAndName, Doc.typeAndName, lastTopBlank?_eq]
  cases hcut : cutLastBlank 0 part with
  | none => rfl
  | some cut =>
    obtain ⟨front, rest⟩ := cut
    rw [cutLastBlank_append_eq hcut]
    simp only [Nat.zero_add, sliceTo?_append, sliceFrom?_append]
    rfl

theorem nameAndNote_eq (text : List Char) :
    nameAndNote text =
      some (text.takeWhile fun c => !isBlank c, trim (text.dropWhile fun c => !isBlank c)) := by
  rw [nameAndNote, findByte?_eq]
  cases hblank : text.any isBlank with
  | true =>
    simp only [if_true, sliceTo?_takeWhile, sliceFrom?_takeWhile]
    rfl
  | false =>
    rw [takeWhile_not_of_any_eq_false hblank, dropWhile_not_of_any_eq_false hblank]
    rfl

theorem property_eq (line : PropertyLine) (rawDocs : List Char) :
    property line rawDocs = some (line.property rawDocs) := by
  rw [property, PropertyLine.property, nameAndNote_eq, cleanDocs_eq]
  rfl

end Bytes

/-- **Slices.** A text is cut where an index is a valid position in it, and nowhere else; no cut
that the readers make fails. A unit reaches to the underline of its title at least, and with all
indices counted in bytes the units of a file, paragraphs, parts of lists and properties are read as
they are. -/
theorem slices_succeed :
    (∀ (n : Nat) (s : List Char),
      (cutAt? n s).isSome ↔ String.Pos.Raw.IsValid (String.ofList s) ⟨n⟩) ∧
    (∀ content : String, ∀ ls ∈ unitRanges (fileLines content.toList),
      startsUnit ls = true → 2 ≤ ls.length) ∧
    (∀ source content : String,
      (Bytes.splitUnits source content).run = some (splitUnits source content)) ∧
    (∀ raw : List Char, Bytes.cleanDocs raw = some (cleanDocs raw)) ∧
    (∀ part : List Char, Bytes.typeAndName part = some (typeAndName part)) ∧
    ∀ (line : PropertyLine) (rawDocs : List Char),
      Bytes.property line rawDocs = some (line.property rawDocs) :=
  ⟨fun _ _ => isSome_cutAt?_iff, fun _ _ _ => two_le_length_of_startsUnit, Bytes.splitUnits_eq,
    Bytes.cleanDocs_eq, Bytes.typeAndName_eq, Bytes.property_eq⟩

/-- The indentation of one line is cut from a line that goes on with a blank of three bytes. -/
example : Bytes.cleanDocs "  Moves\n  \u3000to sleep\n    soon".toList =
    some "Moves\n\u3000to sleep\n  soon".toList := by decide

end BusDoc.Doc
