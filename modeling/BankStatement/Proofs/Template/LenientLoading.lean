import BankStatement.Proofs.Source.Utf8
import BankStatement.Proofs.Template.Shape

/-!
# Lenient catalogues

What a lenient catalogue makes of a folder, whatever lies in it. It reports the first file, in the
order of the names, with a fault that is not skippable (`ofFolder_error_iff`); without such a file
it is what a strict catalogue makes of the files that load by themselves (`addItems_lenient`), so
every template of these is there.

A file that is no text, no JSON, or a document with all values of the right kind is never reported,
and every file that loads is such a document.

Not every malformed file is thus skipped. The faults that are caught are those of reading a file and
of values that make no sense in their place; a value of the wrong kind, such as a list where an
object is needed, is none of them, and one file of that sort ends the reading of all
(`not_ofFolder_lenient`). The condition under which nothing is reported is given by the kinds of the
values (`FolderItem.isShaped`), so that it can be checked without reading a template.

That it is sufficient is shown in `Proofs.Template.Shape`. It is not necessary: a flaw that is met
first can hide a wrong kind behind it.
-/

namespace BankStatement

/-- What a file is that is never reported: no document at all, or one of the right shape. -/
def FolderItem.isShaped : FolderItem → Bool
  | .folder => true
  | .file bytes => ((Utf8.decode? bytes).bind Value.ofJson?).all Value.isTemplateFile

namespace Catalogue

variable {c : Catalogue} {items : List FolderItem} {item : FolderItem} {source : Value}
  {templates : List Template} {t : Template}

/-- The fault for which a lenient catalogue reports an item. -/
def reported? (item : FolderItem) : Option Fault :=
  match readItem item with
  | .ok _ => none
  | .error fault => if fault.isSkippable then none else some fault

def loads (item : FolderItem) : Bool := (readItem item).toOption.isSome

theorem excused_readItem (h : item.isShaped = true) : Excused (readItem item) := by
  cases item with
  | folder => exact failsBy_error rfl
  | file bytes =>
      simp only [FolderItem.isShaped] at h
      simp only [readItem]
      split
      · exact failsBy_error rfl
      next t ht =>
        split
        · exact failsBy_error rfl
        next v hv =>
          rw [ht, Option.bind_some, hv, Option.all_some] at h
          exact excused_readDocument h

theorem isShaped_of_readItem {loaded : Value × List Template} (h : readItem item = .ok loaded) :
    item.isShaped = true := by
  cases item with
  | folder => cases h
  | file bytes =>
      simp only [readItem] at h
      simp only [FolderItem.isShaped]
      split at h
      · cases h
      next t ht =>
        split at h
        · cases h
        next v hv =>
          rw [ht, Option.bind_some, hv, Option.all_some]
          exact isTemplateFile_of_readDocument h

theorem reported?_of_shaped (h : item.isShaped = true) : reported? item = none := by
  unfold reported?
  split
  · rfl
  next fault hread => rw [if_pos (excused_readItem h fault hread)]

theorem of_read_ok {loaded : Value × List Template} (h : readItem item = .ok loaded) :
    reported? item = none ∧ loads item = true := by
  simp only [reported?, loads, h, Except.toOption, Option.isSome_some, and_self]

theorem of_read_error {fault : Fault} (h : readItem item = .error fault) :
    reported? item = (if fault.isSkippable then none else some fault) ∧ loads item = false := by
  simp only [reported?, loads, h, Except.toOption, Option.isSome_none, and_self]

/-- A lenient catalogue reports the first item that it has to report; without one it is the strict
catalogue of the items that load. -/
theorem addItems_lenient (items : List FolderItem) (c : Catalogue) :
    addItems false items c = match items.findSome? reported? with
      | some fault => .error fault
      | none => addItems true (items.filter loads) c := by
  induction items generalizing c with
  | nil => rfl
  | cons item items ih =>
      rw [List.findSome?_cons, List.filter_cons]
      cases hread : readItem item with
      | ok loaded =>
          obtain ⟨hreported, hloads⟩ := of_read_ok hread
          rw [hreported, if_pos hloads]
          simp only [addItems, hread, ih]
      | error fault =>
          obtain ⟨hreported, hloads⟩ := of_read_error hread
          rw [hreported, hloads]
          -- a skipped item is neither reported nor loaded; any other fault ends both sides at once
          cases hskip : fault.isSkippable with
          | true => simp only [addItems, hread, hskip, ih]; rfl
          | false => simp only [addItems, hread, hskip]; rfl

/-! ## What is there -/

theorem mem_addTo {entries : List (Value × List Template)} :
    t ∈ (addTo source templates entries).flatMap (·.2)
      ↔ t ∈ entries.flatMap (·.2) ∨ t ∈ templates := by
  induction entries with
  | nil => simp [addTo]
  | cons entry entries ih =>
      obtain ⟨key, old⟩ := entry
      unfold addTo
      split
      · simp only [List.flatMap_cons, List.mem_append]
        rw [or_right_comm]
      · simp only [List.flatMap_cons, List.mem_append, ih]
        rw [or_assoc]

theorem mem_templates_add :
    t ∈ (c.add source templates).templates ↔ t ∈ c.templates ∨ t ∈ templates :=
  mem_addTo

/-- Items that load by themselves load together, and all their templates are there: adding never
fails and never takes anything away. -/
theorem addItems_loads (items : List FolderItem) (c : Catalogue) :
    ∃ c', addItems true (items.filter loads) c = .ok c' ∧ ∀ t, t ∈ c'.templates ↔ t ∈ c.templates
      ∨ ∃ item ∈ items, ∃ loaded, readItem item = .ok loaded ∧ t ∈ loaded.2 := by
  induction items generalizing c with
  | nil => exact ⟨c, rfl, by simp⟩
  | cons item items ih =>
      rw [List.filter_cons]
      cases hread : readItem item with
      | error fault =>
          obtain ⟨c', hadd, hmem⟩ := ih c
          rw [(of_read_error hread).2]
          exact ⟨c', hadd, by simp [hmem, hread]⟩
      | ok loaded =>
          obtain ⟨c', hadd, hmem⟩ := ih (c.add loaded.1 loaded.2)
          rw [if_pos (of_read_ok hread).2]
          refine ⟨c', by simpa only [addItems, hread] using hadd, fun t => ?_⟩
          simp only [hmem, mem_templates_add, List.mem_cons, exists_eq_or_imp, hread,
            Except.ok.injEq, exists_eq_left', or_assoc]

/-- A folder makes a lenient catalogue fail exactly with the first fault that it has to report, in
the order of the names. Which templates have been read before does not matter. -/
theorem ofFolder_error_iff (folder : List (Text × FolderItem)) (fault : Fault) :
    ofFolder false folder = .error fault ↔ ∃ before item after,
      templateFiles folder = before ++ item :: after ∧ reported? item = some fault
        ∧ ∀ other ∈ before, reported? other = none := by
  rw [ofFolder, addItems_lenient, ← List.findSome?_eq_some_iff]
  obtain ⟨c, hloads, -⟩ := addItems_loads (templateFiles folder) {}
  cases (templateFiles folder).findSome? reported? with
  | some fault' => simp
  | none => simp [hloads]

/-- Files that stand in the order of their names are read in this order. -/
theorem templateFiles_of_sorted {folder : List (Text × FolderItem)}
    (hnames : ∀ entry ∈ folder, ".json".toList.isSuffixOf entry.1 = true)
    (hsorted : folder.Pairwise fun a b => Text.le a.1 b.1 = true) :
    templateFiles folder = folder.map (·.2) := by
  simp only [templateFiles]
  rw [List.filter_eq_self.mpr hnames, List.mergeSort_of_pairwise hsorted]

/-- A lenient catalogue fails with the first fault that it has to report, if there is one. Otherwise
it is what the files that load by themselves make strictly, with all their templates and no others.
No item of the right shape is reported, and only items of this shape load. -/
theorem ofFolder_lenient (folder : List (Text × FolderItem)) :
    (∀ fault, ofFolder false folder = .error fault ↔ ∃ before item after,
      templateFiles folder = before ++ item :: after ∧ reported? item = some fault
        ∧ ∀ other ∈ before, reported? other = none)
      ∧ ((∀ item ∈ templateFiles folder, reported? item = none) →
        ∃ c, ofFolder false folder = .ok c
          ∧ addItems true ((templateFiles folder).filter loads) {} = .ok c
          ∧ ∀ t, t ∈ c.templates
            ↔ ∃ item ∈ templateFiles folder, ∃ loaded, readItem item = .ok loaded ∧ t ∈ loaded.2)
      ∧ (∀ item : FolderItem, item.isShaped = true → reported? item = none)
      ∧ ∀ (item : FolderItem) (loaded : Value × List Template),
        readItem item = .ok loaded → item.isShaped = true := by
  refine ⟨ofFolder_error_iff folder, fun hnone => ?_, fun item => reported?_of_shaped,
    fun item loaded => isShaped_of_readItem⟩
  obtain ⟨c, hloads, hmem⟩ := addItems_loads (templateFiles folder) {}
  refine ⟨c, ?_, hloads, by simpa [Catalogue.templates] using hmem⟩
  rw [ofFolder, addItems_lenient, List.findSome?_eq_none_iff.mpr hnone]
  exact hloads

def goodFile : FolderItem :=
  .file (Utf8.encode ("\x7b\"source\": \"good\", \"templates\": [\x7b\"name\": \"Good\", ".toList
    ++ "\"sections\": [\x7b\"type\": \"ignore\"\x7d]\x7d]\x7d".toList))

def listFile : FolderItem := .file (Utf8.encode "[]".toList)

/-- Files that are skipped, each for a reason of its own, before one that loads. -/
def mixedFolder : List (Text × FolderItem) := [
  ("a.json".toList, .folder),
  ("b.json".toList, .file [0xFF]),
  ("c.json".toList, .file (Utf8.encode "\x7b not json".toList)),
  ("d.json".toList, .file (Utf8.encode ("\x7b\"source\": \"bad\", \"templates\": [\x7b".toList
    ++ "\"name\": \"Bad\", \"sections\": [\x7b\"type\": \"chart\"\x7d]\x7d]\x7d".toList))),
  ("good.json".toList, goodFile)]

/-- A list where an object is needed ends the reading of all files. -/
theorem not_ofFolder_lenient : ¬ ∀ folder : List (Text × FolderItem),
    ∃ c, ofFolder false folder = .ok c := by
  intro hall
  obtain ⟨c, hc⟩ := hall [("bad.json".toList, listFile), ("good.json".toList, goodFile)]
  have hfiles : templateFiles [("bad.json".toList, listFile), ("good.json".toList, goodFile)]
      = [listFile, goodFile] :=
    templateFiles_of_sorted (by decide +kernel) (by decide +kernel)
  have hreported : reported? listFile = some .wrongKind := rfl
  have hfault := (ofFolder_error_iff _ .wrongKind).mpr
    ⟨[], listFile, [goodFile], hfiles, hreported, by simp⟩
  rw [hfault] at hc
  cases hc

/-- Four files of the right shape are skipped, and the fifth one is there. -/
theorem ofFolder_lenient_mixed : (∀ item ∈ templateFiles mixedFolder, item.isShaped = true)
    ∧ ∃ c, ofFolder false mixedFolder = .ok c
      ∧ ∃ t ∈ c.templates, t.name.plain = "Good".toList := by
  have hfiles : templateFiles mixedFolder = mixedFolder.map (·.2) :=
    templateFiles_of_sorted (by decide +kernel) (by decide +kernel)
  have hshaped : ∀ item ∈ templateFiles mixedFolder, item.isShaped = true := by
    rw [hfiles]
    decide +kernel
  have hnames : (readItem goodFile).toOption.map (fun loaded => loaded.2.map (·.name.plain))
      = some ["Good".toList] := by
    decide +kernel
  obtain ⟨-, hload, hnone, -⟩ := ofFolder_lenient mixedFolder
  obtain ⟨c, hc, -, hmem⟩ := hload fun item hitem => hnone item (hshaped item hitem)
  have hgood : goodFile ∈ templateFiles mixedFolder := by
    rw [hfiles]
    simp [mixedFolder]
  cases hread : readItem goodFile with
  | error fault => rw [hread] at hnames; cases hnames
  | ok loaded =>
      rw [hread] at hnames
      have hname : loaded.2.map (·.name.plain) = ["Good".toList] := Option.some.inj hnames
      obtain ⟨t, ht, hplain⟩ := List.mem_map.mp (hname ▸ List.mem_singleton_self _)
      exact ⟨hshaped, c, hc, t, (hmem t).mpr ⟨goodFile, hgood, loaded, hread, ht⟩, hplain⟩

end Catalogue

end BankStatement
