import BankStatement.Proofs.Document.Keys
import BankStatement.Proofs.Template.LenientLoading
import BankStatement.Proofs.Text.Order

/-!
# The order of catalogues

A catalogue is made file by file. A file that loads adds its templates behind those of its source
(`templatesFor_add`), and its source behind the others unless it is there (`sources_add`); a file
that does not load leaves no trace. So a catalogue is put together from what the files are by
themselves (`eq_addAll_of_addItems`), and what stands under a source is what the files have under
it, one after the other.

The order is that of the names and not that in which the folder lists its files
(`templateFiles_eq`).

A file by itself is a folder with one file, loaded strictly, so the statements compare a catalogue
with other catalogues and not with the readers of documents. What such a file holds is said
separately: its templates are all there in the order of the document, or it does not load
(`FolderItem.Holds`).

Sources are compared as keys, and keys that are the same need not be equal values: a source may be
given as one or as true. Which of them is kept is that of the first file, but the look-up does not
see the difference (`sameKey_congr`). `Distinct` is the invariant that makes the look-up well
defined: no two entries of a catalogue have the same key, from the empty catalogue on.

A lenient catalogue may fail as well, by a fault that it does not skip; when it does is the subject
of `Proofs.Template.LenientLoading`. Here it is compared with the strict one where it succeeds.
-/

namespace BankStatement

/-! ## Files by themselves -/

/-- A document that holds some templates of a source, all of them readable, in this order. -/
def Value.Holds (document source : Value) (templates : List Template) : Prop :=
  ∃ members values, document = .object members
    ∧ Value.member? "source".toList members = some source ∧ source.isSource = true
    ∧ (Value.memberOr "templates" members (.list [])).elements = .ok values
    ∧ List.Forall₂ (fun v template => Template.ofValue source v = .ok template) values templates

/-- A file with a document that holds some templates of a source. -/
def FolderItem.Holds (item : FolderItem) (source : Value) (templates : List Template) : Prop :=
  ∃ bytes t document, item = .file bytes ∧ Utf8.decode? bytes = some t
    ∧ Value.ofJson? t = some document ∧ document.Holds source templates

namespace Catalogue

variable {c c' : Catalogue} {items : List FolderItem} {item : FolderItem} {key source : Value}
  {old templates : List Template} {entries rest : List (Value × List Template)}
  {folder files : List (Text × FolderItem)} {file : Text × FolderItem} {fault : Fault}

theorem readDocument_eq_ok_iff {v : Value} :
    readDocument v = .ok (source, templates) ↔ v.Holds source templates := by
  constructor
  · intro h
    obtain ⟨source', hsource, hobject⟩ := exists_of_bind h
    obtain ⟨members, rfl, hlisted⟩ := exists_of_asObject hobject
    obtain ⟨values, hvalues, hread⟩ := exists_of_bind hlisted
    obtain ⟨found, hfound, hpure⟩ := exists_of_bind hread
    have hpair : source' = source ∧ found = templates ∧ source'.isSource = true := by
      cases source' with
      | list | object => cases hpure
      | _ => cases hpure; exact ⟨rfl, rfl, rfl⟩
    obtain ⟨rfl, rfl, hkind⟩ := hpair
    refine ⟨members, values, rfl, ?_, hkind, hvalues, mapM_eq_ok_iff.mp hfound⟩
    simp only [Value.entry] at hsource
    split at hsource
    next v hv => rw [hv, Except.ok.inj hsource]
    next => cases hsource
  · rintro ⟨members, values, rfl, hsource, hkind, hvalues, htemplates⟩
    have hmapM := mapM_eq_ok_iff.mpr htemplates
    simp only [readDocument, Value.entry, hsource, Value.asObject, hvalues, bind, Except.bind,
      hmapM]
    cases source with
    | list | object => cases hkind
    | _ => rfl

theorem readItem_eq_ok_iff :
    readItem item = .ok (source, templates) ↔ item.Holds source templates := by
  constructor
  · intro h
    cases item with
    | folder => cases h
    | file bytes =>
        simp only [readItem] at h
        split at h
        · cases h
        next t ht =>
          split at h
          · cases h
          next v hv => exact ⟨bytes, t, v, rfl, ht, hv, readDocument_eq_ok_iff.mp h⟩
  · rintro ⟨bytes, t, v, rfl, ht, hv, hholds⟩
    simp only [readItem, ht, hv]
    exact readDocument_eq_ok_iff.mpr hholds

/-! ## One more file -/

theorem templatesFor_cons : templatesFor ⟨(key, old) :: rest⟩ source
    = if key.sameKey source then old else templatesFor ⟨rest⟩ source := by
  simp only [templatesFor, List.find?_cons]
  cases key.sameKey source with
  | true => rfl
  | false => rfl

theorem templatesFor_addTo (s : Value) : templatesFor ⟨addTo s templates entries⟩ source
    = templatesFor ⟨entries⟩ source ++ if s.sameKey source then templates else [] := by
  induction entries with
  | nil => exact templatesFor_cons
  | cons entry entries ih =>
      obtain ⟨key, old⟩ := entry
      unfold addTo
      by_cases hkey : key.sameKey s = true
      · have hsame : key.sameKey source = s.sameKey source := by
          rw [Value.sameKey_comm key, Value.sameKey_comm s, Value.sameKey_congr hkey]
        rw [if_pos hkey, templatesFor_cons, templatesFor_cons, hsame]
        by_cases hs : s.sameKey source = true
        · rw [if_pos hs, if_pos hs, if_pos hs]
        · rw [if_neg hs, if_neg hs, if_neg hs, List.append_nil]
      · rw [if_neg hkey, templatesFor_cons, templatesFor_cons, ih]
        by_cases hsource : key.sameKey source = true
        · have hs : ¬ s.sameKey source = true := by
            intro hs
            rw [Value.sameKey_congr hs] at hkey
            exact hkey hsource
          rw [if_pos hsource, if_pos hsource, if_neg hs, List.append_nil]
        · rw [if_neg hsource, if_neg hsource]

theorem templatesFor_add (s : Value) : (c.add s templates).templatesFor source
    = c.templatesFor source ++ if s.sameKey source then templates else [] :=
  templatesFor_addTo s

theorem sources_addTo : (addTo source templates entries).map (·.1)
    = if (entries.map (·.1)).any source.sameKey then entries.map (·.1)
      else entries.map (·.1) ++ [source] := by
  induction entries with
  | nil => rfl
  | cons entry entries ih =>
      obtain ⟨key, old⟩ := entry
      unfold addTo
      rw [List.map_cons, List.any_cons, Value.sameKey_comm source key]
      by_cases hkey : key.sameKey source = true
      · rw [if_pos hkey, hkey, Bool.true_or, if_pos rfl, List.map_cons]
      · rw [if_neg hkey, eq_false_of_ne_true hkey, Bool.false_or, List.map_cons, ih]
        split
        · rfl
        · rfl

theorem sources_add : (c.add source templates).sources
    = if c.sources.any source.sameKey then c.sources else c.sources ++ [source] :=
  sources_addTo

/-! ## All files -/

/-- Adds the templates of several files, one after the other. -/
def addAll (loaded : List (Value × List Template)) (c : Catalogue) : Catalogue :=
  loaded.foldl (fun c one => c.add one.1 one.2) c

/-- No two sources are the same key. -/
def Distinct (c : Catalogue) : Prop := c.sources.Pairwise fun a b => a.sameKey b = false

theorem distinct_empty : Distinct {} := List.Pairwise.nil

theorem Distinct.add (h : c.Distinct) : (c.add source templates).Distinct := by
  unfold Distinct
  rw [sources_add]
  split
  · exact h
  next hnew =>
    refine List.pairwise_append.mpr ⟨h, List.pairwise_singleton .., fun a ha b hb => ?_⟩
    obtain rfl := List.mem_singleton.mp hb
    rw [Value.sameKey_comm]
    exact eq_false_of_ne_true fun hab => hnew (List.any_eq_true.mpr ⟨a, ha, hab⟩)

theorem Distinct.addAll (h : c.Distinct) (loaded : List (Value × List Template)) :
    (c.addAll loaded).Distinct := by
  induction loaded generalizing c with
  | nil => exact h
  | cons one loaded ih => exact ih h.add

theorem templatesFor_addAll (loaded : List (Value × List Template)) (c : Catalogue) :
    (c.addAll loaded).templatesFor source = c.templatesFor source
      ++ loaded.flatMap fun one => if one.1.sameKey source then one.2 else [] := by
  induction loaded generalizing c with
  | nil => exact (List.append_nil _).symm
  | cons one loaded ih =>
      rw [List.flatMap_cons, ← List.append_assoc, ← templatesFor_add]
      exact ih (c.add one.1 one.2)

/-- The sources that are there are those that removing repeats has kept so far. The list function
for this keeps what it has in reverse, and so does the statement. -/
theorem sources_addAll (loaded : List (Value × List Template)) (c : Catalogue) :
    (c.addAll loaded).sources
      = List.eraseDupsBy.loop Value.sameKey (loaded.map (·.1)) c.sources.reverse := by
  induction loaded generalizing c with
  | nil => exact (List.reverse_reverse _).symm
  | cons one loaded ih =>
      rw [addAll, List.foldl_cons, ← addAll, ih, sources_add, List.map_cons, List.eraseDupsBy.loop,
        List.any_reverse]
      cases c.sources.any one.1.sameKey with
      | true => rfl
      | false => exact congrArg _ (List.reverse_append ..)

/-- Under each source of an entry stand the templates of the entry. -/
theorem templatesFor_of_mem (h : (entries.map (·.1)).Pairwise fun a b => a.sameKey b = false)
    (hmem : (key, old) ∈ entries) : templatesFor ⟨entries⟩ key = old := by
  induction entries with
  | nil => cases hmem
  | cons entry entries ih =>
      obtain ⟨first, templates⟩ := entry
      rw [List.map_cons, List.pairwise_cons] at h
      rw [templatesFor_cons]
      rcases List.mem_cons.mp hmem with heq | hmem
      · cases heq
        rw [if_pos (Value.sameKey_self key)]
      · rw [h.1 key (List.mem_map_of_mem hmem), if_neg Bool.false_ne_true, ih h.2 hmem]

theorem Distinct.templates_eq (h : c.Distinct) :
    c.templates = c.sources.flatMap c.templatesFor := by
  rw [sources, List.flatMap_map]
  refine List.flatMap_congr fun entry hentry => ?_
  exact (templatesFor_of_mem h hentry).symm

/-! ## Loading -/

theorem eq_addAll_of_addItems {strict : Bool} (h : addItems strict items c = .ok c') :
    c' = c.addAll (items.filterMap fun item => (readItem item).toOption) := by
  induction items generalizing c with
  | nil => exact (Except.ok.inj h).symm
  | cons item items ih =>
      rw [addItems] at h
      cases hread : readItem item with
      | ok loaded =>
          rw [hread] at h
          rw [List.filterMap_cons_some (b := loaded) (by rw [hread]; rfl)]
          exact ih h
      | error fault =>
          rw [hread] at h
          rw [List.filterMap_cons_none (by rw [hread]; rfl)]
          -- an item that does not load can only be skipped
          simp only at h
          split at h
          · exact ih h
          · cases h

def fault? (item : FolderItem) : Option Fault :=
  match readItem item with
  | .ok _ => none
  | .error fault => some fault

/-- A strict catalogue stops at the first item that does not load. -/
theorem addItems_strict (items : List FolderItem) (c : Catalogue) :
    addItems true items c = match items.findSome? fault? with
      | some fault => .error fault
      | none => .ok (c.addAll (items.filterMap fun item => (readItem item).toOption)) := by
  induction items generalizing c with
  | nil => rfl
  | cons item items ih =>
      rw [List.findSome?_cons, addItems, fault?]
      cases hread : readItem item with
      | ok loaded =>
          rw [List.filterMap_cons_some (b := loaded) (by rw [hread]; rfl)]
          exact ih (c.add loaded.1 loaded.2)
      | error fault => rfl

/-- Where all items load there is nothing to skip. -/
theorem addItems_lenient_of_loads (h : ∀ item ∈ items, fault? item = none) :
    addItems false items c = addItems true items c := by
  have hread : ∀ item ∈ items, reported? item = none ∧ loads item = true := by
    intro item hitem
    have hnone := h item hitem
    unfold fault? at hnone
    split at hnone
    next loaded hloaded => exact of_read_ok hloaded
    next => cases hnone
  rw [addItems_lenient, List.findSome?_eq_none_iff.mpr fun item hitem => (hread item hitem).1,
    List.filter_eq_self.mpr fun item hitem => (hread item hitem).2]

/-! ## Folders -/

/-- The template files of a folder in the order of their names, however the folder lists them. -/
structure InOrder (files folder : List (Text × FolderItem)) : Prop where
  perm : files.Perm (folder.filter fun file => ".json".toList.isSuffixOf file.1)
  sorted : files.Pairwise fun a b => Text.le a.1 b.1 = true
  names : (folder.map (·.1)).Nodup

theorem InOrder.isSuffixOf (h : InOrder files folder) (hfile : file ∈ files) :
    ".json".toList.isSuffixOf file.1 = true :=
  (List.mem_filter.mp (h.perm.mem_iff.mp hfile)).2

theorem templateFiles_eq (h : InOrder files folder) : templateFiles folder = files.map (·.2) := by
  unfold templateFiles
  refine congrArg (List.map (·.2)) (eq_of_sorted_perm ?_ ?_ (pairwise_mergeSort_text _) h.sorted)
  · exact (List.mergeSort_perm ..).trans h.perm.symm
  · refine ((List.mergeSort_perm ..).map _).nodup_iff.mpr ?_
    exact h.names.sublist (List.filter_sublist.map _)

/-- What a file is by itself: nothing if it does not load. -/
def alone (file : Text × FolderItem) : Catalogue := (ofFolder true [file]).toOption.getD {}

theorem ofFolder_singleton (h : ".json".toList.isSuffixOf file.1 = true) :
    ofFolder true [file] = (readItem file.2).map fun loaded => ⟨[loaded]⟩ := by
  have hfiles : templateFiles [file] = [file.2] :=
    templateFiles_of_sorted (List.forall_mem_singleton.mpr h) (List.pairwise_singleton ..)
  rw [ofFolder, hfiles, addItems]
  cases readItem file.2 with
  | ok loaded => rfl
  | error fault => rfl

theorem exists_alone_iff (h : ".json".toList.isSuffixOf file.1 = true) :
    (∃ own, ofFolder true [file] = .ok own) ↔ fault? file.2 = none := by
  rw [ofFolder_singleton h, fault?]
  cases readItem file.2 with
  | ok loaded => simp [Except.map]
  | error fault => simp [Except.map]

theorem alone_error_iff (h : ".json".toList.isSuffixOf file.1 = true) :
    ofFolder true [file] = .error fault ↔ fault? file.2 = some fault := by
  rw [ofFolder_singleton h, fault?]
  cases readItem file.2 with
  | ok loaded => simp [Except.map]
  | error fault => simp [Except.map]

/-- What the files have by themselves is what those that load add. It is stated for any part of a
catalogue, be it the templates of a source, the sources or all templates. -/
theorem flatMap_alone {β : Type} {f : Catalogue → List β} {g : Value × List Template → List β}
    (hnone : f {} = []) (hone : ∀ loaded, f ⟨[loaded]⟩ = g loaded)
    (h : ∀ file ∈ files, ".json".toList.isSuffixOf file.1 = true) :
    (files.flatMap fun file => f (alone file))
      = ((files.map (·.2)).filterMap fun item => (readItem item).toOption).flatMap g := by
  induction files with
  | nil => rfl
  | cons file files ih =>
      obtain ⟨hfile, hfiles⟩ := List.forall_mem_cons.mp h
      rw [List.flatMap_cons, ih hfiles, alone, ofFolder_singleton hfile, List.map_cons]
      cases hread : readItem file.2 with
      | ok loaded =>
          rw [List.filterMap_cons_some (b := loaded) (by rw [hread]; rfl), List.flatMap_cons]
          exact congrArg (· ++ _) (hone loaded)
      | error fault =>
          rw [List.filterMap_cons_none (by rw [hread]; rfl)]
          exact congrArg (· ++ _) hnone

/-- A folder makes a strict catalogue fail exactly with the first fault of a file in it; the files
in front of that one load by themselves. -/
theorem ofFolder_strict_error_iff (h : InOrder files folder) :
    ofFolder true folder = .error fault ↔ ∃ before file after, files = before ++ file :: after
      ∧ (∀ other ∈ before, ∃ own, ofFolder true [other] = .ok own)
      ∧ ofFolder true [file] = .error fault := by
  have hstrict : ofFolder true folder = .error fault
      ↔ files.findSome? (fun file => fault? file.2) = some fault := by
    rw [ofFolder, templateFiles_eq h, addItems_strict, List.findSome?_map]
    simp only [Function.comp_def]
    cases files.findSome? fun file => fault? file.2 with
    | none => simp
    | some fault' => simp
  rw [hstrict, List.findSome?_eq_some_iff]
  constructor
  · rintro ⟨before, file, after, rfl, hfile, hbefore⟩
    refine ⟨before, file, after, rfl, fun other hother => ?_, ?_⟩
    · exact (exists_alone_iff (h.isSuffixOf (List.mem_append_left _ hother))).mpr
        (hbefore other hother)
    · exact (alone_error_iff (h.isSuffixOf (by simp))).mpr hfile
  · rintro ⟨before, file, after, rfl, hbefore, hfile⟩
    refine ⟨before, file, after, rfl, ?_, fun other hother => ?_⟩
    · exact (alone_error_iff (h.isSuffixOf (by simp))).mp hfile
    · exact (exists_alone_iff (h.isSuffixOf (List.mem_append_left _ hother))).mp
        (hbefore other hother)

/-- Loading a folder is atomic for each file and keeps the order of the file names. Under a source
of a lenient catalogue stand the templates that the files have under it by themselves, and none of a
file that does not load; the sources stand in the order in which they first appear, and so do all
templates and the search by name. A strict catalogue is the same if all files load, and otherwise
fails as the first file that does not. By itself a file loads exactly if it holds templates that can
all be read, and these are then there in the order of the file. -/
theorem ofFolder_atomic (h : InOrder files folder) :
    (∀ c, ofFolder false folder = .ok c →
      (∀ source, c.templatesFor source = files.flatMap fun file => (alone file).templatesFor source)
        ∧ c.sources = (files.flatMap fun file => (alone file).sources).eraseDupsBy Value.sameKey
        ∧ c.templates = c.sources.flatMap c.templatesFor
        ∧ ∀ name, c.find? name
          = (c.sources.flatMap c.templatesFor).find? fun template => template.name.equals name)
      ∧ ((∀ file ∈ files, ∃ own, ofFolder true [file] = .ok own) →
        ∃ c, ofFolder true folder = .ok c ∧ ofFolder false folder = .ok c)
      ∧ (∀ fault, ofFolder true folder = .error fault ↔ ∃ before file after,
        files = before ++ file :: after ∧ (∀ other ∈ before, ∃ own, ofFolder true [other] = .ok own)
          ∧ ofFolder true [file] = .error fault)
      ∧ ∀ file ∈ files, ∀ own, ofFolder true [file] = .ok own
        ↔ ∃ source templates, file.2.Holds source templates ∧ own = ⟨[(source, templates)]⟩ := by
  refine ⟨fun c hc => ?_, fun hall => ?_, fun fault => ofFolder_strict_error_iff h,
    fun file hfile own => ?_⟩
  · rw [ofFolder, templateFiles_eq h] at hc
    have hadded := eq_addAll_of_addItems hc
    have hdistinct : c.Distinct := by
      rw [hadded]
      exact distinct_empty.addAll _
    refine ⟨fun source => ?_, ?_, hdistinct.templates_eq, fun name => ?_⟩
    · rw [hadded, templatesFor_addAll]
      exact (flatMap_alone (f := fun own => own.templatesFor source) rfl
        (fun _ => templatesFor_cons) fun _ => h.isSuffixOf).symm
    · rw [flatMap_alone (g := fun loaded => [loaded.1]) rfl (fun _ => rfl) fun _ => h.isSuffixOf,
        ← List.map_eq_flatMap, hadded, sources_addAll]
      rfl
    · rw [find?, hdistinct.templates_eq]
  · have hloads : ∀ item ∈ files.map (·.2), fault? item = none := by
      intro item hitem
      obtain ⟨file, hfile, rfl⟩ := List.mem_map.mp hitem
      exact (exists_alone_iff (h.isSuffixOf hfile)).mp (hall file hfile)
    rw [ofFolder, ofFolder, templateFiles_eq h, addItems_lenient_of_loads hloads, addItems_strict,
      List.findSome?_eq_none_iff.mpr hloads]
    exact ⟨_, rfl, rfl⟩
  · rw [ofFolder_singleton (h.isSuffixOf hfile)]
    constructor
    · intro hown
      cases hread : readItem file.2 with
      | ok loaded =>
          rw [hread] at hown
          exact ⟨loaded.1, loaded.2, readItem_eq_ok_iff.mp hread, (Except.ok.inj hown).symm⟩
      | error fault => rw [hread] at hown; cases hown
    · rintro ⟨source, templates, hholds, rfl⟩
      rw [readItem_eq_ok_iff.mpr hholds]
      rfl

def fileOf (source : String) (templates : List (String × String)) : FolderItem :=
  .file (Utf8.encode ("\x7b\"source\": \"".toList ++ source.toList ++ "\", \"templates\": [".toList
    ++ Text.joinWith ", ".toList (templates.map fun (name, kind) => "\x7b\"name\": \"".toList
      ++ name.toList ++ "\", \"sections\": [\x7b\"type\": \"".toList ++ kind.toList
      ++ "\"\x7d]\x7d".toList)
    ++ "]\x7d".toList))

/-- The template files of a folder: two of one source, with one between them that is half good. -/
def sharedFiles : List (Text × FolderItem) := [
  ("a.json".toList, fileOf "card" [("A", "ignore"), ("B", "table")]),
  ("b.json".toList, fileOf "card" [("C", "ignore"), ("D", "chart")]),
  ("c.json".toList, fileOf "bank" [("E", "keyvalue")]),
  ("d.json".toList, fileOf "card" [("F", "ignore")])]

/-- The templates of the half good file are missing, and the others stand in order. -/
theorem ofFolder_atomic_halfGood :
    InOrder sharedFiles (("notes.txt".toList, .file []) :: sharedFiles.reverse)
      ∧ ∃ c, ofFolder false (("notes.txt".toList, .file []) :: sharedFiles.reverse) = .ok c
        ∧ (c.templatesFor (.ofString "card")).map (·.name.plain)
          = ["A".toList, "B".toList, "F".toList]
        ∧ c.sources = [.ofString "card", .ofString "bank"] := by
  have horder : InOrder sharedFiles (("notes.txt".toList, .file []) :: sharedFiles.reverse) :=
    ⟨by decide +kernel, by decide +kernel, by decide +kernel⟩
  have hloads : (addItems false (sharedFiles.map (·.2)) {}).toOption.isSome = true := by
    decide +kernel
  rw [← templateFiles_eq horder] at hloads
  obtain ⟨hlenient, -⟩ := ofFolder_atomic horder
  cases hc : ofFolder false (("notes.txt".toList, .file []) :: sharedFiles.reverse) with
  | error fault =>
      rw [← ofFolder, hc] at hloads
      cases hloads
  | ok c =>
      obtain ⟨hcard, hsources, -⟩ := hlenient c hc
      refine ⟨horder, c, rfl, ?_, ?_⟩
      · rw [hcard]
        decide +kernel
      · rw [hsources]
        refine eq_of_beq ?_
        decide +kernel

end Catalogue

end BankStatement
