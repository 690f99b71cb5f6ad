import BankStatement.Proofs.Pattern.Flaws
import BankStatement.Template.Catalogue
import Mathlib.Data.List.Forall2

/-!
# The shape of template documents

A template document can be wrong in two ways. A word that is not in its list, a number that is none,
a name that is missing: these are flaws of one template, and a lenient catalogue skips the file. A
value of the wrong kind, say a number where a list is needed, ends the reading of all files.

`Value.isTemplateFile` tells from the kinds of its values alone whether a document can only be wrong
in the first way. It goes down the document as the readers do, and there are two lemmas for each
reader: on a value of its shape it fails by skippable faults only, and it reads no other values.
`FailsBy` carries the first through the steps of a reader.

The shape of a value is a test that can be run, and it is weaker than it may look. A keyword that
counts as absent may be of any kind, since it is dropped before it is looked at; a text is a list of
its characters where a list is needed; an object without a member is completed by a default. In each
of these the readers are followed and not what a document is meant to be.

The shape of a pattern is the only one that is not about kinds. A pattern that counts too far is not
skippable, so it is asked that it does not, which is known only after reading it.
-/

namespace BankStatement

/-! ## Shapes -/

namespace Value

/-- It makes sense to ask for its whole number. -/
def isNumeral : Value → Bool
  | .int _ | .bool _ | .text _ => true
  | .real (.infinite _) => false
  | .real _ => true
  | _ => false

/-- A number, or something that counts as absent. -/
def isOptionalNumeral (v : Value) : Bool := !v.isTruthy || v.isNumeral

/-- A pattern, readable or not, that does not count too far. -/
def isPattern : Value → Bool
  | .text t =>
    match Pattern.ofText t with
    | .error .unbounded => false
    | _ => true
  | _ => false

/-- It has elements, all of some shape. -/
def consistsOf (shape : Value → Bool) (v : Value) : Bool :=
  match v.elements with
  | .ok items => items.all shape
  | .error _ => false

/-- It has members, which together are of some shape. -/
def isObject (shape : List (Text × Value) → Bool) : Value → Bool
  | .object members => shape members
  | _ => false

/-- It can be one of several keywords; what counts as absent is dropped. -/
def isKeyword : Value → Bool
  | .text _ => true
  | v => !v.isTruthy

def isKeywords : Value → Bool
  | .null => true
  | v => v.consistsOf isKeyword

def isColumn : Value → Bool :=
  isObject fun members =>
    (memberOr "multiplier" members (.int 1)).isNumeral &&
      match member? "pattern".toList members with
      | some pattern =>
        pattern.isPattern && (memberOr "max_occurrence" members .null).isOptionalNumeral
      | none => (memberOr "length" members (.int 0)).isOptionalNumeral

def isSection : Value → Bool :=
  isObject fun members =>
    (memberOr "keys" members (.list [])).consistsOf (isObject fun _ => true)
      && (memberOr "end_keywords" members .null).isKeywords
      && (memberOr "record_length" members .null).isOptionalNumeral
      && (memberOr "ignore_keywords" members .null).isKeywords
      && (memberOr "columns" members (.list [])).consistsOf isColumn

def isTemplate : Value → Bool :=
  isObject fun members =>
    (memberOr "date_formats" members (.list [])).consistsOf (fun _ => true)
      && (!(memberOr "sections" members .null).isTruthy
        || (memberOr "sections" members .null).consistsOf isSection)
      && (memberOr "replacements" members (.list [])).consistsOf (isObject fun _ => true)

/-- It can be the source kind of templates. -/
def isSource : Value → Bool
  | .list _ | .object _ => false
  | _ => true

def isTemplateFile : Value → Bool :=
  isObject fun members =>
    (memberOr "source" members .null).isSource
      && (memberOr "templates" members (.list [])).consistsOf isTemplate

end Value

/-! ## Readers on values of their shape -/

/-- A reading that fails by skippable faults only. -/
abbrev Excused {α : Type} (r : Except Fault α) : Prop :=
  FailsBy (fun fault => fault.isSkippable = true) r

section

variable {v : Value} {members : List (Text × Value)}

theorem exists_members {shape : List (Text × Value) → Bool} (h : v.isObject shape = true) :
    ∃ members, v = .object members ∧ shape members = true := by
  cases v with
  | object members => exact ⟨members, rfl, h⟩
  | _ => cases h

theorem exists_elements {shape : Value → Bool} (h : v.consistsOf shape = true) :
    ∃ items, v.elements = .ok items ∧ ∀ item ∈ items, shape item = true := by
  unfold Value.consistsOf at h
  split at h
  next items hitems => exact ⟨items, hitems, List.all_eq_true.mp h⟩
  next => cases h

/-- The elements of a value are read one after the other, then what comes behind them. Lists of
rules, columns, keys, sections and templates are all read so. -/
theorem excused_elements {α β : Type} {shape : Value → Bool} {f : Value → Except Fault α}
    {g : List α → Except Fault β} (h : v.consistsOf shape = true)
    (hf : ∀ item, shape item = true → Excused (f item)) (hg : ∀ found, Excused (g found)) :
    Excused (v.elements >>= fun items => items.mapM f >>= g) := by
  obtain ⟨items, hitems, hshape⟩ := exists_elements h
  rw [hitems]
  exact (failsBy_mapM fun item hitem => hf item (hshape item hitem)).bind fun found _ => hg found

theorem excused_asInt (h : v.isNumeral = true) : Excused v.asInt := by
  cases v with
  | bool | int => exact failsBy_ok _
  | real x =>
      cases x with
      | finite => exact failsBy_ok _
      | infinite => cases h
      | notANumber => exact failsBy_error rfl
  | text t =>
      simp only [Value.asInt]
      split
      · exact failsBy_ok _
      · exact failsBy_error rfl
  | _ => cases h

/-- Where a number may be absent, one is read or another value takes its place. -/
theorem excused_orElse_asInt {n : Int} (h : v.isOptionalNumeral = true) :
    Excused (v.orElse (.int n)).asInt := by
  unfold Value.orElse
  unfold Value.isOptionalNumeral at h
  split
  next htruthy =>
    rw [htruthy] at h
    exact excused_asInt h
  next => exact failsBy_ok n

theorem excused_readWord {α : Type} (vocabulary : Vocabulary) (label : α → Text)
    (choices : List α) (given : Value) : Excused (readWord vocabulary label choices given) := by
  unfold readWord
  simp only
  split
  · exact failsBy_ok _
  · exact failsBy_error rfl

theorem excused_keywordsAmong {items : List Value}
    (h : ∀ item ∈ items, item.isKeyword = true) : Excused (keywordsAmong items) := by
  induction items with
  | nil => exact failsBy_ok []
  | cons item items ih =>
      have hrest := ih fun item' h' => h item' (List.mem_cons_of_mem _ h')
      have hitem := h item (List.mem_cons_self ..)
      unfold keywordsAmong
      split
      · exact hrest.bind fun others _ => failsBy_ok _
      next hno =>
        have habsent : item.isTruthy = false := by
          cases item with
          | text t => exact absurd rfl (hno t)
          | _ => simpa [Value.isKeyword] using hitem
        rw [habsent]
        exact hrest

theorem excused_readKeywords (h : v.isKeywords = true) : Excused (readKeywords v) := by
  unfold readKeywords
  split
  · exact failsBy_ok []
  · refine excused_keywordsAmong fun item hitem => ?_
    obtain ⟨t, -, rfl⟩ := List.mem_map.mp hitem
    rfl
  next hnull _ =>
    have helements : v.consistsOf Value.isKeyword = true := by
      unfold Value.isKeywords at h
      split at h
      · exact absurd rfl hnull
      · exact h
    obtain ⟨items, hitems, hkeywords⟩ := exists_elements helements
    rw [hitems]
    exact excused_keywordsAmong hkeywords

theorem exists_pattern (h : v.isPattern = true) :
    ∃ t, v = .text t ∧ Excused (Pattern.ofText t) := by
  cases v with
  | text t =>
      refine ⟨t, rfl, fun fault hfault => ?_⟩
      cases Pattern.failsBy_ofText t fault hfault with
      | meaning | digits => rfl
      | rounds =>
          rw [Value.isPattern, hfault] at h
          cases h
  | _ => cases h

theorem excused_ruleOfMembers {patternValue : Value} (hpattern : patternValue.isPattern = true)
    (hmultiplier : (Value.memberOr "multiplier" members (.int 1)).isNumeral = true)
    (hmost : (Value.memberOr "max_occurrence" members .null).isOptionalNumeral = true) :
    Excused (Rule.ofMembers members patternValue) := by
  obtain ⟨t, rfl, ht⟩ := exists_pattern hpattern
  unfold Rule.ofMembers
  refine (failsBy_ok t).bind fun source hsource => ?_
  obtain rfl := Except.ok.inj hsource
  refine ht.bind fun pattern _ => ?_
  refine (excused_asInt hmultiplier).bind fun multiplier _ => ?_
  refine (excused_readWord _ _ _ _).bind fun role _ => ?_
  simp only
  split
  next htruthy =>
    rw [Value.isOptionalNumeral, htruthy] at hmost
    exact ((excused_asInt hmost).bind fun n _ => failsBy_ok _).bind fun most _ => failsBy_ok _
  next => exact failsBy_ok _

theorem excused_fieldOfMembers
    (hlength : (Value.memberOr "length" members (.int 0)).isOptionalNumeral = true)
    (hmultiplier : (Value.memberOr "multiplier" members (.int 1)).isNumeral = true) :
    Excused (Field.ofMembers members) := by
  unfold Field.ofMembers
  refine (excused_orElse_asInt hlength).bind fun length _ => ?_
  exact (excused_asInt hmultiplier).bind fun multiplier _ => failsBy_ok _

theorem excused_column (h : v.isColumn = true) : Excused (Column.ofValue v) := by
  obtain ⟨members, rfl, hshape⟩ := exists_members h
  rw [Bool.and_eq_true] at hshape
  obtain ⟨hmultiplier, hkind⟩ := hshape
  unfold Column.ofValue
  simp only [Value.mentions, Value.entry, Value.asObject]
  cases hpattern : Value.member? "pattern".toList members with
  | some pattern =>
      rw [hpattern, Bool.and_eq_true] at hkind
      exact (excused_ruleOfMembers hkind.1 hmultiplier hkind.2).bind fun rule _ => failsBy_ok _
  | none =>
      rw [hpattern] at hkind
      exact (excused_fieldOfMembers hkind hmultiplier).bind fun field _ => failsBy_ok _

theorem excused_key (h : v.isObject (fun _ => true) = true) : Excused (Key.ofValue v) := by
  obtain ⟨members, rfl, -⟩ := exists_members h
  unfold Key.ofValue
  refine FailsBy.bind ?_ fun name _ => ?_
  · simp only [Value.entry]
    split
    · exact failsBy_ok _
    · exact failsBy_error rfl
  · refine (failsBy_ok members).bind fun members _ => ?_
    exact (excused_readWord _ _ _ _).bind fun mode _ => failsBy_ok _

theorem excused_section (h : v.isSection = true) : Excused (Section.ofValue v) := by
  obtain ⟨members, rfl, hshape⟩ := exists_members h
  simp only [Bool.and_eq_true] at hshape
  obtain ⟨⟨⟨⟨hkeys, hend⟩, hlength⟩, hignore⟩, hcolumns⟩ := hshape
  unfold Section.ofValue
  refine (failsBy_ok members).bind fun members' hmembers => ?_
  obtain rfl := Except.ok.inj hmembers
  refine (excused_readWord _ _ _ _).bind fun kind _ => ?_
  refine excused_elements hkeys (fun key hkey => excused_key hkey) fun keys => ?_
  refine (excused_readKeywords hend).bind fun endKeywords _ => ?_
  refine (excused_orElse_asInt hlength).bind fun recordLength _ => ?_
  refine (excused_readKeywords hignore).bind fun ignoreKeywords _ => ?_
  exact excused_elements hcolumns (fun column hcolumn => excused_column hcolumn) fun columns =>
    failsBy_ok _

theorem excused_replacement (h : v.isObject (fun _ => true) = true) :
    Excused (Replacement.ofValue v) := by
  obtain ⟨members, rfl, -⟩ := exists_members h
  exact failsBy_ok _

theorem excused_template (source : Value) (h : v.isTemplate = true) :
    Excused (Template.ofValue source v) := by
  obtain ⟨members, rfl, hshape⟩ := exists_members h
  simp only [Bool.and_eq_true, Bool.or_eq_true, Bool.not_eq_true'] at hshape
  obtain ⟨⟨hformats, hsections⟩, hreplacements⟩ := hshape
  unfold Template.ofValue
  refine (failsBy_ok members).bind fun members' hmembers => ?_
  obtain rfl := Except.ok.inj hmembers
  simp only
  split
  · exact failsBy_error rfl
  next htruthy =>
    have hparts := hsections.resolve_left (by simpa using htruthy)
    -- the same parts follow whether date formats are given or not
    have hrest : ∀ {g : List Section → List Replacement → Except Fault Template},
        (∀ sections replacements, Excused (g sections replacements)) →
        Excused (do
          let sections ← (← (Value.memberOr "sections" members .null).elements).mapM Section.ofValue
          let replacements ← (← (Value.memberOr "replacements" members (.list [])).elements).mapM
            Replacement.ofValue
          g sections replacements) := fun hg =>
      excused_elements hparts (fun part hpart => excused_section hpart) fun sections =>
        excused_elements hreplacements (fun part hpart => excused_replacement hpart)
          fun replacements => hg sections replacements
    split
    next formats hformat =>
      rw [Value.memberOr, hformat, Option.getD_some] at hformats
      obtain ⟨items, hitems, -⟩ := exists_elements hformats
      rw [hitems]
      exact hrest fun sections replacements => failsBy_ok _
    next => exact hrest fun sections replacements => failsBy_ok _

theorem excused_readDocument (h : v.isTemplateFile = true) :
    Excused (Catalogue.readDocument v) := by
  obtain ⟨members, rfl, hshape⟩ := exists_members h
  rw [Bool.and_eq_true] at hshape
  obtain ⟨hsource, htemplates⟩ := hshape
  unfold Catalogue.readDocument
  simp only [Value.entry]
  rw [Value.memberOr] at hsource
  split
  next source hmember =>
    rw [hmember] at hsource
    refine excused_elements htemplates (fun part hpart => excused_template source hpart)
      fun templates => ?_
    cases source with
    | list | object => cases hsource
    | _ => exact failsBy_ok _
  next => exact failsBy_error rfl

/-! ## Only values of their shape are read -/

theorem exists_of_bind {α β : Type} {r : Except Fault α} {f : α → Except Fault β} {b : β}
    (h : r >>= f = .ok b) : ∃ a, r = .ok a ∧ f a = .ok b := by
  cases r with
  | error fault => cases h
  | ok a => exact ⟨a, rfl, h⟩

theorem mapM_eq_ok_iff {α β : Type} {f : α → Except Fault β} {items : List α} {found : List β} :
    items.mapM f = .ok found ↔ List.Forall₂ (fun a b => f a = .ok b) items found := by
  induction items generalizing found with
  | nil =>
      rw [List.mapM_nil, List.forall₂_nil_left_iff]
      exact ⟨fun h => (Except.ok.inj h).symm, fun h => congrArg Except.ok h.symm⟩
  | cons item items ih =>
      rw [List.mapM_cons, List.forall₂_cons_left_iff]
      constructor
      · intro h
        obtain ⟨b, hb, h⟩ := exists_of_bind h
        obtain ⟨bs, hbs, h⟩ := exists_of_bind h
        exact ⟨b, bs, hb, ih.mp hbs, (Except.ok.inj h).symm⟩
      · rintro ⟨b, bs, hb, hbs, rfl⟩
        rw [hb, ih.mpr hbs]
        rfl

theorem exists_of_mapM {α β : Type} {f : α → Except Fault β} {items : List α} {found : List β}
    (h : items.mapM f = .ok found) : ∀ a ∈ items, ∃ b, f a = .ok b := by
  have hread := mapM_eq_ok_iff.mp h
  clear h
  induction hread with
  | nil => simp
  | cons hb _ ih => exact List.forall_mem_cons.mpr ⟨⟨_, hb⟩, ih⟩

theorem consistsOf_of_elements {α β : Type} {shape : Value → Bool} {f : Value → Except Fault α}
    {g : List α → Except Fault β} {b : β} (hf : ∀ item a, f item = .ok a → shape item = true)
    (h : v.elements >>= (fun items => items.mapM f >>= g) = .ok b) :
    v.consistsOf shape = true ∧ ∃ found, g found = .ok b := by
  obtain ⟨items, hitems, h⟩ := exists_of_bind h
  obtain ⟨found, hfound, h⟩ := exists_of_bind h
  refine ⟨?_, found, h⟩
  rw [Value.consistsOf, hitems]
  refine List.all_eq_true.mpr fun item hitem => ?_
  obtain ⟨a, ha⟩ := exists_of_mapM hfound item hitem
  exact hf item a ha

theorem isNumeral_of_asInt {n : Int} (h : v.asInt = .ok n) : v.isNumeral = true := by
  cases v with
  | bool | int | text => rfl
  | real x =>
      cases x with
      | infinite => cases h
      | _ => rfl
  | _ => cases h

theorem isOptionalNumeral_of_asInt {other : Value} {n : Int} (h : (v.orElse other).asInt = .ok n) :
    v.isOptionalNumeral = true := by
  unfold Value.orElse at h
  unfold Value.isOptionalNumeral
  split at h
  · rw [isNumeral_of_asInt h, Bool.or_true]
  next hno => simp [hno]

theorem isKeyword_of_keywordsAmong {items : List Value} {keywords : List Text}
    (h : keywordsAmong items = .ok keywords) : ∀ item ∈ items, item.isKeyword = true := by
  induction items generalizing keywords with
  | nil => simp
  | cons item items ih =>
      unfold keywordsAmong at h
      split at h
      next t =>
        obtain ⟨others, hothers, -⟩ := exists_of_bind h
        exact List.forall_mem_cons.mpr ⟨rfl, ih hothers⟩
      next hno =>
        split at h
        · cases h
        next habsent =>
          refine List.forall_mem_cons.mpr ⟨?_, ih h⟩
          cases item with
          | text t => rfl
          | _ => simpa [Value.isKeyword] using habsent

theorem isKeywords_of_readKeywords {keywords : List Text} (h : readKeywords v = .ok keywords) :
    v.isKeywords = true := by
  cases v with
  | null => rfl
  | text t =>
      simp [Value.isKeywords, Value.consistsOf, Value.elements, Value.isKeyword]
  | list items => exact List.all_eq_true.mpr (isKeyword_of_keywordsAmong h)
  | object members => simp [Value.isKeywords, Value.consistsOf, Value.elements, Value.isKeyword]
  | _ => cases h

theorem shape_of_ruleOfMembers {patternValue : Value} {rule : Rule}
    (h : Rule.ofMembers members patternValue = .ok rule) :
    patternValue.isPattern = true
      ∧ (Value.memberOr "multiplier" members (.int 1)).isNumeral = true
      ∧ (Value.memberOr "max_occurrence" members .null).isOptionalNumeral = true := by
  unfold Rule.ofMembers at h
  obtain ⟨source, hsource, h⟩ := exists_of_bind h
  obtain ⟨pattern, hpattern, h⟩ := exists_of_bind h
  obtain ⟨multiplier, hmultiplier, h⟩ := exists_of_bind h
  obtain ⟨role, -, h⟩ := exists_of_bind h
  refine ⟨?_, isNumeral_of_asInt hmultiplier, ?_⟩
  · cases patternValue with
    | text t =>
        obtain rfl := Except.ok.inj hsource
        rw [Value.isPattern, hpattern]
    | _ => cases hsource
  · simp only at h
    unfold Value.isOptionalNumeral
    split at h
    · obtain ⟨most?, hmost, -⟩ := exists_of_bind h
      obtain ⟨most, hmost, -⟩ := exists_of_bind hmost
      rw [isNumeral_of_asInt hmost, Bool.or_true]
    next hno => simp [hno]

theorem exists_of_asObject {α : Type} {f : List (Text × Value) → Except Fault α} {a : α}
    (h : v.asObject >>= f = .ok a) : ∃ members, v = .object members ∧ f members = .ok a := by
  cases v with
  | object members => exact ⟨members, rfl, h⟩
  | _ => cases h

theorem isColumn_of_ofValue {column : Column} (h : Column.ofValue v = .ok column) :
    v.isColumn = true := by
  obtain ⟨mentioned, hmentioned, hread⟩ := exists_of_bind h
  cases mentioned with
  | true =>
      obtain ⟨pattern, hpattern, hmembers⟩ := exists_of_bind hread
      obtain ⟨members, rfl, hbody⟩ := exists_of_asObject hmembers
      obtain ⟨rule, hrule, -⟩ := exists_of_bind hbody
      obtain ⟨hshape, hmultiplier, hmost⟩ := shape_of_ruleOfMembers hrule
      simp only [Value.entry] at hpattern
      split at hpattern
      next hmember =>
        obtain rfl := Except.ok.inj hpattern
        simp only [Value.isColumn, Value.isObject, hmember, hmultiplier, hshape, hmost,
          Bool.and_self]
      next => cases hpattern
  | false =>
      obtain ⟨members, rfl, hbody⟩ := exists_of_asObject hread
      obtain ⟨field, hfield, -⟩ := exists_of_bind hbody
      obtain ⟨length, hlength, hrest⟩ := exists_of_bind hfield
      obtain ⟨multiplier, hmultiplier, -⟩ := exists_of_bind hrest
      have hmember : Value.member? "pattern".toList members = none := by
        simpa [Value.mentions] using hmentioned
      simp only [Value.isColumn, Value.isObject, hmember, isNumeral_of_asInt hmultiplier,
        isOptionalNumeral_of_asInt hlength, Bool.and_self]

theorem isObject_of_key {key : Key} (h : Key.ofValue v = .ok key) :
    v.isObject (fun _ => true) = true := by
  obtain ⟨name, -, hread⟩ := exists_of_bind h
  obtain ⟨members, rfl, -⟩ := exists_of_asObject hread
  rfl

theorem isObject_of_replacement {replacement : Replacement}
    (h : Replacement.ofValue v = .ok replacement) : v.isObject (fun _ => true) = true := by
  obtain ⟨members, rfl, -⟩ := exists_of_asObject h
  rfl

theorem isSection_of_ofValue {sec : Section} (h : Section.ofValue v = .ok sec) :
    v.isSection = true := by
  obtain ⟨members, rfl, hread⟩ := exists_of_asObject h
  obtain ⟨kind, -, hread⟩ := exists_of_bind hread
  obtain ⟨hkeys, keys, hread⟩ := consistsOf_of_elements (fun _ _ => isObject_of_key) hread
  obtain ⟨endKeywords, hend, hread⟩ := exists_of_bind hread
  obtain ⟨recordLength, hlength, hread⟩ := exists_of_bind hread
  obtain ⟨ignoreKeywords, hignore, hread⟩ := exists_of_bind hread
  obtain ⟨hcolumns, -⟩ := consistsOf_of_elements (fun _ _ => isColumn_of_ofValue) hread
  simp only [Value.isSection, Value.isObject, hkeys, isKeywords_of_readKeywords hend,
    isOptionalNumeral_of_asInt hlength, isKeywords_of_readKeywords hignore, hcolumns, Bool.and_self]

theorem isTemplate_of_ofValue {source : Value} {template : Template}
    (h : Template.ofValue source v = .ok template) : v.isTemplate = true := by
  obtain ⟨members, rfl, hread⟩ := exists_of_asObject h
  have hparts : ∀ {g : List Section → List Replacement → Except Fault Template},
      (do
        let sections ← (← (Value.memberOr "sections" members .null).elements).mapM Section.ofValue
        let replacements ← (← (Value.memberOr "replacements" members (.list [])).elements).mapM
          Replacement.ofValue
        g sections replacements) = .ok template →
      (Value.memberOr "sections" members .null).consistsOf Value.isSection = true
        ∧ (Value.memberOr "replacements" members (.list [])).consistsOf
          (Value.isObject fun _ => true) = true := by
    intro g hrest
    obtain ⟨hsections, sections, hrest⟩ :=
      consistsOf_of_elements (fun _ _ => isSection_of_ofValue) hrest
    obtain ⟨hreplacements, -⟩ := consistsOf_of_elements (fun _ _ => isObject_of_replacement) hrest
    exact ⟨hsections, hreplacements⟩
  simp only at hread
  split at hread
  · cases hread
  have hdates : (Value.memberOr "date_formats" members (.list [])).consistsOf (fun _ => true) = true
      ∧ (Value.memberOr "sections" members .null).consistsOf Value.isSection = true
      ∧ (Value.memberOr "replacements" members (.list [])).consistsOf
        (Value.isObject fun _ => true) = true := by
    rw [Value.memberOr]
    split at hread
    next formats hformats =>
      obtain ⟨items, hitems, hrest⟩ := exists_of_bind hread
      refine ⟨?_, hparts hrest⟩
      rw [hformats, Option.getD_some, Value.consistsOf, hitems]
      exact List.all_eq_true.mpr fun _ _ => rfl
    next hformats =>
      rw [hformats]
      exact ⟨rfl, hparts hread⟩
  obtain ⟨hformats, hsections, hreplacements⟩ := hdates
  simp only [Value.isTemplate, Value.isObject, hformats, hsections, hreplacements, Bool.or_true,
    Bool.and_self]

theorem isTemplateFile_of_readDocument {loaded : Value × List Template}
    (h : Catalogue.readDocument v = .ok loaded) : v.isTemplateFile = true := by
  obtain ⟨source, hsource, hread⟩ := exists_of_bind h
  obtain ⟨members, rfl, hread⟩ := exists_of_asObject hread
  obtain ⟨htemplates, templates, hread⟩ :=
    consistsOf_of_elements (fun _ _ => isTemplate_of_ofValue) hread
  simp only [Value.entry] at hsource
  split at hsource
  next hmember =>
    obtain rfl := Except.ok.inj hsource
    have hsource : (Value.memberOr "source" members .null).isSource = true := by
      rw [Value.memberOr, hmember, Option.getD_some]
      unfold Value.isSource
      split <;> first | rfl | cases hread
    simp only [Value.isTemplateFile, Value.isObject, hsource, htemplates, Bool.and_self]
  next => cases hsource

end

end BankStatement
