import BankStatement.Proofs.Reading.Assigning
import BankStatement.Proofs.Text.Splitting
import BankStatement.Session.Record

/-!
# Labels with values

A key stands for its value on a line if its name, with as many separators as it has, ends the label
in front of one more separator; all that is behind this one is the value, whatever it contains
(`Key.value?_eq_some_iff`). A line is looked up key by key, and what is found is assigned in the
order of the keys, up to the first value that cannot be read (`exists_made_of_readKeys`).

The program compares lists of parts: the line is split at the separator, as many parts are joined as
the name has, and the text so made has to end with the name. Put in terms of the line this is a
statement about a number of separators, since splitting and joining at one character lose nothing. A
separator of several characters would not allow it, for its occurrences can overlap.

Texts of a header are merged one by one, so what a line leaves in one of them comes from the keys of
this variable alone (`readKeys_entry`), and with one key for each variable from at most one of them
(`filterMap_entryFor`). `Header.entry` looks at one place of a header, and `Mode.join` says what
becomes of it; with these a line is a list of texts for a place, and a block of lines one such list
behind the other. Dates are left out, since they are converted and can fail.
-/

namespace BankStatement

variable {template : Template} {header : Header} {key : Key} {keys : List Key} {c : Char}
  {separator line name value : Text}

/-! ## The value of a key -/

theorem Section.keyValue?_eq_some_iff :
    Section.keyValue? [c] name (Text.splitOn [c] line) = some value
      ↔ ∃ label, line = label ++ c :: value ∧ label.count c = name.count c ∧ name <:+ label := by
  have hne : [c] ≠ [] := List.cons_ne_nil c []
  simp only [Section.keyValue?, Text.length_splitOn, Bool.and_eq_true, List.isSuffixOf_iff_suffix,
    decide_eq_true_eq, Option.ite_none_right_eq_some, Option.some.injEq]
  constructor
  · rintro ⟨⟨hname, hmore⟩, rfl⟩
    have hlength := Text.length_splitOn c line
    have htaken : ((Text.splitOn [c] line).take (name.count c + 1)).length = name.count c + 1 := by
      rw [List.length_take]
      omega
    have htake : (Text.splitOn [c] line).take (name.count c + 1) ≠ [] := by
      intro hnil
      rw [hnil] at htaken
      cases htaken
    have hdrop : (Text.splitOn [c] line).drop (name.count c + 1) ≠ [] := by
      rw [ne_eq, List.drop_eq_nil_iff]
      omega
    refine ⟨Text.joinWith [c] ((Text.splitOn [c] line).take (name.count c + 1)), ?_, ?_, hname⟩
    · calc line
          = Text.joinWith [c] ((Text.splitOn [c] line).take (name.count c + 1)
              ++ (Text.splitOn [c] line).drop (name.count c + 1)) := by
            rw [List.take_append_drop, Text.joinWith_splitOn hne]
        _ = _ := by
            rw [Text.joinWith_append [c] htake hdrop, List.append_assoc, List.singleton_append]
    · have hsplit := Text.splitOn_joinWith htake fun part hpart =>
        Text.not_mem_of_mem_splitOn (List.mem_of_mem_take hpart)
      have hcount := Text.length_splitOn c
        (Text.joinWith [c] ((Text.splitOn [c] line).take (name.count c + 1)))
      rw [hsplit, htaken] at hcount
      omega
  · rintro ⟨label, rfl, hcount, hname⟩
    have hlabel : name.count c + 1 = (Text.splitOn [c] label).length := by
      rw [Text.length_splitOn, hcount]
    rw [Text.splitOn_append_cons, hlabel, List.take_left, List.drop_left,
      Text.joinWith_splitOn hne, Text.joinWith_splitOn hne, List.count_append, List.count_cons_self,
      ← hlabel, hcount]
    exact ⟨⟨hname, by omega⟩, rfl⟩

/-- The value that a line has for a key with a variable. -/
def Key.value? (separator line : Text) (key : Key) : Option Text :=
  if key.target.isTruthy then
    match key.name with
    | .text name => Section.keyValue? separator name (Text.splitOn separator line)
    | _ => none
  else none

theorem Key.isTruthy_of_value? (h : key.value? separator line = some value) :
    key.target.isTruthy = true := by
  unfold Key.value? at h
  split at h
  · assumption
  · cases h

theorem Key.value?_eq_some_iff :
    key.value? [c] line = some value ↔ key.target.isTruthy = true ∧ ∃ name label,
      key.name = .text name ∧ line = label ++ c :: value ∧ label.count c = name.count c
        ∧ name <:+ label := by
  unfold Key.value?
  split
  next htarget =>
    split
    next name hname =>
      simp [Section.keyValue?_eq_some_iff, hname, htarget]
    next hname =>
      simp only [reduceCtorEq, false_iff, not_and]
      rintro - ⟨name, label, h, -⟩
      exact hname name h
  next htarget => simp [htarget]

/-! ## What is assigned -/

section

open Section (readKeys)

/-- A key without a value leaves the line to the other keys. -/
theorem readKeys_of_none (h : key.value? separator line = none)
    (hname : key.target.isTruthy = true → ∃ name, key.name = .text name) (header : Header) :
    readKeys template separator (Text.splitOn separator line) (key :: keys) header
      = readKeys template separator (Text.splitOn separator line) keys header := by
  rw [readKeys]
  split
  next htarget =>
    obtain ⟨name, hname⟩ := hname htarget
    rw [Key.value?, if_pos htarget, hname] at h
    rw [hname]
    simp only [h]
  next => rfl

/-- The value of a key is assigned in front of the other keys. -/
theorem readKeys_of_some (h : key.value? separator line = some value) (header : Header) :
    readKeys template separator (Text.splitOn separator line) (key :: keys) header
      = match Target.assignNamed template key.target value key.mode 1 ⟨header, none⟩ with
        | .error fault => (header, .error fault)
        | .ok (_, target) =>
          readKeys template separator (Text.splitOn separator line) keys target.header := by
  unfold Key.value? at h
  split at h
  next htarget =>
    split at h
    next name hname =>
      rw [readKeys, if_pos htarget, hname]
      cases hassign : Target.assignNamed template key.target value key.mode 1 ⟨header, none⟩ <;>
        simp only [h, hassign]
    next => cases h
  next => cases h

/-- A key with a variable whose name is no text stops the look-up. -/
theorem readKeys_of_unnamed (htarget : key.target.isTruthy = true)
    (hname : ∀ name, key.name ≠ .text name) (header : Header) :
    readKeys template separator (Text.splitOn separator line) (key :: keys) header
      = (header, .error .notSupported) := by
  rw [readKeys, if_pos htarget]
  split
  next name h => exact absurd h (hname name)
  next => rfl

end

/-- A header with the value of a key, if that can be read. -/
def Header.withLabel (template : Template) (header : Header) (found : Key × Text) : Header :=
  match Target.assignNamed template found.1.target found.2 found.1.mode 1 ⟨header, none⟩ with
  | .ok (_, target) => target.header
  | .error _ => header

/-- The keys that a line has a value for, in order and with their values. -/
def Key.foundAmong (separator line : Text) (keys : List Key) : List (Key × Text) :=
  keys.filterMap fun key => (key.value? separator line).map (key, ·)

/-- What stops the look-up of a line: the next value cannot be assigned, or the name of a key is no
text. -/
inductive Key.Stops (template : Template) (keys : List Key) (header : Header) (fault : Fault) :
    List (Key × Text) → Prop where
  | unreadable {key : Key} {value : Text} {left : List (Key × Text)}
      (h : Target.assignNamed template key.target value key.mode 1 ⟨header, none⟩ = .error fault) :
      Stops template keys header fault ((key, value) :: left)
  | unnamed {key : Key} {left : List (Key × Text)} (hkey : key ∈ keys)
      (htarget : key.target.isTruthy = true) (hname : ∀ name, key.name ≠ .text name)
      (h : fault = .notSupported) : Stops template keys header fault left

theorem Key.Stops.cons {fault : Fault} {left : List (Key × Text)}
    (h : Key.Stops template keys header fault left) (key : Key) :
    Key.Stops template (key :: keys) header fault left := by
  cases h with
  | unreadable h => exact .unreadable h
  | unnamed hkey htarget hname h => exact .unnamed (List.mem_cons_of_mem _ hkey) htarget hname h

theorem Key.foundAmong_cons (separator line : Text) (key : Key) (keys : List Key) :
    Key.foundAmong separator line (key :: keys)
      = ((key.value? separator line).map (key, ·)).toList
        ++ Key.foundAmong separator line keys := by
  rw [Key.foundAmong, List.filterMap_cons]
  cases key.value? separator line <;> rfl

/-- What is found on a line is assigned in the order of the keys, all of it unless something stops
the look-up. -/
theorem exists_made_of_readKeys (separator line : Text) (keys : List Key) (header : Header) :
    ∃ made left, Key.foundAmong separator line keys = made ++ left
      ∧ (Section.readKeys template separator (Text.splitOn separator line) keys header).1
        = made.foldl (Header.withLabel template) header
      ∧ ((Section.readKeys template separator (Text.splitOn separator line) keys header).2
          = .ok () →
        left = [])
      ∧ ∀ fault,
        (Section.readKeys template separator (Text.splitOn separator line) keys header).2
          = .error fault →
        Key.Stops template keys (made.foldl (Header.withLabel template) header) fault left := by
  induction keys generalizing header with
  | nil => exact ⟨[], [], rfl, rfl, fun _ => rfl, by simp [Section.readKeys]⟩
  | cons key keys ih =>
      rw [Key.foundAmong_cons]
      cases hvalue : key.value? separator line with
      | none =>
          by_cases hname : key.target.isTruthy = true → ∃ name, key.name = .text name
          · rw [readKeys_of_none hvalue hname]
            obtain ⟨made, left, hfound, hmade, hok, hstops⟩ := ih header
            exact ⟨made, left, hfound, hmade, hok, fun fault h => (hstops fault h).cons key⟩
          · obtain ⟨htarget, hname⟩ := Classical.not_imp.mp hname
            have hname := not_exists.mp hname
            rw [readKeys_of_unnamed htarget hname]
            refine ⟨[], _, rfl, rfl, by simp, ?_⟩
            rintro _ ⟨⟩
            exact .unnamed List.mem_cons_self htarget hname rfl
      | some value =>
          rw [readKeys_of_some hvalue]
          cases hassign :
              Target.assignNamed template key.target value key.mode 1 ⟨header, none⟩ with
          | error fault =>
              refine ⟨[], _, rfl, rfl, by simp, ?_⟩
              rintro _ ⟨⟩
              exact .unreadable hassign
          | ok assigned =>
              obtain ⟨made, left, hfound, hmade, hok, hstops⟩ := ih assigned.2.header
              have hheader : header.withLabel template (key, value) = assigned.2.header := by
                simp only [Header.withLabel, hassign]
              refine ⟨(key, value) :: made, left, by rw [hfound]; rfl, ?_, hok, fun fault h => ?_⟩
              · rw [List.foldl_cons, hheader]
                exact hmade
              · rw [List.foldl_cons, hheader]
                exact (hstops fault h).cons key

/-! ## The texts of a header -/

namespace HeaderVariable

/-- Whether a place holds a text, and not a date. -/
def isText : HeaderVariable → Bool
  | .periodStart => false
  | .periodEnd => false
  | _ => true

/-- The form in which a text is held: without the white space around it, and an account number
without any spaces. -/
def clean (v : HeaderVariable) (value : Text) : Text :=
  match v with
  | .accountNumber => Text.strip (Text.erase ' ' value)
  | .iban => Text.strip (Text.erase ' ' value)
  | _ => Text.strip value

end HeaderVariable

/-- The text in a place of a header. -/
def Header.entry (header : Header) : HeaderVariable → Option Text
  | .accountNumber => some header.accountNumber
  | .iban => header.iban
  | .bankCode => header.bankCode
  | .accountHolder => header.accountHolder
  | .description => some header.description
  | .periodStart => none
  | .periodEnd => none

/-- What becomes of the text in a place when a new one arrives. -/
def Mode.join (mode : Mode) (old : Option Text) (new : Text) : Option Text :=
  mode.merge (Text.isFilled old) old (some new)

/-- A header that differs from another one in texts only. -/
structure Header.SamePeriod (header header' : Header) : Prop where
  start_eq : header'.periodStart = header.periodStart
  end_eq : header'.periodEnd = header.periodEnd

theorem Header.SamePeriod.trans {header₁ header₂ header₃ : Header}
    (h : Header.SamePeriod header₁ header₂) (h' : Header.SamePeriod header₂ header₃) :
    Header.SamePeriod header₁ header₃ :=
  ⟨h'.start_eq.trans h.start_eq, h'.end_eq.trans h.end_eq⟩

variable {v : HeaderVariable}

/-- A text that is assigned to its place is joined with the one that is there, and concerns no other
place. -/
theorem Header.assign_entry (hv : v.isText = true) (template : Template) (header : Header)
    (name value : Text) (mode : Mode) :
    ∃ header', header.assign template v name value mode = .ok header'
      ∧ header'.entry v = mode.join (header.entry v) (v.clean value)
      ∧ (∀ w, w ≠ v → header'.entry w = header.entry w) ∧ header.SamePeriod header' := by
  cases v with
  | periodStart | periodEnd => cases hv
  | accountNumber | description =>
      refine ⟨_, rfl, ?_, fun w hw => by cases w <;> first | rfl | exact absurd rfl hw, ⟨rfl, rfl⟩⟩
      exact apply_ite some _ _ _
  | _ =>
      exact ⟨_, rfl, rfl, fun w hw => by cases w <;> first | rfl | exact absurd rfl hw, ⟨rfl, rfl⟩⟩

theorem Key.assign_entry (hv : key.target.headerVariable? = some v) (htext : v.isText = true)
    (template : Template) (header : Header) (value : Text) :
    ∃ header', Target.assignNamed template key.target value key.mode 1 ⟨header, none⟩
        = .ok (true, ⟨header', none⟩)
      ∧ header'.entry v = key.mode.join (header.entry v) (v.clean value)
      ∧ (∀ w, w ≠ v → header'.entry w = header.entry w) ∧ header.SamePeriod header' := by
  unfold Value.headerVariable? at hv
  split at hv
  next name htarget =>
    obtain ⟨header', hassign, hrest⟩ := header.assign_entry htext template name value key.mode
    refine ⟨header', ?_, hrest⟩
    simp only [Target.assignNamed, htarget, Target.assign, hv, hassign, bind, Except.bind, pure,
      Except.pure]
  next => cases hv

/-- The text that a line has for a place of the header by a key, and the mode in which it
arrives. -/
def Key.entryFor (separator line : Text) (v : HeaderVariable) (key : Key) : Option (Mode × Text) :=
  if key.target.headerVariable? = some v then
    (key.value? separator line).map fun value => (key.mode, v.clean value)
  else none

theorem Key.entryFor_of_some (hvalue : key.value? separator line = some value)
    (hv : key.target.headerVariable? = some v) (w : HeaderVariable) :
    key.entryFor separator line w = if v = w then some (key.mode, w.clean value) else none := by
  simp only [Key.entryFor, hv, hvalue, Option.some.injEq, Option.map_some]

theorem Key.entryFor_of_none (hvalue : key.value? separator line = none) (w : HeaderVariable) :
    key.entryFor separator line w = none := by
  rw [Key.entryFor, hvalue, Option.map_none, ite_self]

/-- Each key with a variable has a text for its name and a place for texts for its variable. -/
def Key.AllText (keys : List Key) : Prop :=
  ∀ key ∈ keys, key.target.isTruthy = true →
    (∃ name, key.name = .text name) ∧ ∃ v, key.target.headerVariable? = some v ∧ v.isText = true

/-- A line is looked up without a fault, and each text of the header is joined with what the line
has for its place. -/
theorem readKeys_entry (template : Template) (separator line : Text) (hkeys : Key.AllText keys)
    (header : Header) :
    ∃ header', Section.readKeys template separator (Text.splitOn separator line) keys header
        = (header', .ok ())
      ∧ (∀ v, header'.entry v = (keys.filterMap (·.entryFor separator line v)).foldl
          (fun old new => new.1.join old new.2) (header.entry v))
      ∧ header.SamePeriod header' := by
  induction keys generalizing header with
  | nil => exact ⟨header, rfl, fun _ => rfl, rfl, rfl⟩
  | cons key keys ih =>
      obtain ⟨hkey, hkeys⟩ := List.forall_mem_cons.mp hkeys
      have ih := ih hkeys
      simp only [List.filterMap_cons]
      cases hvalue : key.value? separator line with
      | none =>
          rw [readKeys_of_none hvalue fun htarget => (hkey htarget).1]
          simpa only [Key.entryFor_of_none hvalue] using ih header
      | some value =>
          obtain ⟨-, v, hv, htext⟩ := hkey (Key.isTruthy_of_value? hvalue)
          obtain ⟨next, hassign, hentry, hothers, hperiod⟩ :=
            key.assign_entry hv htext template header value
          rw [readKeys_of_some hvalue, hassign]
          obtain ⟨header', hread, hentries, hperiod'⟩ := ih next
          refine ⟨header', hread, fun w => ?_, hperiod.trans hperiod'⟩
          rw [hentries, Key.entryFor_of_some hvalue hv]
          by_cases hw : v = w
          · subst hw
            rw [if_pos rfl, List.foldl_cons, hentry]
          · rw [if_neg hw, hothers w (Ne.symm hw)]

/-- With one key for each variable, a place gets at most one text from a line. -/
theorem filterMap_entryFor (hdistinct : (keys.filterMap (·.target.headerVariable?)).Nodup)
    (hkey : key ∈ keys) (hv : key.target.headerVariable? = some v) :
    keys.filterMap (·.entryFor separator line v) = (key.entryFor separator line v).toList := by
  induction keys with
  | nil => cases hkey
  | cons first keys ih =>
      rw [List.filterMap_cons] at hdistinct ⊢
      by_cases hfirst : first.target.headerVariable? = some v
      · -- the other keys have other variables
        rw [hfirst, List.nodup_cons] at hdistinct
        have hnone : keys.filterMap (·.entryFor separator line v) = [] := by
          rw [List.filterMap_eq_nil_iff]
          intro other hother
          have hne : other.target.headerVariable? ≠ some v := fun h =>
            hdistinct.1 (List.mem_filterMap.mpr ⟨other, hother, h⟩)
          rw [Key.entryFor, if_neg hne]
        have heq : key = first := by
          rcases List.mem_cons.mp hkey with rfl | hmem
          · rfl
          · exact absurd (List.mem_filterMap.mpr ⟨key, hmem, hv⟩) hdistinct.1
        rw [heq, hnone]
        cases first.entryFor separator line v <;> rfl
      · have hmem : key ∈ keys := by
          rcases List.mem_cons.mp hkey with rfl | hmem
          · exact absurd hv hfirst
          · exact hmem
        have hdistinct' : (keys.filterMap (·.target.headerVariable?)).Nodup := by
          cases hvar : first.target.headerVariable? with
          | none => rwa [hvar] at hdistinct
          | some u =>
              rw [hvar] at hdistinct
              exact (List.nodup_cons.mp hdistinct).2
        rw [Key.entryFor, if_neg hfirst]
        exact ih hdistinct' hmem

end BankStatement
