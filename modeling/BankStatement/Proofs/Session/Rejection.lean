import BankStatement.Proofs.Reading.Assignments
import BankStatement.Proofs.Session.Visit

/-!
# What a rejected line leaves behind

A line whose values cannot be taken can be rejected without the statement being refused: a section
that stops on errors takes it for unreadable, and a dynamic table skips it. The movement it had
begun is gone then, but its header values are not. They were assigned one by one, and those in front
of the value that failed stay (`header_of_rejects`); so a rejected line can leave a header that no
accepted line stands for (`not_header_of_rejects`).

What stays is told by the plan of the line, from `Proofs.Reading.Assignments`: the assignments that
a line asks for, found without making any. A rejected line has carried out a beginning of its plan
(`Plan.exists_endsBehind`), and the header has gone through exactly this beginning, each assignment
as it would be made in a line that can be read. The movement does not come into it, because what an
assignment does to the header does not depend on the movement.

A section without header variables leaves the header alone, whatever its lines hold
(`SparesHeader.plan`). That is the condition under which rejecting a line has no effect at all, and
it is one that can be checked on the template.
-/

namespace BankStatement

/-- A plan gets through its first assignments and no further: the next one fails, or it is the last
one and something is missing behind it. -/
def Plan.EndsBehind (template : Template) (p : Plan) (header : Header) (made : List Assignment) :
    Prop :=
  ∃ target fault, Assignment.makeAll template made ⟨header, some {}⟩ = (target, .ok ())
    ∧ ((∃ a rest, p.assignments = made ++ a :: rest ∧ a.make template target = .error fault)
      ∨ (p.assignments = made ∧ p.missing = some fault))

/-- A section none of whose fields and groups is a header variable. -/
structure Section.SparesHeader (s : Section) : Prop where
  fields : ∀ f ∈ s.fields, f.target.headerVariable? = none
  groups : ∀ r ∈ s.rules, ∀ name ∈ r.pattern.names.map (·.1), HeaderVariable.ofName? name = none

/-- Whether a dynamic table reads lines of this length. -/
def Section.fitsLength (s : Section) (line : Text) : Bool :=
  s.recordLength == 0 || Int.ofNat line.length == s.recordLength

variable {template : Template} {sec : Section} {line : Text} {header : Header} {fault : Fault}

/-- A plan that fails has been carried out up to some place, and the header shows how far. -/
theorem Plan.exists_endsBehind {p : Plan} {target : Target}
    (h : p.carryOut template ⟨header, some {}⟩ = (target, .error fault)) :
    ∃ made, made <+: p.assignments ∧ p.EndsBehind template header made
      ∧ target.header = made.foldl (Assignment.intoHeader template) header := by
  unfold Plan.carryOut at h
  split at h
  next target₁ fault₁ hmake =>
    cases h
    obtain ⟨made, left, hsplit, hmade, -, herror⟩ := Assignment.exists_made hmake
    obtain ⟨a, rest, rfl, ha⟩ := herror _ rfl
    exact ⟨made, ⟨a :: rest, hsplit.symm⟩, ⟨target, fault, hmade, .inl ⟨a, rest, hsplit, ha⟩⟩,
      Assignment.header_of_makeAll hmade⟩
  next target₁ hmake =>
    split at h
    next fault₁ hmissing =>
      cases h
      exact ⟨p.assignments, List.prefix_rfl, ⟨target, fault, hmake, .inr ⟨rfl, hmissing⟩⟩,
        Assignment.header_of_makeAll hmake⟩
    next => cases h

theorem Plan.isError_of_carryOut {p : Plan} {target : Target}
    (h : p.carryOut template ⟨header, some {}⟩ = (target, .ok ())) :
    ∃ m, target.movement = some m ∧ m.isError = false := by
  unfold Plan.carryOut at h
  split at h
  · cases h
  next target₁ hmake =>
    obtain ⟨m, hm, herror⟩ := Assignment.isError_of_makeAll rfl hmake
    split at h
    · cases h
    · cases h
      exact ⟨m, hm, herror⟩

namespace Section

/-- A line is taken for unreadable only if its values could not be taken. -/
theorem carryOut_of_unreadable {today : Date} {withAdditional : Bool} {header' : Header}
    {m : Movement} (hm : m.isError = true)
    (h : sec.readRecord template today withAdditional line header = (header', .ok (some m))) :
    ∃ target fault, (sec.plan withAdditional line).carryOut template ⟨header, some {}⟩
      = (target, .error fault) ∧ header' = target.header := by
  unfold readRecord at h
  split at h
  · cases h
  rw [takeValues_eq] at h
  split at h
  next target htake =>
    obtain ⟨hheader, hresult⟩ := Prod.mk.inj h
    obtain ⟨m₀, hm₀, hno⟩ := Plan.isError_of_carryOut htake
    rw [hm₀] at hresult
    -- a movement that is finished is no error if it was none before
    have hfinished : m₀.finished? today = some m := Except.ok.inj hresult
    unfold Movement.finished? at hfinished
    split at hfinished
    · cases hfinished
      rw [hno] at hm
      cases hm
    · cases hfinished
  next target fault htake =>
    split at h
    · cases h; exact ⟨target, fault, htake, rfl⟩
    · cases h

theorem carryOut_of_fault {today : Date} {withAdditional : Bool} {header' : Header}
    (h : sec.readRecord template today withAdditional line header = (header', .error fault)) :
    ∃ target fault, (sec.plan withAdditional line).carryOut template ⟨header, some {}⟩
      = (target, .error fault) ∧ header' = target.header := by
  unfold readRecord at h
  split at h
  · cases h
  rw [takeValues_eq] at h
  split at h
  · cases h
  next target fault htake =>
    split at h
    · cases h
    · cases h; exact ⟨target, fault, htake, rfl⟩

/-! ## Sections without header variables -/

theorem headerVariable?_of_field (hspares : sec.SparesHeader) {f : Field} (hf : f ∈ sec.fields)
    {value : Text} : ∀ a ∈ f.assignment? value, a.target.headerVariable? = none := by
  intro a ha
  unfold Field.assignment? at ha
  split at ha
  next =>
    cases ha
    exact hspares.fields f hf
  next => cases ha

theorem headerVariable?_of_rule (hspares : sec.SparesHeader) {r : Rule} (hr : r ∈ sec.rules)
    (line : Text) : ∀ a ∈ r.assignments line, a.target.headerVariable? = none := by
  intro a ha
  unfold Rule.assignments at ha
  split at ha
  next => cases ha
  next found _ =>
    obtain ⟨⟨name, value⟩, hgroup, hassignment⟩ := List.mem_filterMap.mp ha
    obtain ⟨pair, hpair, hname⟩ := List.mem_map.mp hgroup
    unfold Rule.groupAssignment? at hassignment
    split at hassignment
    next heq =>
      cases heq
      cases hassignment
      refine hspares.groups r hr name (List.mem_map.mpr ⟨pair, hpair, ?_⟩)
      exact congrArg Prod.fst hname
    next => cases hassignment

theorem headerVariable?_of_cons? {p : Plan} {a? : Option Assignment}
    (ha : ∀ a ∈ a?, a.target.headerVariable? = none)
    (hp : ∀ a ∈ p.assignments, a.target.headerVariable? = none) :
    ∀ a ∈ (p.cons? a?).assignments, a.target.headerVariable? = none := by
  intro a hmem
  rcases List.mem_append.mp hmem with hmem | hmem
  · exact ha a (Option.mem_toList.mp hmem)
  · exact hp a hmem

theorem headerVariable?_of_widthPlan {fields : List Field}
    (h : ∀ f ∈ fields, ∀ value, ∀ a ∈ f.assignment? value, a.target.headerVariable? = none)
    (left : Text) : ∀ a ∈ (widthPlan fields left).assignments, a.target.headerVariable? = none := by
  induction fields generalizing left with
  | nil => intro a ha; cases ha
  | cons f fields ih =>
      simp only [widthPlan]
      generalize (if f.length = 0 then Int.ofNat left.length else f.length) = length
      split
      · intro a ha; cases ha
      · exact headerVariable?_of_cons? (h f (List.mem_cons_self ..) _)
          (ih (fun g hg => h g (List.mem_cons_of_mem _ hg)) _)

theorem headerVariable?_of_columnPlan {fields : List Field}
    (h : ∀ f ∈ fields, ∀ value, ∀ a ∈ f.assignment? value, a.target.headerVariable? = none)
    (count : Nat) (values : List Text) :
    ∀ a ∈ (columnPlan count fields values).assignments, a.target.headerVariable? = none := by
  induction fields generalizing values with
  | nil => rw [columnPlan.eq_def]; intro a ha; cases ha
  | cons f fields ih =>
      cases values with
      | nil => intro a ha; cases ha
      | cons value values =>
          exact headerVariable?_of_cons? (h f (List.mem_cons_self ..) _)
            (ih (fun g hg => h g (List.mem_cons_of_mem _ hg)) _)

/-- No line of a section without header variables has a value for the header. -/
theorem SparesHeader.plan (hspares : sec.SparesHeader) (withAdditional : Bool) (line : Text) :
    ∀ a ∈ (sec.plan withAdditional line).assignments, a.target.headerVariable? = none := by
  have hfields : ∀ a ∈ (sec.fieldPlan line).assignments, a.target.headerVariable? = none := by
    have hall : ∀ f ∈ sec.fields, ∀ value, ∀ a ∈ f.assignment? value,
        a.target.headerVariable? = none := fun f hf _ => headerVariable?_of_field hspares hf
    unfold fieldPlan
    split
    · intro a ha; cases ha
    · split
      · exact headerVariable?_of_widthPlan hall line
      · split
        · intro a ha; cases ha
        · exact headerVariable?_of_columnPlan hall _ _
  have hrules : ∀ role, ∀ a ∈ sec.ruleAssignments role line, a.target.headerVariable? = none := by
    intro role a ha
    obtain ⟨r, hr, ha⟩ := List.mem_flatMap.mp ha
    exact headerVariable?_of_rule hspares (List.mem_filter.mp hr).1 line a ha
  unfold Section.plan
  simp only
  split
  · exact hfields
  · intro a ha
    rcases List.mem_append.mp ha with ha | ha
    · rcases List.mem_append.mp ha with ha | ha
      · exact hfields a ha
      · exact hrules .primary a ha
    · split at ha
      · exact hrules .additional a ha
      · cases ha

end Section

/-- Assignments to movements leave a header alone. -/
theorem Assignment.foldl_intoHeader {as : List Assignment}
    (h : ∀ a ∈ as, a.target.headerVariable? = none) (header : Header) :
    as.foldl (intoHeader template) header = header := by
  induction as with
  | nil => rfl
  | cons a as ih =>
      obtain ⟨ha, has⟩ := List.forall_mem_cons.mp h
      rw [List.foldl_cons, intoHeader_of_no_header ha, ih has]

namespace Session

variable {policy : Option Continuation} {s t : Session}

/-- A line is rejected: it is taken for unreadable, or its fault is one of the statement, for which
a dynamic table skips it. The header is the one that is left. -/
inductive Rejects (policy : Option Continuation) (sec : Section) (line : Text) (s : Session) :
    Header → Prop where
  | unreadable {header : Header} {m : Movement}
      (hp : s.parse policy sec line = (header, .ok (some m))) (hm : m.isError = true) :
      Rejects policy sec line s header
  | skipped {header : Header} {fault : Fault}
      (hp : s.parse policy sec line = (header, .error fault))
      (hf : fault.isStatementFault = true) : Rejects policy sec line s header

/-- A dynamic table goes on behind a rejected line with the header that this has left. -/
theorem dynamicLine_of_rejects (hfits : sec.fitsLength line = true)
    (h : s.Rejects policy sec line header) :
    s.dynamicLine policy sec line = ({ s with header }, .ok none) := by
  have hlength : ¬(sec.recordLength ≠ 0 ∧ Int.ofNat line.length ≠ sec.recordLength) := by
    unfold Section.fitsLength at hfits
    grind
  unfold dynamicLine
  rw [if_neg hlength]
  cases h with
  | unreadable hp hm =>
      unfold parse at hp
      simp only [hp, hm, if_true]
  | skipped hp hf =>
      unfold parse at hp
      simp only [hp, hf, if_true]

/-- A rejected line leaves the header with the values in front of the one that failed, in the order
of the line and each as it would be assigned in a line that can be read. So it leaves the header
alone where no header variable stands there, and always in a section without any. -/
theorem header_of_rejects (policy : Option Continuation) (sec : Section) (line : Text) (s : Session)
    (header : Header) (h : s.Rejects policy sec line header) :
    (∃ made, made <+: (sec.plan policy.isNone line).assignments
        ∧ (sec.plan policy.isNone line).EndsBehind s.template s.header made
        ∧ header = made.foldl (Assignment.intoHeader s.template) s.header
        ∧ ((∀ a ∈ made, a.target.headerVariable? = none) → header = s.header))
      ∧ (sec.SparesHeader → header = s.header)
      ∧ (sec.fitsLength line = true →
        s.dynamicLine policy sec line = ({ s with header }, .ok none)) := by
  have hplan : ∃ target fault, (sec.plan policy.isNone line).carryOut s.template
      ⟨s.header, some {}⟩ = (target, .error fault) ∧ header = target.header := by
    cases h with
    | unreadable hp hm => exact Section.carryOut_of_unreadable hm hp
    | skipped hp => exact Section.carryOut_of_fault hp
  obtain ⟨target, fault, hout, rfl⟩ := hplan
  obtain ⟨made, hfirst, hends, hheader⟩ := Plan.exists_endsBehind hout
  refine ⟨⟨made, hfirst, hends, hheader, fun hmade => ?_⟩, fun hspares => ?_,
    fun hfits => dynamicLine_of_rejects hfits h⟩
  · rw [hheader, Assignment.foldl_intoHeader hmade]
  · rw [hheader, Assignment.foldl_intoHeader]
    exact fun a ha => hspares.plan _ _ a (hfirst.subset ha)

end Session

/-! ## Lines that say whose account they are on -/

/-- Rows with an account number in front of their date. -/
def Section.owned (kind : SectionKind) (stopOnError : Bool) : Section where
  name := .ofString "Rows"
  kind
  stopOnError
  columns := [.named "Account" "BankAccountNo", .named "Date" "PostingDate"]

/-- A layout of such rows. -/
def Template.owned (kind : SectionKind) (stopOnError : Bool) : Template where
  name := .ofString "Owned"
  source := .ofString "Text"
  sections := [.owned kind stopOnError]

namespace Session

/-- A table that stops on errors takes a row without a date for unreadable, and the account number
in front of it stays. -/
theorem parse_owned_unreadable :
    (start (.owned .table true) ⟨2024, 12, 31, by decide⟩).parse none (.owned .table true)
        "4711;open".toList
      = ({ accountNumber := "4711".toList }, .ok (some Movement.unreadable)) := by
  rfl

/-- A dynamic table skips such a row, and the account number stays as well. -/
theorem parse_owned_skipped :
    (start (.owned .dynamicTable false) ⟨2024, 12, 31, by decide⟩).parse none
        (.owned .dynamicTable false) "4711;open".toList
      = ({ accountNumber := "4711".toList }, .error (.unreadable "PostingDate".toList
          (some "open".toList) (some (["%d.%m.%Y", "%d.%m.%y", "%Y-%m-%d"].map (·.toList))))) := by
  rfl

/-- Neither way to reject a line leaves the header alone. In both cases the account number in front
of the unreadable date has been assigned, although no movement says that the statement is about this
account. -/
theorem not_header_of_rejects :
    (¬ ∀ (policy : Option Continuation) (sec : Section) (line : Text) (s : Session)
        (header : Header) (m : Movement),
        s.parse policy sec line = (header, .ok (some m)) → m.isError = true → header = s.header)
      ∧ ¬ ∀ (policy : Option Continuation) (sec : Section) (line : Text) (s : Session)
        (header : Header) (fault : Fault),
        s.parse policy sec line = (header, .error fault) → fault.isStatementFault = true →
        s.dynamicLine policy sec line = ({ s with header }, .ok none) → header = s.header := by
  have hno : ({ accountNumber := "4711".toList } : Header) ≠ {} := by decide
  refine ⟨fun hall => ?_, fun hall => ?_⟩
  · exact hno (hall _ _ _ _ _ _ parse_owned_unreadable rfl)
  · exact hno (hall _ _ _ _ _ _ parse_owned_skipped rfl
      (dynamicLine_of_rejects rfl (.skipped parse_owned_skipped rfl)))

/-- Of a row without a date the account number has been assigned, and nothing else. -/
theorem header_of_rejects_owned :
    (start (.owned .dynamicTable false) ⟨2024, 12, 31, by decide⟩).Rejects none
        (.owned .dynamicTable false) "4711;open".toList { accountNumber := "4711".toList }
      ∧ ∃ made, made <+: [⟨.ofString "BankAccountNo", "4711".toList, 1⟩,
          ⟨.ofString "PostingDate", "open".toList, 1⟩]
        ∧ ({ accountNumber := "4711".toList } : Header)
          = made.foldl (Assignment.intoHeader (.owned .dynamicTable false)) {} := by
  have hrejects : (start (.owned .dynamicTable false) ⟨2024, 12, 31, by decide⟩).Rejects none
      (.owned .dynamicTable false) "4711;open".toList { accountNumber := "4711".toList } :=
    .skipped parse_owned_skipped rfl
  obtain ⟨⟨made, hfirst, -, hheader, -⟩, -⟩ := header_of_rejects _ _ _ _ _ hrejects
  exact ⟨hrejects, made, hfirst, hheader⟩

end Session

end BankStatement
