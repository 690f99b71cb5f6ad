import BankStatement.Proofs.Session.Folding
import BankStatement.Proofs.Session.Lockstep

/-!
# Holding back without folding

A continuation policy gives movements out late: it holds each one until the next one begins or its
table ends. Where no line continues a movement this delay is all that it does
(`run_of_standsAlone`).

`settled` is the session that has let go of what it holds, with the movements that it gives out on
letting go. Without additional rules, a row that says nothing, is unreadable or is complete leaves
the session without a policy the settled one of the session with a policy (`visit_settled`). The
movements owed are the ones given out on settling, and the keys seen for duplicates are paid with
them: a movement that is held has not been compared with those given out before, one that has been
given out has, so the two readings differ in their keys by exactly the movement that is owed.

`StandsAlone` is asked of rows only, and only in tables. A row that is incomplete is what the
assumption has to exclude. Under a policy it is folded onto the held movement or passed over, and
without one it would be a movement of its own. In the other kinds of sections a look does not depend
on the policy at all (`visit_policy`).
-/

namespace BankStatement

def Template.HasNoAdditional (template : Template) : Prop :=
  ∀ sec ∈ template.sections, sec.rulesOf .additional = []

/-- Without additional rules it does not matter whether they are tried. -/
theorem Section.readRecord_of_no_additional {sec : Section} (hrules : sec.rulesOf .additional = [])
    (template : Template) (today : Date) (withAdditional withAdditional' : Bool) (line : Text)
    (header : Header) :
    sec.readRecord template today withAdditional line header
      = sec.readRecord template today withAdditional' line header := by
  have htake : ∀ withAdditional target, sec.takeValues template withAdditional line target
      = sec.takeValues template false line target := by
    intro withAdditional target
    unfold takeValues
    rw [hrules]
    split
    · rfl
    · split
      · rfl
      · split <;> simp [Rule.applyAll]
  rw [readRecord, readRecord, htake withAdditional, htake withAdditional']

namespace Session

variable {policy : Option Continuation} {c : Continuation} {sec : Section} {line : Text}
  {s t : Session} {owed : List Movement}

/-- A session that has let go of what it holds, and what it gives out on letting go. -/
def settled (s : Session) : Session × List Movement :=
  emit? { s with held := none, foldCount := 0 } s.held

/-- A line that a table reads as a row says nothing by itself, or cannot be read, or is complete. -/
def StandsAlone (c : Continuation) (sec : Section) (line : Text) (s : Session) : Prop :=
  s.stage = .table → s.isRow sec line = true →
    ∀ m ∈ (s.parse (some c) sec line).2.toOption.join,
      m.isError = true ∨ c.isComplete (some m) = true

instance (c : Continuation) (sec : Section) (line : Text) (s : Session) :
    Decidable (StandsAlone c sec line s) :=
  inferInstanceAs (Decidable (s.stage = .table → s.isRow sec line = true →
    ∀ m ∈ (s.parse (some c) sec line).2.toOption.join,
      m.isError = true ∨ c.isComplete (some m) = true))

/-! ## Settling -/

/-- Giving out looks at the current section and the keys seen, and changes these keys only. -/
theorem emit?_of_same (hcur : t.current = s.current) (hseen : t.seen = s.seen)
    (m? : Option Movement) :
    t.emit? m? = ({ t with seen := (s.emit? m?).1.seen }, (s.emit? m?).2) := by
  cases t
  cases hcur
  cases hseen
  cases m? with
  | none => rfl
  | some m =>
      simp only [emit?, emit]
      split
      · split <;> rfl
      · rfl

theorem settled_eq (s : Session) :
    s.settled = ({ s with held := none, foldCount := 0, seen := (s.emit? s.held).1.seen },
      (s.emit? s.held).2) := by
  unfold settled
  exact emit?_of_same (s := s) (by rfl) (by rfl) s.held

theorem settled_of_held (hs : Tidy policy s) (hh : s.held = none) : s.settled = (s, []) := by
  have hcount := hs.foldCount_eq hh
  simp only [settled, hh, emit?, Prod.mk.injEq, and_true]
  rw [← hh, ← hcount]

theorem settled_header (s : Session) (header : Header) :
    ({ s with header } : Session).settled = ({ s.settled.1 with header }, s.settled.2) := by
  rw [settled_eq s, settled]
  exact emit?_of_same (s := s) (by rfl) (by rfl) s.held

theorem settled_lineNo (s : Session) (n : Nat) :
    ({ s with lineNo := n } : Session).settled
      = ({ s.settled.1 with lineNo := n }, s.settled.2) := by
  rw [settled_eq s, settled]
  exact emit?_of_same (s := s) (by rfl) (by rfl) s.held

/-- A movement is held in place of the one before, which is given out: the debt has moved on by one
movement. -/
theorem settled_next (s : Session) (header : Header) (m : Movement) :
    ∃ t : Session, emit? { s with header, held := some m, foldCount := 0 } s.held = (t, s.settled.2)
      ∧ t.settled = emit { s.settled.1 with header } m := by
  rw [settled_eq s]
  exact ⟨_, emit?_of_same (s := s) (by rfl) (by rfl) s.held, rfl⟩

/-- The end of a table settles. -/
theorem endTable_settled (c : Continuation) (s : Session) :
    s.endTable (some c) = (s.settled.1.leave, s.settled.2) := rfl

/-! ## Looks at a table -/

theorem visit_of_not_row (hst : s.stage = .table) (hrow : s.isRow sec line = false) :
    s.visit policy sec line
      = ((s.endTable policy).1, .ok ⟨(s.endTable policy).2, Text.isBlankText line⟩) := by
  simp only [isRow, hst, Bool.not_eq_false', Bool.or_eq_true] at hrow
  simp only [visit, hst, endTableAt]
  cases hblank : Text.isBlankText line with
  | true => rfl
  | false => simp only [hrow.resolve_left (by simp [hblank]), Bool.false_eq_true, if_false, if_true]

theorem visit_of_row (hst : s.stage = .table) (hrow : s.isRow sec line = true) :
    s.visit policy sec line = match s.tableLine policy sec line with
      | (t, .error fault) => (t, .error fault)
      | (t, .ok m?) =>
        if m?.any (·.isError) then ((t.endTable policy).1, .ok ⟨(t.endTable policy).2, false⟩)
        else ((t.emit? m?).1, .ok ⟨(t.emit? m?).2, true⟩) := by
  simp only [isRow, hst, Bool.not_eq_true', Bool.or_eq_false_iff] at hrow
  simp only [visit, hst, hrow, endTableAt, Bool.false_eq_true, if_false]
  cases s.tableLine policy sec line with
  | mk t result => rcases result with fault | _ | m <;> rfl

/-- What a row that stands alone does under a policy, told by what it says by itself. -/
theorem foldLine_alone (hst : s.stage = .table) (hrow : s.isRow sec line = true)
    (hrules : sec.rulesOf .additional = []) (halone : StandsAlone c sec line s) :
    s.foldLine c sec line = match s.parse (some c) sec line with
      | (header, .error fault) => ({ s with header }, .error fault)
      | (header, .ok none) => ({ s with header }, .ok none)
      | (header, .ok (some m)) =>
        if m.isError then ({ s with header }, .ok (some m))
        else ({ s with header, held := some m, foldCount := 0 }, .ok s.held) := by
  have hp := halone hst hrow
  cases hparse : s.parse (some c) sec line with
  | mk header result =>
      rw [hparse] at hp
      have hread : sec.readRecord s.template s.today false line s.header = (header, result) :=
        hparse
      rcases result with fault | _ | m
      · simp only [foldLine, hread]
      · simp only [foldLine, hread, hrules, foldRules]
        cases s.held <;> simp
      · cases herror : m.isError with
        | true =>
            simp only [foldLine, hread, herror, Bool.true_or, if_true]
            cases s.held <;> rfl
        | false =>
            have hcomplete := (hp m rfl).resolve_left (by simp [herror])
            simp only [herror, Bool.false_eq_true, if_false]
            exact foldLine_complete hread herror hcomplete

/-- Outside tables a look does not depend on the policy. -/
theorem visit_policy (hs : Tidy (some c) s) (hst : s.stage ≠ .table)
    (hrules : sec.rulesOf .additional = []) :
    s.visit (some c) sec line = s.visit none sec line := by
  have hend : s.endTable (some c) = s.endTable none := by
    rw [endTable_settled, settled_of_held hs (hs.held_eq_none hst)]
    rfl
  have hline : s.dynamicLine (some c) sec line = s.dynamicLine none sec line := by
    unfold dynamicLine
    rw [Section.readRecord_of_no_additional hrules _ _ _ (none : Option Continuation).isNone]
  unfold visit
  simp only [endTableAt, hend, hline]
  split
  case h_5 => exact absurd ‹_› hst
  all_goals rfl

/-! ## The two readings -/

/-- The pairing of a session under a policy with the one without: the settled one. -/
structure Behind (c : Continuation) (s t : Session) (owed : List Movement) : Prop where
  tidy : Tidy (some c) s
  no_additional : s.template.HasNoAdditional
  settled_eq : s.settled = (t, owed)

/-- A tidy session that holds nothing is tidy under every policy. -/
theorem Tidy.of_held {policy' : Option Continuation} (hs : Tidy policy s) (hh : s.held = none) :
    Tidy policy' s :=
  ⟨by simp [hh], hs.held_readable, hs.foldCount_eq, hs.current_mem, hs.stage_fits⟩

/-- Who holds nothing owes nothing. -/
theorem behind_self (hs : Tidy none s) (hno : s.template.HasNoAdditional) : Behind c s s [] := by
  have hh := hs.held_eq_none_of_policy
  exact ⟨hs.of_held hh, hno, settled_of_held hs hh⟩

namespace Behind

theorem eq_of_not_table (hb : Behind c s t owed) (hst : s.stage ≠ .table) :
    t = s ∧ owed = [] := by
  have hsettled := hb.settled_eq
  rw [settled_of_held hb.tidy (hb.tidy.held_eq_none hst)] at hsettled
  exact ⟨(congrArg Prod.fst hsettled).symm, (congrArg Prod.snd hsettled).symm⟩

/-- The session without a policy differs in what it holds and has seen. -/
theorem eq (hb : Behind c s t owed) :
    ∃ seen, t = { s with held := none, foldCount := 0, seen } := by
  have hsettled := hb.settled_eq
  rw [Session.settled_eq] at hsettled
  exact ⟨_, (congrArg Prod.fst hsettled).symm⟩

end Behind

/-- The end of a table pays the debt. -/
theorem behind_endTable (hb : Behind c s t owed) :
    Behind c (s.endTable (some c)).1 (t.endTable none).1 []
      ∧ (s.endTable (some c)).2 = owed ∧ (t.endTable none).2 = [] := by
  have hend := endTable_settled c s
  rw [hb.settled_eq] at hend
  obtain ⟨htidy, hheld⟩ := tidy_endTable hb.tidy hend
  obtain ⟨seen, rfl⟩ := hb.eq
  rw [hend]
  exact ⟨behind_self (htidy.of_held hheld) hb.no_additional, rfl, rfl⟩

/-- A row of a table that stands alone moves the debt on by one movement, or ends the table. In the
first case the session under a policy gives out what it owed and owes what the other one has just
given out. -/
theorem visit_settled_row (hb : Behind c s t owed) (hcur : s.current = some sec)
    (hst : s.stage = .table) (hrow : s.isRow sec line = true) (halone : StandsAlone c sec line s) :
    Paced (Behind c) owed (s.visit (some c) sec line) (t.visit none sec line) := by
  have hrules := hb.no_additional sec (hb.tidy.current_mem sec hcur)
  have hline : s.tableLine (some c) sec line = s.foldLine c sec line := rfl
  have hline' : t.tableLine none sec line
      = ({ t with header := (s.parse (some c) sec line).1 }, (s.parse (some c) sec line).2) := by
    obtain ⟨seen, rfl⟩ := hb.eq
    simp only [tableLine, Section.readRecord_of_no_additional hrules _ _ true false]
    rfl
  have hvisit' : t.stage = .table ∧ t.isRow sec line = true := by
    obtain ⟨seen, rfl⟩ := hb.eq
    exact ⟨hst, hrow⟩
  rw [visit_of_row hst hrow, visit_of_row hvisit'.1 hvisit'.2, hline', hline,
    foldLine_alone hst hrow hrules halone]
  cases hp : s.parse (some c) sec line with
  | mk header result =>
      have hpair : Behind c { s with header } { t with header } owed :=
        ⟨hb.tidy.header header, hb.no_additional, by rw [settled_header, hb.settled_eq]⟩
      rcases result with fault | _ | m
      · exact .fault
      · exact .on hpair (List.append_nil _)
      · cases herror : m.isError with
        | true =>
            obtain ⟨hend, hgiven, hgiven'⟩ := behind_endTable hpair
            simp only [herror, if_true, Option.any_some]
            exact .on hend (by rw [hgiven, hgiven'])
        | false =>
            have hheld : s.held.any (·.isError) = false := by
              cases hh : s.held with
              | none => rfl
              | some h => exact hb.tidy.held_readable h hh
            have hread : s.row (some c) sec line
                = ({ s with header, held := some m, foldCount := 0 }, .ok s.held) := by
              simp only [Session.row, hst, hline, foldLine_alone hst hrow hrules halone, hp, herror,
                Bool.false_eq_true, if_false]
            obtain ⟨u, hemit, hu⟩ := settled_next s header m
            rw [hb.settled_eq] at hemit hu
            obtain ⟨⟨keys, rfl⟩, -, -⟩ := emit?_eq hemit
            simp only [herror, hheld, hemit, Option.any_some, Bool.false_eq_true, if_false]
            exact .on ⟨(tidy_row hb.tidy hcur hrow hread).seen keys, hb.no_additional, hu⟩ rfl

theorem visit_settled (hb : Behind c s t owed) (hcur : s.current = some sec)
    (halone : StandsAlone c sec line s) :
    Paced (Behind c) owed (s.visit (some c) sec line) (t.visit none sec line) := by
  by_cases hst : s.stage = .table
  · cases hrow : s.isRow sec line with
    | true => exact visit_settled_row hb hcur hst hrow halone
    | false =>
        have hvisit' : t.stage = .table ∧ t.isRow sec line = false := by
          obtain ⟨seen, rfl⟩ := hb.eq
          exact ⟨hst, hrow⟩
        obtain ⟨hend, hgiven, hgiven'⟩ := behind_endTable hb
        rw [visit_of_not_row hst hrow, visit_of_not_row hvisit'.1 hvisit'.2]
        exact .on hend (by rw [hgiven, hgiven'])
  · obtain ⟨rfl, rfl⟩ := hb.eq_of_not_table hst
    have hs : Tidy none t := hb.tidy.of_held (hb.tidy.held_eq_none hst)
    rw [visit_policy hb.tidy hst (hb.no_additional sec (hb.tidy.current_mem sec hcur))]
    cases hv : t.visit none sec line with
    | mk u r =>
        rcases r with fault | ⟨given, usedUp⟩
        · exact .fault
        · have hno : u.template.HasNoAdditional := by
            rw [(fields_of_standing (standing_visit hv)).1]
            exact hb.no_additional
          exact .on (behind_self (tidy_visit hs hcur hv) hno) (List.append_nil _).symm

/-- Finishing gives out what is held. -/
theorem finish_settled (hb : Behind c s t owed) :
    (s.finish (some c)).1.header = (t.finish none).1.header
      ∧ (s.finish (some c)).2 = owed ++ (t.finish none).2 := by
  by_cases hst : s.stage = .table
  · have hst' : t.stage = .table := by
      obtain ⟨seen, rfl⟩ := hb.eq
      exact hst
    simp only [finish, hst, hst', endTable_settled, hb.settled_eq]
    exact ⟨rfl, (List.append_nil _).symm⟩
  · obtain ⟨rfl, rfl⟩ := hb.eq_of_not_table hst
    have hend : t.endTable (some c) = t.endTable none := by
      rw [endTable_settled, hb.settled_eq]
      rfl
    unfold finish
    rw [hend]
    exact ⟨rfl, rfl⟩

/-- Where every row stands alone, reading with a policy keeps pace with reading without one. -/
theorem lockstep_settled (c : Continuation) :
    Lockstep (some c) none id (StandsAlone c) (Behind c) where
  stage_eq hb := by
    obtain ⟨seen, rfl⟩ := hb.eq
    rfl
  current_eq hb := by
    obtain ⟨seen, rfl⟩ := hb.eq
    exact Option.map_id'.symm
  upcoming_eq hb := by
    obtain ⟨seen, rfl⟩ := hb.eq
    exact (List.map_id _).symm
  owed_eq hb hst := (hb.eq_of_not_table (by simp [hst])).2
  lineNo {s t owed} hb := by
    have hline : t.lineNo = s.lineNo := by
      obtain ⟨seen, rfl⟩ := hb.eq
      rfl
    exact ⟨hb.tidy.lineNo _, hb.no_additional, by rw [settled_lineNo, hb.settled_eq, hline]⟩
  enter {s t sec rest} hb hst hup := by
    obtain ⟨rfl, -⟩ := hb.eq_of_not_table (by simp [hst])
    have hs : Tidy none t := hb.tidy.of_held (hb.tidy.held_eq_none (by simp [hst]))
    exact behind_self (hs.enter hst (mem_sections_of_upcoming hup)) hb.no_additional
  exhaust {s t} hb hst := by
    obtain ⟨rfl, -⟩ := hb.eq_of_not_table (by simp [hst])
    have hs : Tidy none t := hb.tidy.of_held (hb.tidy.held_eq_none (by simp [hst]))
    exact behind_self (hs.exhaust hst) hb.no_additional
  visit hb hcur halone := visit_settled hb hcur halone
  finish hb := finish_settled hb

/-- Where no rule continues movements and every line that a table reads says nothing, cannot be read
or is complete, reading with a policy gives what reading without one gives, faults included. The
condition is on the looks that the reading itself makes and on no others. -/
theorem run_of_standsAlone (template : Template) (c : Continuation) (today : Date)
    (lines : List Text) (hno : template.HasNoAdditional)
    (halone : Throughout (some c) (StandsAlone c) lines (start template today)) :
    template.run (some c) today lines = template.run none today lines := by
  have hb : Behind c (start template today) (start template today) [] :=
    behind_self (tidy_start none template today) hno
  exact ((lockstep_settled c).conclude_eq halone hb).trans (after_nil _)

end Session

/-- A layout with two tables in a row, of which the first one drops duplicates. -/
def Template.postings : Template where
  name := .ofString "Postings"
  source := .ofString "Text"
  sections := [{
    name := .ofString "Booked"
    kind := .table
    endKeywords := ["Reserved".toList]
    removeDuplicates := true
    columns := [.primary "^(?P<PostingDate>\\d\\d\\.\\d\\d\\.\\d\x7b4\x7d) (?P<Amount>\\S+)" 1] }, {
    name := .ofString "Reserved"
    kind := .table
    stopOnError := true
    columns := [.primary "^(?P<PostingDate>\\d\\d\\.\\d\\d\\.\\d\x7b4\x7d) (?P<Amount>\\S+)" 1] }]

/-- Two postings alike, a line between the tables, a posting, and a line that ends the second table
as it cannot be read. -/
def postingLines : List Text :=
  ["01.02.2024 5,00".toList, "01.02.2024 5,00".toList, "Reserved".toList,
    "02.02.2024 7,00".toList, "03.02.2024 open".toList]

namespace Session

theorem run_of_standsAlone_postings :
    Template.postings.HasNoAdditional
      ∧ Throughout (some { requireAmount := true }) (StandsAlone { requireAmount := true })
        postingLines (start Template.postings ⟨2024, 12, 31, by decide⟩)
      ∧ Template.postings.run (some { requireAmount := true }) ⟨2024, 12, 31, by decide⟩
          postingLines
        = Template.postings.run none ⟨2024, 12, 31, by decide⟩ postingLines := by
  have hno : Template.postings.HasNoAdditional := by
    intro sec hsec
    simp only [Template.postings, List.mem_cons, List.not_mem_nil, or_false] at hsec
    rcases hsec with rfl | rfl <;> rfl
  have halone : Throughout (some { requireAmount := true }) (StandsAlone { requireAmount := true })
      postingLines (start Template.postings ⟨2024, 12, 31, by decide⟩) := by
    decide +kernel
  exact ⟨hno, halone, run_of_standsAlone _ _ _ _ hno halone⟩

end Session

end BankStatement
