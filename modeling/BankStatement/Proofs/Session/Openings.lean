import Mathlib.Data.List.Forall2
import BankStatement.Proofs.Session.Invariant

/-!
# Every movement begins with a line

A movement leaves a session long after the line it began with: when the next one begins, when a rule
has continued it often enough, when its table ends, or at the end of the statement. Through all of
this no movement is lost, doubled or overtaken (`movements_of_openings`).

The conservation law is `Accounts`: what was held before and what has begun since, in this order, is
what has been given out and what is held now, each movement grown by the lines that continued it.
One look keeps it (`visit_accounts`), so does a line on its whole way (`Passage.accounts`), and so
does any number of lines (`feedAll_accounts`); at the end of the statement nothing is held any more,
and the law says that what has begun is what has been given out. The law is transitive because
growth is, and because what begins later does not overtake what is held.

Sections that drop duplicates give out less, which is why the law has the grown movements in it
beside the given ones: the grown ones are as many as have begun, the given ones are some of them in
the same order, and the two are the same list unless some section drops duplicates. The weaker law
without that assumption is what bounds the growth of the output by one movement a line.

That a line begins at most one movement is not obvious, as several sections may look at it. A
section that hands it on has met an end keyword or a line that cannot be read, and begins nothing
with it (`begun_of_handedOn`).
-/

namespace BankStatement

/-- A movement as the line it begins with gives it. -/
structure Opening where
  lineNo : Nat
  movement : Movement
  deriving DecidableEq, Repr

def Template.DropsDuplicates (template : Template) : Prop :=
  ∃ sec ∈ template.sections, sec.removeDuplicates = true

/-- A layout in which a line with a name continues a movement. -/
def Template.named : Template := Template.dated false "^> (?P<SourceName>.*)"

namespace Session

variable {policy : Option Continuation} {sec : Section} {line : Text} {s t : Session}

/-! ## What begins -/

/-- The movements that a line begins on its way through the sections. -/
def opened (policy : Option Continuation) (line : Text) (s : Session) : List Movement :=
  (s.looks policy line).filterMap fun look => look.2.begun policy look.1 line

/-- The movements that begin in some lines, each with the number of its line. -/
def openings (policy : Option Continuation) : List Text → Session → List Opening
  | [], _ => []
  | line :: lines, s =>
    (opened policy (trimLineEnd line) { s with lineNo := s.lineNo + 1 }).map (⟨s.lineNo + 1, ·⟩)
      ++ openings policy lines (s.feed policy line).1

/-! ## The conservation law -/

/-- What was held and what has begun since has grown into what has been given out and what is held
now. Unless a section drops duplicates, all that has grown is given out. -/
def Accounts (policy : Option Continuation) (template : Template) (held : Option Movement)
    (begun given : List Movement) (held' : Option Movement) : Prop :=
  ∃ grown, List.Forall₂ (Grown policy template) (held.toList ++ begun) (grown ++ held'.toList)
    ∧ given.Sublist grown ∧ (¬ template.DropsDuplicates → given = grown)

theorem grown_same (policy : Option Continuation) (template : Template) (ms : List Movement) :
    List.Forall₂ (Grown policy template) ms ms :=
  List.forall₂_same.mpr fun m _ => Grown.refl m

theorem grown_trans {template : Template} {l₁ l₂ l₃ : List Movement}
    (h : List.Forall₂ (Grown policy template) l₁ l₂)
    (h' : List.Forall₂ (Grown policy template) l₂ l₃) :
    List.Forall₂ (Grown policy template) l₁ l₃ := by
  induction h generalizing l₃ with
  | nil => exact h'
  | cons hm _ ih =>
      cases h' with
      | cons hm' hrest => exact .cons (hm.trans hm') (ih hrest)

theorem Accounts.refl (policy : Option Continuation) (template : Template)
    (held : Option Movement) : Accounts policy template held [] [] held :=
  ⟨[], by simpa using grown_same policy template held.toList, List.Sublist.refl _, fun _ => rfl⟩

theorem Accounts.trans {template : Template} {held₁ held₂ held₃ : Option Movement}
    {begun begun' given given' : List Movement}
    (h : Accounts policy template held₁ begun given held₂)
    (h' : Accounts policy template held₂ begun' given' held₃) :
    Accounts policy template held₁ (begun ++ begun') (given ++ given') held₃ := by
  obtain ⟨grown, hgrown, hsub, hall⟩ := h
  obtain ⟨grown', hgrown', hsub', hall'⟩ := h'
  refine ⟨grown ++ grown', ?_, hsub.append hsub', fun hd => by rw [hall hd, hall' hd]⟩
  -- What begins later waits while the first part happens; what is given out first stays as it is.
  have hfirst := List.rel_append hgrown (grown_same policy template begun')
  have hsecond := List.rel_append (grown_same policy template grown) hgrown'
  simp only [List.append_assoc] at hfirst hsecond ⊢
  exact grown_trans hfirst hsecond

/-- Giving out what is there accounts for it. Here the two forms of the law meet: what is given is a
part of what there was, and all of it where the section does not drop duplicates. -/
theorem accounts_given {held held' : Option Movement} {begun given all : List Movement}
    (hs : Tidy policy s) (hsub : given.Sublist all)
    (hall : s.dropsDuplicates = false → given = all)
    (hgrown : List.Forall₂ (Grown policy s.template) (held.toList ++ begun) (all ++ held'.toList)) :
    Accounts policy s.template held begun given held' := by
  refine ⟨all, hgrown, hsub, fun hd => hall ?_⟩
  cases hcur : s.current with
  | none => simp [dropsDuplicates, hcur]
  | some sec =>
      have hno : sec.removeDuplicates ≠ true := fun h => hd ⟨sec, hs.current_mem sec hcur, h⟩
      simpa [dropsDuplicates, hcur] using hno

/-- No more is given out and held than was held and has begun. -/
theorem Accounts.length_le {template : Template} {held held' : Option Movement}
    {begun given : List Movement} (h : Accounts policy template held begun given held') :
    given.length + held'.toList.length ≤ held.toList.length + begun.length := by
  obtain ⟨grown, hgrown, hsub, -⟩ := h
  have hlength := hgrown.length_eq
  have hle := hsub.length_le
  simp only [List.length_append] at hlength
  omega

/-! ## One look -/

theorem dropsDuplicates_of_standing (h : t.standing = s.standing) :
    t.dropsDuplicates = s.dropsDuplicates := by
  rw [dropsDuplicates, dropsDuplicates, (fields_of_standing h).2.2.1]

/-- A row accounts for what it begins. -/
theorem row_accounts {u : Session} {m? : Option Movement} {given : List Movement}
    (hs : Tidy policy s) (hcur : s.current = some sec) (hrow : s.isRow sec line = true)
    (hr : s.row policy sec line = (t, .ok m?)) (hm : ∀ m, m? = some m → m.isError = false)
    (he : t.emit? m? = (u, given)) :
    Accounts policy s.template s.held (s.begun policy sec line).toList given u.held := by
  have htidy := tidy_row hs hcur hrow hr
  have hstand := standing_row hr
  obtain ⟨⟨seen, rfl⟩, hsub, hall⟩ := emit?_eq he
  rw [dropsDuplicates_of_standing hstand] at hall
  cases row_done hs hcur hrow hr with
  | nothing hb =>
      rw [hb]
      exact accounts_given hs hsub hall (by simpa using grown_same policy s.template s.held.toList)
  | grown hb hh hgrown =>
      rw [hb, hh]
      exact accounts_given hs hsub hall (.cons hgrown .nil)
  | released hb hh hgrown =>
      rw [hb, hh]
      exact accounts_given hs hsub hall (.cons hgrown .nil)
  | unreadable _ herror =>
      have hok := hm _ rfl
      rw [herror] at hok
      cases hok
  | single hb hh =>
      rw [hb, hh]
      exact accounts_given hs hsub hall (grown_same ..)
  | held hb =>
      rw [hb]
      exact accounts_given hs hsub hall (grown_same ..)

/-- A row that ends the table begins nothing and changes nothing that is held. -/
theorem row_unreadable {m : Movement} (hs : Tidy policy s) (hcur : s.current = some sec)
    (hrow : s.isRow sec line = true) (hr : s.row policy sec line = (t, .ok (some m)))
    (hm : m.isError = true) : s.begun policy sec line = none ∧ t.held = s.held := by
  generalize hm? : some m = m? at hr
  cases row_done hs hcur hrow hr with
  | nothing | grown => cases hm?
  | released _ hh hgrown =>
      obtain rfl := Option.some.inj hm?
      have hok := hgrown.marks.2.trans (hs.held_readable _ hh)
      rw [hm] at hok
      cases hok
  | unreadable hb => exact ⟨hb, rfl⟩
  | single _ _ hok =>
      obtain rfl := Option.some.inj hm?
      rw [hm] at hok
      cases hok
  | held =>
      have hok := hs.held_readable m hm?.symm
      rw [hm] at hok
      cases hok

theorem begun_of_stage (hst : s.stage ≠ .table) (hst' : s.stage ≠ .dynamicTable) :
    s.begun policy sec line = none := by
  apply begun_of_not_row
  unfold isRow
  split <;> simp_all

/-- One look at a line keeps the conservation law. The cases are those of `RowDone` and the ends of
a table; a table that ends gives out what it holds, which the law files under what was held before.
-/
theorem visit_accounts {v : Visit} (hs : Tidy policy s) (hcur : s.current = some sec)
    (h : s.visit policy sec line = (t, .ok v)) :
    Accounts policy s.template s.held (s.begun policy sec line).toList v.movements t.held := by
  generalize hr : Except.ok v = r at h
  cases visit_looked h with
  | nowhere hst | passed hst | labels hst | headings hst =>
      cases hr
      rw [begun_of_stage (by simp [hst]) (by simp [hst])]
      exact Accounts.refl ..
  | left _ hst =>
      cases hr
      rw [begun_of_stage (by grind) (by grind)]
      exact Accounts.refl ..
  | skipped _ hrow =>
      cases hr
      rw [begun_of_not_row hrow]
      exact Accounts.refl ..
  | closed _ _ hrow he =>
      cases hr
      obtain ⟨⟨seen, rfl⟩, hsub, hall⟩ := endTable_eq hs he
      rw [begun_of_not_row hrow]
      exact accounts_given hs hsub hall (grown_same ..)
  | unreadable _ hrow hrow' hm he =>
      cases hr
      obtain ⟨hb, hheld⟩ := row_unreadable hs hcur hrow hrow' hm
      obtain ⟨⟨seen, rfl⟩, hsub, hall⟩ := endTable_eq (tidy_row hs hcur hrow hrow') he
      rw [dropsDuplicates_of_standing (standing_row hrow')] at hall
      rw [hheld] at hsub hall
      rw [hb]
      exact accounts_given hs hsub hall (grown_same ..)
  | read hrow hrow' hm he =>
      cases hr
      exact row_accounts hs hcur hrow hrow' hm he
  | labelFault | rowFault => cases hr

/-! ## The way of a line -/

/-- A section that hands a line on begins nothing with it, so a line begins at most one movement. -/
theorem begun_of_handedOn {given : List Movement} (hs : Tidy policy s)
    (hcur : s.current = some sec) (h : s.visit policy sec line = (t, .ok ⟨given, false⟩)) :
    s.begun policy sec line = none := by
  cases visit_looked h with
  | nowhere hst => exact begun_of_stage (by simp [hst]) (by simp [hst])
  | left _ hst => exact begun_of_stage (by grind) (by grind)
  | closed _ _ hrow => exact begun_of_not_row hrow
  | unreadable _ hrow hr hm => exact (row_unreadable hs hcur hrow hr hm).1

theorem Passage.opened_length_le {looks : List (Section × Session)}
    {r : Except Fault (List Movement)} (hp : Passage policy line s looks t r)
    (hs : Tidy policy s) :
    (looks.filterMap fun look => look.2.begun policy look.1 line).length ≤ 1 := by
  induction hp with
  | @enter s _ sec _ _ _ hst hup _ ih =>
      exact ih (hs.enter hst (mem_sections_of_upcoming hup))
  | exhaust | idle => exact Nat.zero_le 1
  | fault | usedUp => exact List.length_filterMap_le ..
  | handedOn _ hcur hv _ ih =>
      rw [List.filterMap_cons, begun_of_handedOn hs hcur hv]
      exact ih (tidy_visit hs hcur hv)

theorem Passage.accounts {looks : List (Section × Session)} {given : List Movement}
    (hp : Passage policy line s looks t (.ok given)) (hs : Tidy policy s) :
    Accounts policy s.template s.held
      (looks.filterMap fun look => look.2.begun policy look.1 line) given t.held := by
  generalize hr : Except.ok given = r at hp
  induction hp generalizing given with
  | @enter s _ sec _ _ _ hst hup _ ih =>
      exact ih (hs.enter hst (mem_sections_of_upcoming hup)) hr
  | exhaust | idle => cases hr; exact Accounts.refl ..
  | fault => cases hr
  | @usedUp s t sec own _ hcur hv =>
      cases hr
      have haccounts := visit_accounts hs hcur hv
      rw [List.filterMap_cons]
      cases hb : s.begun policy sec line <;> rwa [hb] at haccounts
  | @handedOn s t u sec own _ rest _ hcur hv _ ih =>
      cases rest with
      | error => cases hr
      | ok others =>
          cases hr
          have haccounts := visit_accounts hs hcur hv
          have hb := begun_of_handedOn hs hcur hv
          have hrest := ih (tidy_visit hs hcur hv) rfl
          rw [hb] at haccounts
          rw [(fields_of_standing (standing_visit hv)).1] at hrest
          rw [List.filterMap_cons, hb]
          exact haccounts.trans hrest

/-! ## Whole statements -/

theorem feed_accounts {given : List Movement} (hs : Tidy policy s)
    (h : s.feed policy line = (t, .ok given)) :
    Accounts policy s.template s.held
      (opened policy (trimLineEnd line) { s with lineNo := s.lineNo + 1 }) given t.held := by
  have hp := feed_passage policy line s
  rw [h] at hp
  exact hp.accounts (hs.lineNo _)

theorem feedAll_accounts {lines : List Text} {given : List Movement} (hs : Tidy policy s)
    (h : s.feedAll policy lines = .ok (t, given)) :
    Accounts policy s.template s.held ((openings policy lines s).map (·.movement)) given
      t.held := by
  induction lines generalizing s given with
  | nil => cases h; exact Accounts.refl ..
  | cons line lines ih =>
      obtain ⟨u, own, others, hfeed, hrest, rfl⟩ := feedAll_cons_ok h
      have hp := feed_passage policy line s
      rw [hfeed] at hp
      have hothers := ih (tidy_feed hs hfeed) hrest
      rw [hp.standing.1] at hothers
      have hmap : (openings policy (line :: lines) s).map (·.movement)
          = opened policy (trimLineEnd line) { s with lineNo := s.lineNo + 1 }
            ++ (openings policy lines u).map (·.movement) := by
        simp [openings, hfeed, Function.comp_def]
      rw [hmap]
      exact (feed_accounts hs hfeed).trans hothers

theorem finish_accounts {given : List Movement} (hs : Tidy policy s)
    (h : s.finish policy = (t, given)) : Accounts policy s.template s.held [] given none := by
  unfold finish at h
  split at h
  · obtain ⟨-, hsub, hall⟩ := endTable_eq hs h
    exact accounts_given hs hsub hall (by simpa using grown_same policy s.template s.held.toList)
  · obtain ⟨-, hsub, hall⟩ := endTable_eq hs h
    exact accounts_given hs hsub hall (by simpa using grown_same policy s.template s.held.toList)
  next hst _ =>
    cases h
    rw [hs.held_eq_none hst]
    exact Accounts.refl ..

/-- Later movements begin in later lines. -/
theorem openings_pairwise {lines : List Text} (hs : Tidy policy s) :
    (openings policy lines s).Pairwise (·.lineNo < ·.lineNo)
      ∧ ∀ o ∈ openings policy lines s, s.lineNo < o.lineNo := by
  induction lines generalizing s with
  | nil => simp [openings]
  | cons line lines ih =>
      have hp := feed_passage policy line s
      obtain ⟨hpairwise, hlater⟩ := ih (hp.tidy (hs.lineNo _))
      rw [hp.standing.2.2] at hlater
      have hone : (opened policy (trimLineEnd line) { s with lineNo := s.lineNo + 1 }).length ≤ 1 :=
        hp.opened_length_le (hs.lineNo _)
      rw [openings]
      revert hone
      generalize opened policy (trimLineEnd line) { s with lineNo := s.lineNo + 1 } = begun
      intro hone
      rcases begun with _ | ⟨m, _ | ⟨m', rest⟩⟩
      · exact ⟨hpairwise, fun o ho => Nat.lt_of_succ_lt (hlater o ho)⟩
      · refine ⟨List.pairwise_cons.mpr ⟨hlater, hpairwise⟩, fun o ho => ?_⟩
        rcases List.mem_cons.mp ho with rfl | ho
        · exact Nat.lt_succ_self _
        · exact Nat.lt_of_succ_lt (hlater o ho)
      · simp at hone

/-- If no section drops duplicates, the movements of a statement are those that its lines begin, one
for each, in the order of the lines, and each grown by its continuation lines. At no point has a
line brought more than one, and at the end none is left behind. The assumption on duplicates is the
only one: nothing is asked of the template, the policy or the lines, and the last part speaks of
every beginning of the statement that can be read, so also of what comes before a fault. -/
theorem movements_of_openings (template : Template) (policy : Option Continuation) (today : Date)
    (lines : List Text) (hdrop : ¬ template.DropsDuplicates) :
    (∀ statement, template.run policy today lines = .ok statement →
      List.Forall₂ (fun o m => Grown policy template o.movement m)
        (openings policy lines (start template today)) statement.movements)
      ∧ (openings policy lines (start template today)).Pairwise (·.lineNo < ·.lineNo)
      ∧ ∀ before s given, (start template today).feedAll policy before = .ok (s, given) →
        (s.finish policy).1.held = none
          ∧ ∀ line t out, s.feed policy line = (t, .ok out) →
            (given ++ out).length + t.held.toList.length
              ≤ given.length + s.held.toList.length + 1 := by
  have hstart := tidy_start policy template today
  refine ⟨fun statement hrun => ?_, (openings_pairwise hstart).1, fun before s given hbefore => ?_⟩
  · unfold Template.run at hrun
    split at hrun
    · cases hrun
    next s given hfeedAll =>
      cases hrun
      have hlines := feedAll_accounts hstart hfeedAll
      have hend := finish_accounts (tidy_feedAll hstart hfeedAll) rfl
      rw [feedAll_template hfeedAll] at hend
      obtain ⟨grown, hgrown, -, hall⟩ := hlines.trans hend
      rw [hall hdrop]
      simpa [start] using hgrown
  · have hs := tidy_feedAll hstart hbefore
    refine ⟨(tidy_finish hs rfl).2, fun line t out hfeed => ?_⟩
    have hlength := (feed_accounts hs hfeed).length_le
    have hone := (feed_passage policy line s).opened_length_le (hs.lineNo _)
    rw [opened] at hlength
    rw [List.length_append]
    omega

/-- Two movements, the first of them over two lines. -/
theorem movements_of_openings_dated :
    ¬ Template.named.DropsDuplicates
      ∧ List.Forall₂ (fun (o : Opening) m => Grown (some {}) Template.named o.movement m)
        [⟨1, { bookingDate := some ⟨2024, 2, 1, by decide⟩ }⟩,
          ⟨3, { bookingDate := some ⟨2024, 2, 3, by decide⟩ }⟩]
        [{ bookingDate := some ⟨2024, 2, 1, by decide⟩, counterparty := some "Miller".toList },
          { bookingDate := some ⟨2024, 2, 3, by decide⟩ }] := by
  have hdrop : ¬ Template.named.DropsDuplicates := by
    simp [Template.DropsDuplicates, Template.named, Template.dated]
  refine ⟨hdrop, ?_⟩
  obtain ⟨hmovements, -, -⟩ := movements_of_openings Template.named (some {})
    ⟨2024, 12, 31, by decide⟩ ["01.02.2024 x".toList, "> Miller".toList, "03.02.2024 x".toList]
    hdrop
  have hopenings : openings (some {})
      ["01.02.2024 x".toList, "> Miller".toList, "03.02.2024 x".toList]
      (start Template.named ⟨2024, 12, 31, by decide⟩)
      = [⟨1, { bookingDate := some ⟨2024, 2, 1, by decide⟩ }⟩,
        ⟨3, { bookingDate := some ⟨2024, 2, 3, by decide⟩ }⟩] := by
    decide +kernel
  have hrun : (Template.named.run (some {}) ⟨2024, 12, 31, by decide⟩
      ["01.02.2024 x".toList, "> Miller".toList, "03.02.2024 x".toList]).toOption
      = some ⟨{}, [{
          bookingDate := some ⟨2024, 2, 1, by decide⟩, counterparty := some "Miller".toList },
        { bookingDate := some ⟨2024, 2, 3, by decide⟩ }]⟩ := by
    decide +kernel
  rw [hopenings] at hmovements
  cases hresult : Template.named.run (some {}) ⟨2024, 12, 31, by decide⟩
      ["01.02.2024 x".toList, "> Miller".toList, "03.02.2024 x".toList] with
  | error =>
      rw [hresult] at hrun
      cases hrun
  | ok statement =>
      rw [hresult] at hrun
      cases hrun
      exact hmovements _ hresult

end Session

end BankStatement
