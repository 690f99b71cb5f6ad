import BankStatement.Proofs.Session.Openings
import BankStatement.Proofs.Session.Records

/-!
# Previews

A movement is marked as a preview when the line that it begins with has been read, by the date that
this line gives. The mark is not set again: a movement that is given out bears the mark of its
opening (`exists_opening`), whatever the lines that continued it have done to its date.

So the mark fits the date that the movement is given out with exactly when the two dates are on the
same side of the reference date, and it always does if no rule that continues movements has a group
for the booking date (`isPreview_of_openings`). That a continuing rule can put the date off, and the
mark then says the opposite of what it is meant to say, is shown by a statement of two lines
(`not_isPreview_isOutstanding`).

The proof needs no run of its own. That a movement given out comes from an opening is the
conservation law of `Proofs.Session.Openings`, in the form that does not need all movements to be
given out; that growth leaves marks alone is `Grown.marks`, and that it leaves dates alone if no
rule names them is `Grown.preserves`. What is left is that a line marks what it begins rightly
(`begun_isPreview`).
-/

namespace BankStatement

/-! ## The mark of a line -/

theorem Movement.isPreview_of_finished? {today : Date} {m m' : Movement}
    (h : m.finished? today = some m') : m'.isPreview = m'.isOutstanding today := by
  unfold Movement.finished? at h
  split at h
  · cases h; rfl
  · cases h

theorem Section.readRecord_isPreview {sec : Section} {template : Template} {today : Date}
    {withAdditional : Bool} {line : Text} {header header' : Header} {m : Movement}
    (h : sec.readRecord template today withAdditional line header = (header', .ok (some m)))
    (hm : m.isError = false) : m.isPreview = m.isOutstanding today := by
  obtain ⟨m₀, hfinished⟩ := Section.finished_of_readRecord h hm
  exact Movement.isPreview_of_finished? hfinished

theorem MovementVariable.name_of_bookingDate {name : Text}
    (h : MovementVariable.ofName? name = some .bookingDate) : name = "PostingDate".toList := by
  obtain ⟨known, hmem, rfl⟩ := known_of_findSome? h
  simp only [List.mem_cons, Prod.mk.injEq, List.not_mem_nil, or_false, reduceCtorEq, and_false,
    and_true] at hmem
  rw [hmem]

/-- No rule that continues movements has a group for the booking date. -/
def Template.KeepsDates (policy : Option Continuation) (template : Template) : Prop :=
  ∀ r ∈ template.continuing policy, "PostingDate".toList ∉ r.pattern.names.map (·.1)

instance (policy : Option Continuation) (template : Template) :
    Decidable (template.KeepsDates policy) :=
  inferInstanceAs (Decidable (∀ r ∈ template.continuing policy,
    "PostingDate".toList ∉ r.pattern.names.map (·.1)))

theorem Grown.bookingDate {policy : Option Continuation} {template : Template} {m m' : Movement}
    (hkeeps : template.KeepsDates policy) (h : Grown policy template m m') :
    m'.bookingDate = m.bookingDate := by
  refine Grown.preserves (P := fun n => n.bookingDate = m.bookingDate)
    (fun r hr name hname v hv n n' value hn hassign => ?_) h rfl
  refine (Movement.assign_bookingDate (fun hdate => ?_) hassign).trans hn
  subst hdate
  obtain rfl := MovementVariable.name_of_bookingDate hv
  exact hkeeps r hr hname

namespace Session

variable {policy : Option Continuation} {sec : Section} {line : Text} {s t : Session}

theorem begun_isPreview {m : Movement} (h : s.begun policy sec line = some m) :
    m.isPreview = m.isOutstanding s.today := by
  unfold begun at h
  split at h
  · split at h
    next m₀ hp =>
      split at h
      · cases h
      next hno =>
        cases h
        simp only [Bool.or_eq_true, not_or, Bool.not_eq_true] at hno
        exact Section.readRecord_isPreview hp hno.1
    next => cases h
  · cases h

/-! ## The mark of a movement -/

theorem openings_isPreview {lines : List Text} (hs : Tidy policy s) :
    ∀ o ∈ openings policy lines s, o.movement.isPreview = o.movement.isOutstanding s.today := by
  induction lines generalizing s with
  | nil => simp [openings]
  | cons line lines ih =>
      intro o ho
      have hp := feed_passage policy line s
      rcases List.mem_append.mp ho with ho | ho
      · obtain ⟨m, hm, rfl⟩ := List.mem_map.mp ho
        obtain ⟨look, hlook, hbegun⟩ := List.mem_filterMap.mp hm
        obtain ⟨-, -, -, htoday⟩ := hp.tidy_look (hs.lineNo _) look hlook
        have hpreview := begun_isPreview hbegun
        rwa [htoday] at hpreview
      · have hrest := ih (hp.tidy (hs.lineNo _)) o ho
        rwa [hp.standing.2.1] at hrest

/-- Every movement that is given out, by a line or at the end, has grown from an opening and bears
its mark. Sections that drop duplicates are covered: what they give out is a part of what has grown.
-/
theorem exists_opening {template : Template} {today : Date} {lines : List Text}
    {given : List Movement} (hrun : (start template today).feedAll policy lines = .ok (s, given)) :
    ∀ m ∈ given ++ (s.finish policy).2, ∃ o ∈ openings policy lines (start template today),
      Grown policy template o.movement m ∧ m.isPreview = o.movement.isOutstanding today := by
  have hstart := tidy_start policy template today
  have htemplate : s.template = template := feedAll_template hrun
  have hend := finish_accounts (tidy_feedAll hstart hrun) rfl
  rw [htemplate] at hend
  obtain ⟨grown, hgrown, hsub, -⟩ := (feedAll_accounts hstart hrun).trans hend
  simp only [start, Option.toList_none, List.nil_append, List.append_nil] at hgrown
  intro m hm
  obtain ⟨i, hi, rfl⟩ := List.mem_iff_getElem.mp (hsub.subset hm)
  have hi' : i < ((openings policy lines (start template today)).map (·.movement)).length :=
    hgrown.length_eq ▸ hi
  obtain ⟨o, ho, hmovement⟩ := List.mem_map.mp (List.getElem_mem hi')
  have hgrows : Grown policy template o.movement grown[i] := by
    rw [hmovement]
    exact hgrown.get hi' hi
  exact ⟨o, ho, hgrows, hgrows.marks.1.trans (openings_isPreview hstart o ho)⟩

/-- A movement that is given out bears the mark of the date it began with. So its own date has the
mark that it should have exactly when its growth has not taken that date across the reference date,
and always if continuation lines leave dates alone. -/
theorem isPreview_of_openings (template : Template) (policy : Option Continuation) (today : Date)
    (lines : List Text) (s : Session) (given : List Movement)
    (hrun : (start template today).feedAll policy lines = .ok (s, given)) :
    (∀ m ∈ given ++ (s.finish policy).2,
      ∃ o ∈ openings policy lines (start template today), Grown policy template o.movement m
        ∧ m.isPreview = o.movement.isOutstanding today
        ∧ (m.isPreview = m.isOutstanding today
          ↔ o.movement.isOutstanding today = m.isOutstanding today))
      ∧ (template.KeepsDates policy →
        ∀ m ∈ given ++ (s.finish policy).2, m.isPreview = m.isOutstanding today) := by
  refine ⟨fun m hm => ?_, fun hkeeps m hm => ?_⟩
  · obtain ⟨o, ho, hgrows, hmark⟩ := exists_opening hrun m hm
    exact ⟨o, ho, hgrows, hmark, by rw [hmark]⟩
  · obtain ⟨o, -, hgrows, hmark⟩ := exists_opening hrun m hm
    rw [hmark, Movement.isOutstanding, Movement.isOutstanding, hgrows.bookingDate hkeeps]

end Session

/-- A layout in which a line with a date continues a movement. -/
def Template.booked : Template := Template.dated false "^Booked (?P<PostingDate>\\S+)"

namespace Session

/-- What some lines and the end of the statement give out. -/
def givenBy (template : Template) (policy : Option Continuation) (today : Date)
    (lines : List Text) : List Movement :=
  match (start template today).feedAll policy lines with
  | .error _ => []
  | .ok (s, given) => given ++ (s.finish policy).2

theorem feedAll_of_givenBy {template : Template} {today : Date} {lines : List Text} {m : Movement}
    {ms : List Movement} (h : givenBy template policy today lines = m :: ms) :
    ∃ s given, (start template today).feedAll policy lines = .ok (s, given)
      ∧ given ++ (s.finish policy).2 = m :: ms := by
  unfold givenBy at h
  split at h
  · cases h
  next s given hrun => exact ⟨s, given, hrun, h⟩

/-- A continuation line can put off the date of a movement that is no preview: the mark is computed
before the line is folded, and is not computed again. -/
theorem not_isPreview_isOutstanding : ¬ ∀ (template : Template) (policy : Option Continuation)
    (today : Date) (lines : List Text) (s : Session) (given : List Movement),
    (start template today).feedAll policy lines = .ok (s, given) →
    ∀ m ∈ given ++ (s.finish policy).2, m.isPreview = m.isOutstanding today := by
  intro hall
  have hgiven : givenBy Template.booked (some {}) ⟨2024, 12, 31, by decide⟩
      ["01.02.2024 x".toList, "Booked 01.02.2025".toList]
      = [{ bookingDate := some ⟨2025, 2, 1, by decide⟩ }] := by
    decide +kernel
  obtain ⟨s, given, hrun, hout⟩ := feedAll_of_givenBy hgiven
  have hmark := hall _ _ _ _ s given hrun { bookingDate := some ⟨2025, 2, 1, by decide⟩ }
    (by rw [hout]; exact List.mem_cons_self ..)
  simp [Movement.isOutstanding, Date.isBefore] at hmark

/-- A movement that is still to come, with a name from its second line. -/
theorem isPreview_of_openings_named : Template.named.KeepsDates (some {})
    ∧ ∃ s given m, (start Template.named ⟨2024, 1, 31, by decide⟩).feedAll (some {})
        ["01.02.2024 x".toList, "> Miller".toList] = .ok (s, given)
      ∧ given ++ (s.finish (some {})).2 = [m]
      ∧ m.isPreview = m.isOutstanding ⟨2024, 1, 31, by decide⟩ := by
  have hgiven : givenBy Template.named (some {}) ⟨2024, 1, 31, by decide⟩
      ["01.02.2024 x".toList, "> Miller".toList]
      = [{
        bookingDate := some ⟨2024, 2, 1, by decide⟩
        counterparty := some "Miller".toList
        isPreview := true }] := by
    decide +kernel
  have hkeeps : Template.named.KeepsDates (some {}) := by
    decide +kernel
  obtain ⟨s, given, hrun, hout⟩ := feedAll_of_givenBy hgiven
  obtain ⟨-, hlaw⟩ := isPreview_of_openings _ _ _ _ s given hrun
  exact ⟨hkeeps, s, given, _, hrun, hout, hlaw hkeeps _ (by rw [hout]; exact List.mem_cons_self ..)⟩

end Session

end BankStatement
