import BankStatement.Proofs.Reading.ShortDate

/-!
# The default date formats

A template that names no date formats tries `%d.%m.%Y`, `%d.%m.%y` and `%Y-%m-%d`. No text is read
by two of them (`exclusive_defaultFormats`), so it does not matter which is tried first: every order
of the formats gives the date that one of them reads, and a fault for the same variable and value if
none does (`readDate_anyOrder`). Every date is read back from each of its three written forms.

The proof has a part about layouts and a part about lists. `Proofs.Calendar.NumericLayout` shows
that two of the layouts never read the same text, for all texts and not only for written dates:
different marks, or last numbers of different lengths. Among formats that exclude each other, the
first one that accepts is the only one, and an order of the formats has nothing to choose
(`firstDate_of_accepted`).

The fault names the formats that were tried, in the order in which they were tried, and in that it
does tell one order from another (`not_readDate_sameFault`). The statement about faults therefore
gives each template its own list of formats.
-/

namespace BankStatement

open Text (Blanks padded)

/-! ## Dates with the year in front -/

theorem Date.toText_eq (d : Date) :
    d.toText = padded 4 d.year ++ '-' :: (padded 2 d.month ++ '-' :: padded 2 d.day) := by
  rw [toText, List.append_assoc, List.cons_append]

theorem Date.strip_toText (d : Date) : Text.strip d.toText = d.toText := by
  rw [Date.toText_eq]
  exact Text.strip_numbers (by decide) (Text.digits_padded _ _) (Text.digits_padded _ _)
    (Text.digits_padded _ _)

def Layout.yearFirst : Layout := [.year, .literal '-', .month, .literal '-', .day]

def NumericLayout.yearFirst : NumericLayout where
  mark := '-'
  first := .year
  second := .month
  third := .day
  isMark := isDateMark_hyphen
  numbers := by decide

theorem Layout.read?_yearFirst (d : Date) : Layout.yearFirst.read? d.toText = some d := by
  obtain ⟨hday, hday', hmonth, hmonth', -, hyear⟩ := d.bounds
  have hwritten := NumericLayout.yearFirst.read?_written (LayoutPiece.readsFirst_year hyear)
    (LayoutPiece.readsFirst_month ⟨hmonth, hmonth'⟩) (LayoutPiece.readsFirst_day ⟨hday, hday'⟩)
  rw [Date.toText_eq]
  exact hwritten.trans (DateParts.toDate?_date d)

/-! ## The layouts exclude each other -/

namespace NumericLayout

/-- Years of four digits are no years of two. -/
theorem exclusive_german_short : german.Exclusive short :=
  exclusive_of_lengths (show german.mark = short.mark from rfl) (by decide)

theorem exclusive_german_yearFirst : german.Exclusive yearFirst := exclusive_of_marks (by decide)

theorem exclusive_short_yearFirst : short.Exclusive yearFirst := exclusive_of_marks (by decide)

end NumericLayout

namespace Template

/-- The date formats of a template that names none. -/
def defaultFormats : List Value := ["%d.%m.%Y", "%d.%m.%y", "%Y-%m-%d"].map Value.ofString

/-- The template has the default formats, in some order. -/
def DatesDefault (template : Template) : Prop := template.dateFormats.Perm defaultFormats

/-- The format reads the text as a date. -/
def Accepts (format : Value) (t : Text) : Prop := ∃ d, tryDateFormat format t = .ok (some d)

theorem tryDateFormat_yearFirst (t : Text) :
    tryDateFormat (Value.ofString "%Y-%m-%d") t = .ok (Layout.yearFirst.read? t) :=
  tryDateFormat_layout (by decide +kernel) (by decide) t

/-- Each of the default formats can be understood. -/
theorem exists_tryDateFormat {format : Value} (h : format ∈ defaultFormats) (t : Text) :
    ∃ result, tryDateFormat format t = .ok result := by
  simp only [defaultFormats, List.map_cons, List.map_nil, List.mem_cons, List.not_mem_nil,
    or_false] at h
  rcases h with rfl | rfl | rfl
  · exact ⟨_, tryDateFormat_german t⟩
  · exact ⟨_, tryDateFormat_short t⟩
  · exact ⟨_, tryDateFormat_yearFirst t⟩

/-- Formats of layouts that exclude each other do not both accept a text. -/
theorem not_accepts_both {f g : Value} {s s' : NumericLayout} (h : s.Exclusive s') {t : Text}
    (hf : tryDateFormat f t = .ok (s.pieces.read? t))
    (hg : tryDateFormat g t = .ok (s'.pieces.read? t)) : ¬ (Accepts f t ∧ Accepts g t) := by
  rintro ⟨⟨d, hd⟩, ⟨d', hd'⟩⟩
  exact h t d d' (Except.ok.inj (hf.symm.trans hd)) (Except.ok.inj (hg.symm.trans hd'))

/-- At most one of the default formats accepts a text. -/
theorem exclusive_defaultFormats (t : Text) :
    defaultFormats.Pairwise fun f g => ¬ (Accepts f t ∧ Accepts g t) := by
  have hyears := not_accepts_both NumericLayout.exclusive_german_short (tryDateFormat_german t)
    (tryDateFormat_short t)
  have hmarks := not_accepts_both NumericLayout.exclusive_german_yearFirst (tryDateFormat_german t)
    (tryDateFormat_yearFirst t)
  have hmarks' := not_accepts_both NumericLayout.exclusive_short_yearFirst (tryDateFormat_short t)
    (tryDateFormat_yearFirst t)
  simp only [defaultFormats, List.map_cons, List.map_nil, List.pairwise_cons,
    List.forall_mem_cons]
  exact ⟨⟨hyears, hmarks, by simp⟩, ⟨hmarks', by simp⟩, by simp, .nil⟩

/-! ## The order in which formats are tried -/

/-- Among formats that exclude each other the one that accepts the text is found, wherever it
stands. All of them have to be understood, for the look through the formats would end with a fault
at one that is no text before it came to the right one. -/
theorem firstDate_of_accepted {t : Text} {formats : List Value}
    (hread : ∀ f ∈ formats, ∃ result, tryDateFormat f t = .ok result)
    (hone : formats.Pairwise fun f g => ¬ (Accepts f t ∧ Accepts g t)) {f : Value}
    (hf : f ∈ formats) {d : Date} (hd : tryDateFormat f t = .ok (some d)) :
    firstDate t formats = .ok (some d) := by
  induction formats with
  | nil => cases hf
  | cons g formats ih =>
      obtain ⟨hg, hone⟩ := List.pairwise_cons.mp hone
      obtain ⟨⟨result, hresult⟩, hread⟩ := List.forall_mem_cons.mp hread
      rcases List.mem_cons.mp hf with rfl | hf
      · rw [firstDate, hd]
        rfl
      · cases result with
        | none =>
            rw [firstDate, hresult]
            exact ih hread hone hf
        | some e => exact absurd ⟨⟨e, hresult⟩, ⟨d, hd⟩⟩ (hg f hf)

theorem firstDate_of_refused {t : Text} {formats : List Value}
    (hread : ∀ f ∈ formats, ∃ result, tryDateFormat f t = .ok result)
    (hnone : ∀ f ∈ formats, ¬ Accepts f t) : firstDate t formats = .ok none := by
  induction formats with
  | nil => rfl
  | cons g formats ih =>
      obtain ⟨hg, hnone⟩ := List.forall_mem_cons.mp hnone
      obtain ⟨⟨result, hresult⟩, hread⟩ := List.forall_mem_cons.mp hread
      cases result with
      | none =>
          rw [firstDate, hresult]
          exact ih hread hnone
      | some e => exact absurd ⟨e, hresult⟩ hg

variable {template template' : Template}

theorem DatesDefault.exists_tryDateFormat (h : template.DatesDefault) (t : Text) :
    ∀ f ∈ template.dateFormats, ∃ result, tryDateFormat f t = .ok result :=
  fun _ hf => Template.exists_tryDateFormat (h.mem_iff.mp hf) t

theorem DatesDefault.exclusive (h : template.DatesDefault) (t : Text) :
    template.dateFormats.Pairwise fun f g => ¬ (Accepts f t ∧ Accepts g t) :=
  (h.pairwise_iff fun hfg hgf => hfg hgf.symm).mpr (exclusive_defaultFormats t)

/-- What a default format accepts is read as the date it says. -/
theorem DatesDefault.readDate_of_accepted (h : template.DatesDefault) (target : Text)
    {value : Option Text} {f : Value} (hf : f ∈ defaultFormats) {d : Date}
    (hd : tryDateFormat f (Text.strip (value.getD [])) = .ok (some d)) :
    template.readDate target value = .ok d := by
  rw [readDate, firstDate_of_accepted (h.exists_tryDateFormat _) (h.exclusive _)
    (h.mem_iff.mpr hf) hd]
  rfl

/-- What no default format accepts is a fault that names the formats as they were tried. -/
theorem DatesDefault.readDate_of_refused (h : template.DatesDefault) (target : Text)
    {value : Option Text} (hnone : ∀ f ∈ defaultFormats, ¬ Accepts f (Text.strip (value.getD []))) :
    template.readDate target value
      = .error (.unreadable target value (some (template.dateFormats.map Value.plain))) := by
  rw [readDate, firstDate_of_refused (h.exists_tryDateFormat _) fun f hf =>
    hnone f (h.mem_iff.mp hf)]
  rfl

/-- A written form that the layout of a default format reads is read back, whatever blanks are
around it. -/
theorem DatesDefault.readDate_of_written (h : template.DatesDefault) (target : Text) {f : Value}
    (hf : f ∈ defaultFormats) {layout : Layout}
    (htry : ∀ t, tryDateFormat f t = .ok (layout.read? t)) {written before after : Text} {d : Date}
    (hstrip : Text.strip written = written) (hread : layout.read? written = some d)
    (hbefore : Blanks before) (hafter : Blanks after) :
    template.readDate target (some (before ++ written ++ after)) = .ok d := by
  refine h.readDate_of_accepted target hf ?_
  rw [Option.getD_some, Text.strip_blanks hbefore hafter, hstrip, htry, hread]

/-- With the default formats, in whatever order they are tried, a date is read back from each of its
written forms, whatever blanks are around it; no text is accepted by two of the formats; and two
orders read the same dates from all values, and have a fault for the same variable and value where
no format accepts it. Two digits for the year need a year that they can stand for. -/
theorem readDate_anyOrder (h : template.DatesDefault) (h' : template'.DatesDefault)
    (target : Text) :
    (∀ (d : Date) (before after : Text), Blanks before → Blanks after →
      template.readDate target (some (before ++ d.german ++ after)) = .ok d
        ∧ template.readDate target (some (before ++ d.toText ++ after)) = .ok d
        ∧ (d.HasShortYear → template.readDate target (some (before ++ d.short ++ after)) = .ok d))
      ∧ (∀ t : Text, defaultFormats.Pairwise fun f g => ¬ (Accepts f t ∧ Accepts g t))
      ∧ ∀ value : Option Text,
        (∃ f ∈ defaultFormats, ∃ d,
          tryDateFormat f (Text.strip (value.getD [])) = .ok (some d)
            ∧ template.readDate target value = .ok d ∧ template'.readDate target value = .ok d)
        ∨ (∀ f ∈ defaultFormats, ¬ Accepts f (Text.strip (value.getD [])))
          ∧ template.readDate target value
            = .error (.unreadable target value (some (template.dateFormats.map Value.plain)))
          ∧ template'.readDate target value
            = .error (.unreadable target value (some (template'.dateFormats.map Value.plain))) := by
  refine ⟨?readBack, exclusive_defaultFormats, ?anyOrder⟩
  case readBack =>
    intro d before after hbefore hafter
    refine ⟨?_, ?_, fun hyear => ?_⟩
    · exact h.readDate_of_written target (by simp [defaultFormats]) tryDateFormat_german
        d.strip_german (Layout.read?_german d) hbefore hafter
    · exact h.readDate_of_written target (by simp [defaultFormats]) tryDateFormat_yearFirst
        d.strip_toText (Layout.read?_yearFirst d) hbefore hafter
    · exact h.readDate_of_written target (by simp [defaultFormats]) tryDateFormat_short
        d.strip_short (Layout.read?_short hyear) hbefore hafter
  case anyOrder =>
    intro value
    by_cases haccepted : ∃ f ∈ defaultFormats, Accepts f (Text.strip (value.getD []))
    · obtain ⟨f, hf, d, hd⟩ := haccepted
      exact .inl ⟨f, hf, d, hd, h.readDate_of_accepted target hf hd,
        h'.readDate_of_accepted target hf hd⟩
    · have hnone : ∀ f ∈ defaultFormats, ¬ Accepts f (Text.strip (value.getD [])) :=
        fun f hf haccepts => haccepted ⟨f, hf, haccepts⟩
      exact .inr ⟨hnone, h.readDate_of_refused target hnone, h'.readDate_of_refused target hnone⟩

def standard : Template where
  name := .ofString "Standard"
  source := .ofString "Text"
  sections := []

def yearsFirst : Template where
  name := .ofString "Years first"
  source := .ofString "Text"
  sections := []
  dateFormats := ["%Y-%m-%d", "%d.%m.%y", "%d.%m.%Y"].map Value.ofString

theorem datesDefault_standard : standard.DatesDefault := List.Perm.refl _

theorem datesDefault_yearsFirst : yearsFirst.DatesDefault := List.reverse_perm defaultFormats

/-- A day that 2023 does not have. -/
def noDay : Option Text := some "29.02.2023".toList

theorem not_accepts_noDay : ∀ f ∈ defaultFormats, ¬ Accepts f (Text.strip (noDay.getD [])) := by
  have hno : ∀ f ∈ defaultFormats, tryDateFormat f (Text.strip (noDay.getD [])) = .ok none := by
    simp only [defaultFormats, List.map_cons, List.map_nil, List.forall_mem_cons]
    exact ⟨rfl, rfl, rfl, by simp⟩
  rintro f hf ⟨d, hd⟩
  rw [hno f hf] at hd
  cases hd

/-- A leap day is read by the template that tries the year in front first, and the day that does not
exist is a fault of both templates. -/
theorem readDate_anyOrder_leapDay :
    yearsFirst.DatesDefault ∧ standard.DatesDefault
      ∧ (⟨2024, 2, 29, by decide⟩ : Date).HasShortYear
      ∧ yearsFirst.readDate "ValutaDate".toList (some "\t29.02.2024 ".toList)
        = .ok ⟨2024, 2, 29, by decide⟩
      ∧ yearsFirst.readDate "ValutaDate".toList (some "\t2024-02-29 ".toList)
        = .ok ⟨2024, 2, 29, by decide⟩
      ∧ yearsFirst.readDate "ValutaDate".toList (some "\t29.02.24 ".toList)
        = .ok ⟨2024, 2, 29, by decide⟩
      ∧ (defaultFormats.Pairwise fun f g =>
        ¬ (Accepts f "29.02.24".toList ∧ Accepts g "29.02.24".toList))
      ∧ yearsFirst.readDate "ValutaDate".toList noDay
        = .error (.unreadable "ValutaDate".toList noDay
          (some (["%Y-%m-%d", "%d.%m.%y", "%d.%m.%Y"].map (·.toList))))
      ∧ standard.readDate "ValutaDate".toList noDay
        = .error (.unreadable "ValutaDate".toList noDay
          (some (["%d.%m.%Y", "%d.%m.%y", "%Y-%m-%d"].map (·.toList)))) := by
  have hyear : (⟨2024, 2, 29, by decide⟩ : Date).HasShortYear := by
    constructor <;> decide
  obtain ⟨hback, hone, horder⟩ := readDate_anyOrder datesDefault_yearsFirst datesDefault_standard
    "ValutaDate".toList
  have htab : Blanks ['\t'] := List.forall_mem_singleton.mpr (by decide)
  obtain ⟨hgerman, hyearFirst, hshort⟩ := hback ⟨2024, 2, 29, by decide⟩ ['\t'] [' '] htab
    Text.blanks_blank
  refine ⟨datesDefault_yearsFirst, datesDefault_standard, hyear, hgerman, hyearFirst, hshort hyear,
    hone _, ?_⟩
  rcases horder noDay with ⟨f, hf, d, hd, -⟩ | ⟨-, hfault⟩
  · exact absurd ⟨d, hd⟩ (not_accepts_noDay f hf)
  · exact hfault

/-- The fault is not the same for every order: it names the formats as they were tried. -/
theorem not_readDate_sameFault : ¬ ∀ (template template' : Template), template.DatesDefault →
    template'.DatesDefault → ∀ (target : Text) (value : Option Text),
      template.readDate target value = template'.readDate target value := by
  intro hall
  have hsame := hall _ _ datesDefault_standard datesDefault_yearsFirst "PostingDate".toList noDay
  rw [datesDefault_standard.readDate_of_refused _ not_accepts_noDay,
    datesDefault_yearsFirst.readDate_of_refused _ not_accepts_noDay] at hsame
  have hformats := (Fault.unreadable.inj (Except.error.inj hsame)).2.2
  exact absurd hformats (by decide)

end Template

end BankStatement
