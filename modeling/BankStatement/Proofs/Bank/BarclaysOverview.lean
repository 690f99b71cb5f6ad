import BankStatement.Proofs.Reading.Assigning
import BankStatement.Proofs.Reading.GermanPatterns
import BankStatement.Proofs.Reading.ShortDate
import BankStatement.Proofs.Session.Records
import BankStatement.Template.Bundled.Barclays

/-!
# General movements of Barclays overviews

The general table of an overview is read with one pattern. A price of it has at most three digits in
front of the comma, and a text begins with one price at most (`IsPrice.unique`), so that date and
total are found in one way only (`booked_unique`).

What the pattern finds divides a line into parts (`exists_divides`), and the parts decide what is
read of the line (`readRecord_of_found`): without a date that exists it is an error, and a line in
which nothing is found is skipped (`readRecord_of_not_found`).

A division is a weaker notion than a match. It says which texts stand one behind the other and what
each of them is, and leaves open which of several divisions the search comes to, so it can be taken
from a match without following the search (each part has a lemma of what it captures). This is
enough to tell what a row that was read must look like. The other direction, that a certain row is
found with certain parts, does need the search, and is in `Proofs.Bank.BarclaysFees`.

The parts of the pattern are named here once: `label`, `title`, `booked` and `detail`, in the order
in which they stand on a line. The pattern has a group for the label and one for the total that no
variable is read from, so they are found and thrown away.
-/

namespace BankStatement.BarclaysOverview

open Pattern Pattern.Node Pattern.German
open Text (Blanks Digits Trimmed)

/-! ## Prices -/

/-- An amount of at most three digits in front of the comma, without points. -/
def IsShort (a : GermanAmount) : Prop := a.groups = [] ∧ a.lead.length ≤ 3

instance (a : GermanAmount) : Decidable (IsShort a) := inferInstanceAs (Decidable (_ ∧ _))

def IsPrice (w : Text) : Prop := ∃ a, IsShort a ∧ a.unsigned = w

variable {a b : GermanAmount}

theorem IsShort.unsigned (h : IsShort a) : a.unsigned = a.lead ++ ',' :: a.cents := by
  simp [GermanAmount.unsigned, h.1]

theorem head_unsigned (a : GermanAmount) (rest : Text) :
    ∀ c ∈ (a.unsigned ++ rest).head?, isBlank c = false := by
  obtain ⟨c, lead, hlead⟩ := List.exists_cons_of_ne_nil a.lead_ne_nil
  have hc : isDecimalDigit c = true := a.lead_digits c (hlead ▸ List.mem_cons_self)
  rw [GermanAmount.unsigned, hlead]
  rintro _ ⟨⟩
  exact isBlank_of_isDecimalDigit hc

/-- The digits in front of a mark. -/
theorem digits_append_cons_inj {t u x y : Text} {c d : Char} (ht : Digits t) (hu : Digits u)
    (hc : isDecimalDigit c = false) (hd : isDecimalDigit d = false)
    (h : t ++ c :: x = u ++ d :: y) : t = u ∧ c :: x = d :: y :=
  Text.append_inj_of_all ht hu (by simpa using hc) (by simpa using hd) h

/-- A price at the beginning of an amount is the whole amount: the comma comes first in both behind
the digits, and two digits follow it. So with a short one in front, a longer amount is not begun. -/
theorem IsShort.of_start (hb : IsShort b) (h : b.unsigned <+: a.unsigned) :
    IsShort a ∧ b.unsigned = a.unsigned := by
  obtain ⟨rest, hrest⟩ := h
  rw [hb.unsigned, GermanAmount.unsigned, List.append_assoc, List.append_assoc, List.cons_append]
    at hrest
  cases hgroups : a.groups with
  | nil =>
      rw [hgroups, List.flatMap_nil, List.nil_append] at hrest
      obtain ⟨hlead, hcents⟩ :=
        digits_append_cons_inj b.lead_digits a.lead_digits (by decide) (by decide) hrest
      have ha : IsShort a := ⟨hgroups, hlead ▸ hb.2⟩
      have hlength := a.cents_length
      rw [← (List.cons.inj hcents).2, List.length_append, b.cents_length] at hlength
      have hnil : rest = [] := List.length_eq_zero_iff.mp (by omega)
      rw [hnil, List.append_nil] at hcents
      exact ⟨ha, by rw [hb.unsigned, ha.unsigned, hlead, hcents]⟩
  | cons g gs =>
      rw [hgroups, List.flatMap_cons, List.cons_append, List.cons_append] at hrest
      obtain ⟨-, hmark⟩ :=
        digits_append_cons_inj b.lead_digits a.lead_digits (by decide) (by decide) hrest
      cases hmark

theorem IsPrice.head {w : Text} (h : IsPrice w) (rest : Text) :
    ∀ c ∈ (w ++ rest).head?, isBlank c = false := by
  obtain ⟨a, -, rfl⟩ := h
  exact head_unsigned a rest

/-- A text begins with one price at most. The pattern has no boundary behind a price, so this rests
on the comma and the two digits behind it. -/
theorem IsPrice.unique {v w t : Text} (hv : IsPrice v) (hw : IsPrice w) (hvt : v <+: t)
    (hwt : w <+: t) : v = w := by
  obtain ⟨a, ha, rfl⟩ := hv
  obtain ⟨b, hb, rfl⟩ := hw
  rcases List.prefix_or_prefix_of_prefix hvt hwt with hab | hba
  · exact (ha.of_start hab).2
  · exact (hb.of_start hba).2.symm

theorem notMem_unsigned (a : GermanAmount) {c : Char} (hc : isDecimalDigit c = false)
    (hmarks : c ∉ ['.', ',']) : c ∉ a.unsigned := by
  simp only [List.mem_cons, List.not_mem_nil, or_false, not_or] at hmarks
  simp only [GermanAmount.unsigned, List.mem_append, List.mem_flatMap, List.mem_cons, not_or,
    not_exists, not_and]
  have hno {t : Text} (ht : Digits t) : c ∉ t := ht.notMem hc
  exact ⟨⟨hno a.lead_digits, fun g hg => ⟨hmarks.1, hno (a.groups_digits g hg).1⟩⟩, hmarks.2,
    hno a.cents_digits⟩

/-- Date and total are found in one way only, whatever blanks stand between them and whatever
follows: a date has a fixed length and the total ends at its sign. -/
theorem booked_unique {g h g' h' day day' rest rest' : Text} (hg : Blanks g) (hh : Blanks h)
    (hg' : Blanks g') (hh' : Blanks h') (hday : IsDateWith 2 day) (hday' : IsDateWith 2 day')
    (heq : g ++ (day ++ (g' ++ (a.unsigned ++ '-' :: rest)))
      = h ++ (day' ++ (h' ++ (b.unsigned ++ '-' :: rest')))) :
    g = h ∧ day = day' ∧ g' = h' ∧ a.unsigned = b.unsigned ∧ rest = rest' := by
  obtain ⟨hgap, hdate⟩ := Text.append_inj_of_all hg hh (hday.head _) (hday'.head _) heq
  obtain ⟨hsame, hgap'⟩ := List.append_inj hdate (hday.length.trans hday'.length.symm)
  obtain ⟨hgaps, htotal⟩ :=
    Text.append_inj_of_all hg' hh' (head_unsigned a _) (head_unsigned b _) hgap'
  obtain ⟨hab, hrest⟩ := Text.append_cons_inj (notMem_unsigned a (by decide) (by decide))
    (notMem_unsigned b (by decide) (by decide)) htotal
  exact ⟨hgap, hsame, hgaps, hab, hrest⟩

/-! ## The pattern -/

def price : Node :=
  .seq (.times (.oneOf false [.named .digit false]) 1 (some 3) true) (.seq (.char ',') (digits 2))

theorem price_reads : price.Reads false IsPrice := by
  have hlead : (Node.times (.oneOf false [.named .digit false]) 1 (some 3) true).Reads false
      fun w => Digits w ∧ 1 ≤ w.length ∧ w.length ≤ 3 := by
    refine (oneChar_digit.reads_times (by simp) true).congr fun w => ?_
    simp only [Option.mem_def, Option.some.injEq, forall_eq']
    rfl
  refine (hlead.seq ((char_reads ',').seq (digits_reads 2))).congr fun w => ?_
  constructor
  · rintro ⟨lead, _, ⟨hlead, hne, hshort⟩, ⟨_, cents, rfl, ⟨hcents, hlen⟩, rfl⟩, rfl⟩
    have hlead_ne : lead ≠ [] := List.ne_nil_of_length_pos hne
    have ha : IsShort (.ungrouped .none lead cents hlead hlead_ne hcents hlen) := ⟨rfl, hshort⟩
    exact ⟨_, ha, ha.unsigned⟩
  · rintro ⟨a, ha, rfl⟩
    exact ⟨a.lead, _, ⟨a.lead_digits, List.length_pos_iff.mpr a.lead_ne_nil, ha.2⟩,
      ⟨_, a.cents, rfl, ⟨a.cents_digits, a.cents_length⟩, rfl⟩, ha.unsigned⟩

def blanks : Node := .times (.oneOf false [.named .blank false]) 0 none true

/-- A word and a colon, perhaps behind blanks. -/
def label : Node :=
  .seq .empty (.seq blanks (.seq (.group 1 (.times (.oneOf false [.named .word false]) 1 none true))
    (.char ':')))

def title : Node := .group 2 (.times .anyChar 0 none false)

/-- The date and the total behind a name. -/
def booked : Node :=
  .seq gap (.seq (.group 3 (dateWith 2)) (.seq gap (.seq (.group 4 price) (.char '-'))))

def priced : Node := .seq gap (.group 6 price)

/-- The description behind the total, and the price that ends it. -/
def detail : Node := .seq gap (.seq (.group 5 (.times .anyChar 1 none false)) priced)

def general : Pattern := Pattern.ofLiteral Bundled.barclaysGeneral

theorem general_eq : general = {
    source := Bundled.barclaysGeneral.toList
    node := .seq (.place .start) (.seq (.times label 0 (some 1) true) (.seq blanks (.seq title
      (.seq gap (.seq (.group 3 (dateWith 2)) (.seq gap (.seq (.group 4 price) (.seq (.char '-')
        detail))))))))
    names := [("Buchungsart".toList, 1), ("SourceName".toList, 2), ("PostingDate".toList, 3),
      ("Gesamtbetrag".toList, 4), ("Description".toList, 5), ("Amount".toList, 6)] } := by
  decide +kernel

def row : Node :=
  .seq (.times label 0 (some 1) true) (.seq blanks (.seq title (.seq booked detail)))

theorem search_general (line : Text) :
    general.search? line
      = (row.run false ⟨0, none, line, []⟩ some).map fun s => ⟨s.groups⟩ :=
  search?_of_start (congrArg Pattern.node general_eq) (congrArg Pattern.ignoreCase general_eq) line

/-! ## What its parts read -/

/-- The text and the group of a label. -/
def LabelMarks (w : Text) (marks : List (Nat × Text)) : Prop :=
  ∃ before art, Blanks before ∧ art ≠ [] ∧ (∀ c ∈ art, isWordChar c = true)
    ∧ w = before ++ (art ++ [':']) ∧ marks = [(1, art)]

/-- The text between name and description, and its groups. -/
def BookedMarks (w : Text) (marks : List (Nat × Text)) : Prop :=
  ∃ g day g' total, IsGap g ∧ IsDateWith 2 day ∧ IsGap g' ∧ IsPrice total
    ∧ w = g ++ (day ++ (g' ++ (total ++ ['-']))) ∧ marks = [(4, total), (3, day)]

/-- The text of a price behind a gap, and its group. -/
def PriceMarks (w : Text) (marks : List (Nat × Text)) : Prop :=
  ∃ g p, IsGap g ∧ IsPrice p ∧ w = g ++ p ∧ marks = [(6, p)]

theorem oneChar_word : (Node.oneOf false [.named .word false]).OneChar false isWordChar := by
  refine fun s => (oneChar_named false .word false s).trans ?_
  simp only [NamedClass.holds, Bool.bne_false]

theorem blanks_reads : blanks.Reads false Blanks := by
  refine (oneChar_blank.reads_times (by simp) true).congr fun w => ?_
  simp [Blanks]

theorem label_captures : label.Captures false LabelMarks := by
  have hword : (Node.times (.oneOf false [.named .word false]) 1 none true).Reads false
      fun w => w ≠ [] ∧ ∀ c ∈ w, isWordChar c = true := by
    refine (oneChar_word.reads_times (by simp) true).congr fun w => ?_
    simp [Nat.one_le_iff_ne_zero, and_comm]
  refine ((reads_empty false).captures.seq (blanks_reads.captures.seq ((hword.group 1).seq
    (char_reads ':').captures))).congr fun w marks => ?_
  constructor
  · rintro ⟨_, _, _, _, ⟨rfl, rfl⟩, ⟨before, _, _, _, ⟨hbefore, rfl⟩, ⟨art, _, _, _, ⟨hart, rfl⟩,
      ⟨rfl, rfl⟩, rfl, rfl⟩, rfl, rfl⟩, rfl, rfl⟩
    exact ⟨before, art, hbefore, hart.1, hart.2, rfl, rfl⟩
  · rintro ⟨before, art, hbefore, hne, hart, rfl, rfl⟩
    exact ⟨[], _, _, _, ⟨rfl, rfl⟩, ⟨before, _, _, _, ⟨hbefore, rfl⟩,
      ⟨art, _, _, _, ⟨⟨hne, hart⟩, rfl⟩, ⟨rfl, rfl⟩, rfl, rfl⟩, rfl, rfl⟩, rfl, rfl⟩

theorem booked_captures : booked.Captures false BookedMarks := by
  refine (gap_reads.captures.seq (((dateWith_reads 2).group 3).seq (gap_reads.captures.seq
    ((price_reads.group 4).seq (char_reads '-').captures)))).congr fun w marks => ?_
  constructor
  · rintro ⟨g, _, _, _, ⟨hg, rfl⟩, ⟨day, _, _, _, ⟨hday, rfl⟩, ⟨g', _, _, _, ⟨hg', rfl⟩,
      ⟨total, _, _, _, ⟨htotal, rfl⟩, ⟨rfl, rfl⟩, rfl, rfl⟩, rfl, rfl⟩, rfl, rfl⟩, rfl, rfl⟩
    exact ⟨g, day, g', total, hg, hday, hg', htotal, rfl, rfl⟩
  · rintro ⟨g, day, g', total, hg, hday, hg', htotal, rfl, rfl⟩
    exact ⟨g, _, _, _, ⟨hg, rfl⟩, ⟨day, _, _, _, ⟨hday, rfl⟩, ⟨g', _, _, _, ⟨hg', rfl⟩,
      ⟨total, _, _, _, ⟨htotal, rfl⟩, ⟨rfl, rfl⟩, rfl, rfl⟩, rfl, rfl⟩, rfl, rfl⟩, rfl, rfl⟩

theorem priced_captures : priced.Captures false PriceMarks := by
  refine (gap_reads.captures.seq (price_reads.group 6)).congr fun w marks => ?_
  constructor
  · rintro ⟨g, p, _, _, ⟨hg, rfl⟩, ⟨hp, rfl⟩, rfl, rfl⟩
    exact ⟨g, p, hg, hp, rfl, rfl⟩
  · rintro ⟨g, p, hg, hp, rfl, rfl⟩
    exact ⟨g, p, _, _, ⟨hg, rfl⟩, ⟨hp, rfl⟩, rfl, rfl⟩

structure Parts where
  label : Option Text
  name : Text
  day : Text
  total : Text
  description : Text
  price : Text

/-- The groups of a match, the latest first. -/
def Parts.found (p : Parts) : Match where
  groups := [(6, p.price), (5, p.description), (4, p.total), (3, p.day), (2, p.name)]
    ++ p.label.toList.map ((1, ·))

/-- The front of a line, up to its label if it has one. -/
def IsFront (front : Text) (art : Option Text) : Prop :=
  match art with
  | none => front = []
  | some art => LabelMarks front [(1, art)]

/-- How the pattern divides a line into parts. -/
def Divides (line : Text) (p : Parts) : Prop :=
  ∃ front between g₁ g₂ g₃ g₄ rest, IsFront front p.label ∧ Blanks between ∧ IsGap g₁
    ∧ IsDateWith 2 p.day ∧ IsGap g₂ ∧ IsPrice p.total ∧ IsGap g₃ ∧ p.description ≠ [] ∧ IsGap g₄
    ∧ IsPrice p.price
    ∧ line = front ++ (between ++ (p.name ++ (g₁ ++ (p.day ++ (g₂ ++ (p.total ++ '-' :: (g₃
      ++ (p.description ++ (g₄ ++ (p.price ++ rest))))))))))

/-- Whatever the pattern finds divides the line. Nothing is said about lines that are divided in
several ways, so a match can be used but not foretold by this. -/
theorem exists_divides {line : Text} {found : Match} (h : general.search? line = some found) :
    ∃ p : Parts, Divides line p ∧ found = p.found := by
  have hname : (Node.times .anyChar 0 none false).Reads false _ :=
    (oneChar_anyChar false).reads_times (by simp) false
  have hdescription : (Node.times .anyChar 1 none false).Reads false _ :=
    (oneChar_anyChar false).reads_times (by simp) false
  have hrow := label_captures.optional.seq (blanks_reads.captures.seq ((hname.group 2).seq
    (booked_captures.seq (gap_reads.captures.seq ((hdescription.group 5).seq priced_captures)))))
  rw [search_general, Option.map_eq_some_iff] at h
  obtain ⟨s, hs, rfl⟩ := h
  obtain ⟨_, _, ⟨front, _, first, _, hfront, ⟨between, _, _, _, ⟨hbetween, rfl⟩,
    ⟨name, _, _, _, ⟨-, rfl⟩, ⟨_, _, _, _, ⟨g₁, day, g₂, total, hg₁, hday, hg₂, htotal, rfl, rfl⟩,
      ⟨g₃, _, _, _, ⟨hg₃, rfl⟩, ⟨description, _, _, _, ⟨hdescription, rfl⟩,
        ⟨g₄, price, hg₄, hprice, rfl, rfl⟩, rfl, rfl⟩, rfl, rfl⟩, rfl, rfl⟩, rfl, rfl⟩, rfl, rfl⟩,
    rfl, rfl⟩, ⟨rest, hrest⟩, rfl⟩ := hrow.exists_of_run hs
  have hne : description ≠ [] := List.ne_nil_of_length_pos hdescription.2.1
  rcases hfront with ⟨before, art, hbefore, hart, hword, rfl, rfl⟩ | ⟨rfl, rfl⟩
  · refine ⟨⟨some art, name, day, total, description, price⟩, ⟨_, between, g₁, g₂, g₃, g₄, rest,
      ⟨before, art, hbefore, hart, hword, rfl, rfl⟩, hbetween, hg₁, hday, hg₂, htotal, hg₃, hne,
      hg₄, hprice, ?_⟩, ?_⟩
    · simpa using hrest.symm
    · simp [Parts.found, Spot.mark]
  · refine ⟨⟨none, name, day, total, description, price⟩, ⟨[], between, g₁, g₂, g₃, g₄, rest, rfl,
      hbetween, hg₁, hday, hg₂, htotal, hg₃, hne, hg₄, hprice, ?_⟩, ?_⟩
    · simpa using hrest.symm
    · simp [Parts.found, Spot.mark]

/-! ## What is read of a match -/

def generalRule : Rule :=
  { pattern := general, multiplier := -1, role := .primary, maxOccurrence := none }

theorem pattern_generalRule : generalRule.pattern = general := by simp only [generalRule]

theorem primary_rules : Bundled.barclaysGeneralTable.rulesOf .primary = [generalRule] := rfl

theorem additional_rules : Bundled.barclaysGeneralTable.rulesOf .additional = [] := rfl

theorem correct_overview (t : Text) : Bundled.barclaysOverview.correct t = .ok t := rfl

theorem amountsGerman_overview : Bundled.barclaysOverview.AmountsGerman := ⟨rfl, rfl⟩

theorem datesShort_overview : Bundled.barclaysOverview.DatesShort := ⟨_, rfl⟩

/-- An amount without a sign is positive. -/
theorem readAmount_unsigned (a : GermanAmount) (target : Text) :
    Bundled.barclaysOverview.readAmount target (some a.unsigned)
      = .ok (Decimal.round ⟨false, a.count, -2⟩) :=
  Template.readAmount_german amountsGerman_overview target { a with sign := .none }

/-- The values of a match with a date that exists. -/
def Parts.movement (p : Parts) (d : Date) (a : GermanAmount) : Movement where
  bookingDate := some d
  counterparty := if p.name = [] then none else some (Text.strip p.name)
  subject := some (Text.strip p.description)
  amount := Decimal.round ⟨false, a.count, -2⟩ * Decimal.ofInt (-1)

variable {line : Text} {p : Parts}

theorem namedGroups_found (p : Parts) :
    general.namedGroups p.found = [("Buchungsart".toList, p.label),
      (MovementVariable.counterparty.label, some p.name),
      (MovementVariable.bookingDate.label, some p.day), ("Gesamtbetrag".toList, some p.total),
      (MovementVariable.subject.label, some p.description),
      (MovementVariable.amount.label, some p.price)] := by
  obtain ⟨label, name, day, total, description, price⟩ := p
  rw [namedGroups, general_eq]
  cases label <;> rfl

/-- A match gives the movement of its parts, or the fault of its date. The price is an amount by its
form and cannot fail, and the texts are taken as they are. -/
theorem apply_of_found (hfound : general.search? line = some p.found) (hday : p.day ≠ [])
    (hdescription : p.description ≠ []) (hprice : p.price = a.unsigned) (header : Header) :
    ∃ m : Movement, generalRule.apply Bundled.barclaysOverview line .always ⟨header, some {}⟩
      = match Bundled.barclaysOverview.readDate MovementVariable.bookingDate.label (some p.day) with
        | .error fault => (⟨header, some m⟩, .error fault)
        | .ok d => (⟨header, some (p.movement d a)⟩, .ok true) := by
  have hne : p.price ≠ [] := by
    rw [hprice]
    simp [GermanAmount.unsigned]
  -- the label and the total are no variables, and a name without text gives nothing
  have hname (groups : List (Text × Option Text)) :
      Rule.assignGroups Bundled.barclaysOverview .always generalRule.multiplier
          (("Buchungsart".toList, p.label) :: (MovementVariable.counterparty.label, some p.name)
            :: groups) ⟨header, some {}⟩
        = Rule.assignGroups Bundled.barclaysOverview .always generalRule.multiplier groups
          ⟨header, some { counterparty :=
            if p.name = [] then none else some (Text.strip p.name) }⟩ := by
    rw [Rule.assignGroups_unknown (by decide) (by decide)]
    split
    next hnil => exact Rule.assignGroups_empty hnil
    next hne =>
      exact Rule.assignGroups_cons hne (placesIn_label _)
        (Movement.assign_counterparty_first rfl (correct_overview _))
  rw [← pattern_generalRule] at hfound
  refine ⟨{ counterparty := if p.name = [] then none else some (Text.strip p.name) }, ?_⟩
  cases hread : Bundled.barclaysOverview.readDate MovementVariable.bookingDate.label
      (some p.day) with
  | error fault =>
      refine Rule.apply_of_fault hfound ?_
      rw [pattern_generalRule, namedGroups_found, hname]
      exact Rule.assignGroups_error hday (placesIn_label _)
        (Movement.assign_bookingDate_error hread)
  | ok d =>
      refine Rule.apply_of_found hfound ?_
      rw [pattern_generalRule, namedGroups_found, hname,
        Rule.assignGroups_cons hday (placesIn_label _) (Movement.assign_bookingDate_of hread),
        Rule.assignGroups_unknown (by decide) (by decide),
        Rule.assignGroups_cons hdescription (placesIn_label _)
          (Movement.assign_subject_of (correct_overview _)),
        Rule.assignGroups_cons hne (placesIn_label _)
          (Movement.assign_amount_of (hprice ▸ readAmount_unsigned a _))]
      rfl

theorem readRecord_of_found (hfound : general.search? line = some p.found) (hday : p.day ≠ [])
    (hdescription : p.description ≠ []) (hprice : p.price = a.unsigned) (today : Date)
    (withAdditional : Bool) (header : Header) :
    Bundled.barclaysGeneralTable.readRecord Bundled.barclaysOverview today withAdditional line
        header
      = (header,
        (Bundled.barclaysOverview.readDate MovementVariable.bookingDate.label (some p.day)).map
          fun d => some { p.movement d a with isPreview := today.isBefore d }) := by
  obtain ⟨m, happly⟩ := apply_of_found hfound hday hdescription hprice header
  rw [Section.readRecord_of_only_rule rfl rfl rfl primary_rules additional_rules, happly]
  cases Bundled.barclaysOverview.readDate MovementVariable.bookingDate.label (some p.day) with
  | error fault => rfl
  | ok d =>
      show (header, Except.ok ((p.movement d a).finished? today)) = _
      rw [Movement.finished?_of_bookingDate rfl]
      rfl

theorem readRecord_of_not_found (h : general.search? line = none) (today : Date)
    (withAdditional : Bool) (header : Header) :
    Bundled.barclaysGeneralTable.readRecord Bundled.barclaysOverview today withAdditional line
        header
      = (header, .ok none) := by
  have happly : generalRule.apply Bundled.barclaysOverview line .always ⟨header, some {}⟩
      = (⟨header, some {}⟩, .ok false) := by
    simp only [Rule.apply, pattern_generalRule, h]
  rw [Section.readRecord_of_only_rule rfl rfl rfl primary_rules additional_rules, happly]
  rfl

end BankStatement.BarclaysOverview
