import BankStatement.Proofs.Pattern.Captures
import BankStatement.Proofs.Reading.GermanAmount
import BankStatement.Proofs.Reading.GermanDate

/-!
# Patterns for dates and amounts

The patterns of the bank statements are built from a few parts: dates, amounts in German notation,
and the gaps between values. Here are the words these parts read: `date_reads`, `gap_reads`,
`amount_reads`. The pattern for amounts reads exactly the written German amounts with at most three
digits in front of the first point.

The parts are written as trees of nodes and not as texts. The pattern of a template is read from its
text once, and the tree so found is shown equal to one that is built from these parts; from there on
a proof about the pattern is one about its parts in a row. What a date looks like to a pattern is
its shape only (`IsDateShape`): the pattern takes `99.99.9999` as well, and whether a day of that
name exists is decided when the value is converted.

`dated_run` is the common beginning of all patterns for booking lines: a date at the start of the
line and a gap. The gap takes all white space at once, as greedy repetitions do, and that this is
right follows from what stands behind it not being blank.
-/

namespace BankStatement.Pattern.German

open Text (Digits Blanks)
open Node

/-! ## The parts -/

def digits (count : Nat) : Node :=
  .times (.oneOf false [.named .digit false]) count (some count) true

/-- Two digits, two digits and a number of digits, with points between them. -/
def dateWith (count : Nat) : Node :=
  .seq (digits 2) (.seq (.char '.') (.seq (digits 2) (.seq (.char '.') (digits count))))

/-- Two digits, two digits and four digits, with points between them. -/
def date : Node :=
  .seq (digits 2) (.seq (.char '.') (.seq (digits 2) (.seq (.char '.') (digits 4))))

def gap : Node := .times (.oneOf false [.named .blank false]) 1 none true

def groups : Node := .times (.seq .empty (.seq (.char '.') (digits 3))) 0 none true

def unsigned : Node :=
  .seq (.times (.oneOf false [.named .digit false]) 1 (some 3) true)
    (.seq groups (.seq (.char ',') (digits 2)))

def amount : Node :=
  .seq (.times (.oneOf false [.range '+' '+', .range '-' '-']) 0 (some 1) true) unsigned

/-! ## Their words -/

theorem oneChar_digit :
    (Node.oneOf false [.named .digit false]).OneChar false isDecimalDigit := by
  refine fun s => (oneChar_named false .digit false s).trans ?_
  simp only [NamedClass.holds, Bool.bne_false]

theorem oneChar_blank : (Node.oneOf false [.named .blank false]).OneChar false isBlank := by
  refine fun s => (oneChar_named false .blank false s).trans ?_
  simp only [NamedClass.holds, Bool.bne_false]

theorem digits_reads (count : Nat) :
    (digits count).Reads false fun w => Digits w ∧ w.length = count := by
  refine (oneChar_digit.reads_times (by simp) true).congr fun w => ?_
  simp only [Option.mem_def, Option.some.injEq, forall_eq']
  exact and_congr_right fun _ => ⟨fun h => Nat.le_antisymm h.2 h.1, fun h => ⟨h.ge, h.le⟩⟩

theorem char_reads (c : Char) : (Node.char c).Reads false (· = [c]) := by
  refine (oneChar_char c).reads.congr fun w => ?_
  simp

/-- Two digits, two digits and a number of digits for the year, with points between them. -/
def IsDateWith (count : Nat) (w : Text) : Prop :=
  ∃ day month year, (Digits day ∧ day.length = 2) ∧ (Digits month ∧ month.length = 2)
    ∧ (Digits year ∧ year.length = count) ∧ w = day ++ '.' :: (month ++ '.' :: year)

theorem dateWith_reads (count : Nat) : (dateWith count).Reads false (IsDateWith count) := by
  refine ((digits_reads 2).seq ((char_reads '.').seq ((digits_reads 2).seq
    ((char_reads '.').seq (digits_reads count))))).congr fun w => ?_
  constructor
  · rintro ⟨day, _, hday, ⟨_, _, rfl, ⟨month, _, hmonth, ⟨_, year, rfl, hyear, rfl⟩, rfl⟩, rfl⟩,
      rfl⟩
    exact ⟨day, month, year, hday, hmonth, hyear, rfl⟩
  · rintro ⟨day, month, year, hday, hmonth, hyear, rfl⟩
    exact ⟨day, _, hday, ⟨_, _, rfl, ⟨month, _, hmonth, ⟨_, year, rfl, hyear, rfl⟩, rfl⟩, rfl⟩, rfl⟩

def IsDateShape (w : Text) : Prop :=
  ∃ day month year, (Digits day ∧ day.length = 2) ∧ (Digits month ∧ month.length = 2)
    ∧ (Digits year ∧ year.length = 4) ∧ w = day ++ '.' :: (month ++ '.' :: year)

theorem date_reads : date.Reads false IsDateShape := dateWith_reads 4

theorem IsDateWith.mem {count : Nat} {w : Text} (h : IsDateWith count w) {c : Char} (hc : c ∈ w) :
    isDecimalDigit c = true ∨ c = '.' := by
  obtain ⟨day, month, year, hday, hmonth, hyear, rfl⟩ := h
  simp only [List.mem_append, List.mem_cons] at hc
  rcases hc with hc | hc | hc | hc | hc
  · exact .inl (hday.1 c hc)
  · exact .inr hc
  · exact .inl (hmonth.1 c hc)
  · exact .inr hc
  · exact .inl (hyear.1 c hc)

theorem IsDateWith.notBlank {count : Nat} {w : Text} (h : IsDateWith count w) {c : Char}
    (hc : c ∈ w) : isBlank c = false := by
  rcases h.mem hc with hc | rfl
  · exact isBlank_of_isDecimalDigit hc
  · decide

theorem IsDateWith.length {count : Nat} {w : Text} (h : IsDateWith count w) :
    w.length = count + 6 := by
  obtain ⟨day, month, year, hday, hmonth, hyear, rfl⟩ := h
  simp only [List.length_append, List.length_cons, hday.2, hmonth.2, hyear.2]
  omega

theorem IsDateWith.not_isInfix {count : Nat} {w t : Text} (h : IsDateWith count w) (ht : '.' ∉ t) :
    ¬ w <:+: t := by
  obtain ⟨day, month, year, -, -, -, rfl⟩ := h
  exact fun hin => ht (hin.subset (List.mem_append_right day List.mem_cons_self))

theorem IsDateWith.head {count : Nat} {w : Text} (h : IsDateWith count w) (rest : Text) :
    ∀ c ∈ (w ++ rest).head?, isBlank c = false := by
  have hne : w ≠ [] := List.ne_nil_of_length_pos (by rw [h.length]; omega)
  obtain ⟨d, w, rfl⟩ := List.exists_cons_of_ne_nil hne
  rintro _ ⟨⟩
  exact h.notBlank List.mem_cons_self

theorem IsDateShape.length {w : Text} (h : IsDateShape w) : w.length = 10 := IsDateWith.length h

theorem isDateShape_german (d : Date) : IsDateShape d.german := by
  obtain ⟨-, hday, -, hmonth, -, hyear⟩ := d.bounds
  exact ⟨_, _, _, ⟨Text.digits_padded 2 d.day, Text.length_padded (by decide) (by omega)⟩,
    ⟨Text.digits_padded 2 d.month, Text.length_padded (by decide) (by omega)⟩,
    ⟨Text.digits_padded 4 d.year, Text.length_padded (by decide) (by omega)⟩, rfl⟩

/-- White space, at least one character. -/
def IsGap (w : Text) : Prop := Blanks w ∧ w ≠ []

theorem isGap_blank : IsGap [' '] := ⟨Text.blanks_blank, List.cons_ne_nil _ _⟩

theorem IsGap.head {g : Text} (h : IsGap g) (rest : Text) :
    ∀ c ∈ (g ++ rest).head?, isBlank c = true := by
  obtain ⟨c, g, rfl⟩ := List.exists_cons_of_ne_nil h.2
  rintro _ ⟨⟩
  exact h.1 c List.mem_cons_self

theorem gap_reads : gap.Reads false IsGap := by
  refine (oneChar_blank.reads_times (by simp) true).congr fun w => ?_
  simp [IsGap, Blanks, Nat.one_le_iff_ne_zero]

def IsGroup (w : Text) : Prop := ∃ g, (Digits g ∧ g.length = 3) ∧ w = '.' :: g

theorem exists_groups_of_words {words : List Text} (h : ∀ w ∈ words, IsGroup w) :
    ∃ gs : List Text, (∀ g ∈ gs, Digits g ∧ g.length = 3)
      ∧ words.flatten = gs.flatMap ('.' :: ·) := by
  induction words with
  | nil => exact ⟨[], by simp, rfl⟩
  | cons w words ih =>
      obtain ⟨⟨g, hg, rfl⟩, hwords⟩ := List.forall_mem_cons.mp h
      obtain ⟨gs, hgs, hflatten⟩ := ih hwords
      refine ⟨g :: gs, List.forall_mem_cons.mpr ⟨hg, hgs⟩, ?_⟩
      rw [List.flatten_cons, hflatten, List.flatMap_cons]

theorem groups_reads :
    groups.Reads false fun w => ∃ gs : List Text, (∀ g ∈ gs, Digits g ∧ g.length = 3)
      ∧ w = gs.flatMap ('.' :: ·) := by
  have hgroup : (Node.seq .empty (.seq (.char '.') (digits 3))).Reads false IsGroup := by
    refine ((reads_empty false).seq ((char_reads '.').seq (digits_reads 3))).congr fun w => ?_
    constructor
    · rintro ⟨_, _, rfl, ⟨_, g, rfl, hg, rfl⟩, rfl⟩
      exact ⟨g, hg, rfl⟩
    · rintro ⟨g, hg, rfl⟩
      exact ⟨[], _, rfl, ⟨_, g, rfl, hg, rfl⟩, rfl⟩
  have hmove : ¬ IsGroup [] := by
    rintro ⟨g, -, h⟩
    cases h
  refine (hgroup.times hmove (by simp) true).congr fun w => ?_
  constructor
  · rintro ⟨words, hall, rfl, -, -⟩
    exact exists_groups_of_words hall
  · rintro ⟨gs, hgs, rfl⟩
    refine ⟨gs.map ('.' :: ·), ?_, List.flatMap_def, Nat.zero_le _, by simp⟩
    intro w hw
    obtain ⟨g, hg, rfl⟩ := List.mem_map.mp hw
    exact ⟨g, hgs g hg, rfl⟩

/-- A written amount with at most three digits in front of the first point. -/
def IsAmount (w : Text) : Prop := ∃ a : GermanAmount, a.lead.length ≤ 3 ∧ a.text = w

theorem unsigned_reads :
    unsigned.Reads false fun w => ∃ a : GermanAmount, a.lead.length ≤ 3 ∧ a.unsigned = w := by
  have hlead : (Node.times (.oneOf false [.named .digit false]) 1 (some 3) true).Reads false
      fun w => Digits w ∧ 1 ≤ w.length ∧ w.length ≤ 3 := by
    refine (oneChar_digit.reads_times (by simp) true).congr fun w => ?_
    simp only [Option.mem_def, Option.some.injEq, forall_eq']
    rfl
  refine (hlead.seq (groups_reads.seq ((char_reads ',').seq (digits_reads 2)))).congr fun w => ?_
  constructor
  · rintro ⟨lead, _, ⟨hlead, hne, hshort⟩,
      ⟨_, _, ⟨gs, hgs, rfl⟩, ⟨_, cents, rfl, ⟨hcents, hlen⟩, rfl⟩, rfl⟩, rfl⟩
    refine ⟨⟨.none, lead, gs, cents, hlead, List.ne_nil_of_length_pos hne, hgs, hcents, hlen⟩,
      hshort, ?_⟩
    simp [GermanAmount.unsigned]
  · rintro ⟨a, ha, rfl⟩
    refine ⟨a.lead, _, ⟨a.lead_digits, List.length_pos_iff.mpr a.lead_ne_nil, ha⟩,
      ⟨_, _, ⟨a.groups, a.groups_digits, rfl⟩,
        ⟨_, a.cents, rfl, ⟨a.cents_digits, a.cents_length⟩, rfl⟩, rfl⟩, ?_⟩
    simp [GermanAmount.unsigned]

theorem sign_reads :
    (Node.times (.oneOf false [.range '+' '+', .range '-' '-']) 0 (some 1) true).Reads false
      fun w => ∃ sign : AmountSign, w = sign.text := by
  have haccepts (c : Char) :
      ([SetItem.range '+' '+', .range '-' '-'].any (·.holds false c) != false) = true
        ↔ c = '+' ∨ c = '-' := by
    have hsame (d : Char) : d ≤ c ∧ c ≤ d ↔ c = d :=
      ⟨fun h => Char.le_antisymm h.2 h.1, fun h => h ▸ ⟨Char.le_refl c, Char.le_refl c⟩⟩
    simp [SetItem.holds, hsame]
  refine ((oneChar_oneOf false false _).reads_times (by simp) true).congr fun w => ?_
  simp only [haccepts, Option.mem_def, Option.some.injEq, forall_eq']
  constructor
  · rintro ⟨hall, -, hlen⟩
    cases w with
    | nil => exact ⟨.none, rfl⟩
    | cons c rest =>
        obtain rfl : rest = [] := List.length_eq_zero_iff.mp (by simpa using hlen)
        rcases hall c List.mem_cons_self with rfl | rfl
        · exact ⟨.plus, rfl⟩
        · exact ⟨.minus, rfl⟩
  · rintro ⟨sign, rfl⟩
    cases sign <;> simp [AmountSign.text]

theorem amount_reads : amount.Reads false IsAmount := by
  refine (sign_reads.seq unsigned_reads).congr fun w => ?_
  constructor
  · rintro ⟨_, _, ⟨sign, rfl⟩, ⟨a, ha, rfl⟩, rfl⟩
    exact ⟨{ a with sign }, ha, rfl⟩
  · rintro ⟨a, ha, rfl⟩
    exact ⟨_, _, ⟨a.sign, rfl⟩, ⟨a, ha, rfl⟩, rfl⟩

/-! ## Lines that begin with a date -/

/-- The rest of a pattern behind a date at the start of the line and a gap. -/
def dated (rest : Node) : Node := .seq (.place .start) (.seq (.group 1 date) (.seq gap rest))

/-- Behind the date and the whole gap the match goes on with the rest. -/
theorem dated_run {rest : Node} {s found : Spot} {day g text : Text} (hstart : s.position = 0)
    (hs : s.ahead = day ++ (g ++ text)) (hday : IsDateShape day) (hg : IsGap g)
    (htext : ∀ c ∈ text.head?, isBlank c = false)
    (hfound : rest.run false ((s.skip (day.length + g.length)).mark [(1, day)]) some = some found) :
    (dated rest).run false s some = some found := by
  have hdate : day <+: s.ahead := hs ▸ List.prefix_append day _
  have honly : ∀ v, IsDateShape v → v <+: s.ahead → v = day := by
    intro v hv hahead
    have hlength : v.length = day.length := hv.length.trans hday.length.symm
    exact (List.prefix_of_prefix_length_le hahead hdate hlength.le).eq_of_length hlength
  have hgap : ((s.skip day.length).mark [(1, day)]).ahead.takeWhile isBlank = g := by
    rw [Spot.ahead_mark, Spot.ahead_skip, hs, List.drop_left, Text.takeWhile_of_all hg.1 htext]
  show (if s.isAt .start then date.run false s (fun t => gap.run false (Spot.close 1 s t) fun u =>
    rest.run false u some) else none) = _
  rw [if_pos (by simp [Spot.isAt, hstart]), run_of_only date_reads hday hdate honly,
    Spot.close_prefix 1 hdate]
  refine run_greedy oneChar_blank ?_ ?_
  · rw [hgap]
    exact List.length_pos_iff.mpr hg.2
  · rw [hgap, Spot.skip_mark, Spot.skip_skip, hfound]

end BankStatement.Pattern.German
