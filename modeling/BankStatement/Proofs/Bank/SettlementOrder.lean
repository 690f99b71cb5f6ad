import BankStatement.Bank.Settlement
import Mathlib.Data.List.Basic

/-!
# The order of settlement lines

Every line of a settlement is about one matter, and each matter has patterns of its own. Lines about
different matters change different facts (`add_comm`); the two kinds of lines that name a booking
date share one, but there a document date counts whichever line comes first. So such lines can
change places (`addText_comm`), and a document says the same in every order that keeps the lines of
each matter in theirs (`read_rearranged`). The booking date is that of the last document date, and
without one that of the first payday (`bookingDate_foldlM`).

`Rearranged` and `foldlM_rearranged` hold for steps of any kind.

Lines may be about several matters in principle, as the patterns are tried one after the other on
the whole line. Then the first one counts and the order of lines could matter, so the statements ask
for lines that are `Unmixed`. Likewise the dates have to exist: a date that does not ends the
reading, whatever would have come behind it, and so it makes a difference which lines were read
before.

One dependence between lines is left. A line about the action is read differently once the
settlement is known to be a dividend, because the marker of a distribution is not looked for any
more. What a line says is therefore given as `said`, with the mark of a distribution as an argument,
and only lines about the action look at it (`said_of_not_action`).
-/

namespace BankStatement.Settlement

/-! ## Steps that can change places -/

section Rearranging

variable {σ α κ : Type} {step : σ → α → Option σ} {holds : κ → α → Bool} {l l' : List α}

/-- Two lists have the same elements of every class, and in the same order. Elements of no class are
left open. -/
def Rearranged (holds : κ → α → Bool) (l l' : List α) : Prop :=
  ∀ c, l.filter (holds c) = l'.filter (holds c)

theorem Rearranged.mem (h : Rearranged holds l l') {a : α} {c : κ} (ha : a ∈ l')
    (hc : holds c a = true) : a ∈ l := by
  have hmem : a ∈ l'.filter (holds c) := List.mem_filter.mpr ⟨ha, hc⟩
  rw [← h c] at hmem
  exact (List.mem_filter.mp hmem).1

theorem foldlM_idle (hidle : ∀ a ∈ l, ∀ s, step s a = some s) (s : σ) :
    l.foldlM step s = some s := by
  induction l with
  | nil => rfl
  | cons a l ih =>
      rw [List.foldlM_cons, hidle a List.mem_cons_self]
      exact ih fun b hb => hidle b (List.mem_cons_of_mem a hb)

/-- A step is taken first if it can change places with all before it. The induction is on these, and
each of them hands the step one place to the front. -/
theorem foldlM_past {a : α} {before : List α}
    (hcomm : ∀ b ∈ before, ∀ s, (step s b).bind (step · a) = (step s a).bind (step · b))
    (after : List α) (s : σ) :
    (before ++ a :: after).foldlM step s = (a :: (before ++ after)).foldlM step s := by
  induction before generalizing s with
  | nil => rfl
  | cons b before ih =>
      obtain ⟨hb, hbefore⟩ := List.forall_mem_cons.mp hcomm
      calc (b :: (before ++ a :: after)).foldlM step s
          = (step s b).bind fun s' => (a :: (before ++ after)).foldlM step s' := by
            rw [List.foldlM_cons]
            exact congrArg (Option.bind _) (funext fun s' => ih hbefore s')
        _ = ((step s b).bind (step · a)).bind fun s' => (before ++ after).foldlM step s' := by
            rw [Option.bind_assoc]
            rfl
        _ = ((step s a).bind (step · b)).bind fun s' => (before ++ after).foldlM step s' := by
            rw [hb]
        _ = (a :: (b :: before ++ after)).foldlM step s := by
            rw [Option.bind_assoc]
            rfl

/-- Steps of different classes can change places, and steps of no class do nothing: then only the
order within each class counts. The induction is on the first list; its head is looked for in the
second one, where nothing of its class stands in front of it. -/
theorem foldlM_rearranged (hone : ∀ a ∈ l, ∀ c d, holds c a = true → holds d a = true → c = d)
    (hidle : ∀ a, (∀ c, holds c a = false) → ∀ s, step s a = some s)
    (hcomm : ∀ a ∈ l, ∀ b ∈ l, ∀ c d, holds c a = true → holds d b = true → c ≠ d →
      ∀ s, (step s a).bind (step · b) = (step s b).bind (step · a))
    (h : Rearranged holds l l') (s : σ) : l.foldlM step s = l'.foldlM step s := by
  induction l generalizing l' s with
  | nil =>
      refine (foldlM_idle (fun a ha => hidle a fun c => ?_) s).symm
      exact Bool.eq_false_iff.mpr (List.filter_eq_nil_iff.mp (h c).symm a ha)
  | cons a l ih =>
      obtain ⟨hone_a, hone⟩ := List.forall_mem_cons.mp hone
      have ih {l' : List α} := @ih l' hone fun b hb b' hb' =>
        hcomm b (List.mem_cons_of_mem a hb) b' (List.mem_cons_of_mem a hb')
      by_cases hclass : ∃ c, holds c a = true
      · obtain ⟨c, hc⟩ := hclass
        -- the first element of its class in the other list, and what stands before it
        have hfirst := h c
        rw [List.filter_cons_of_pos hc, eq_comm, List.filter_eq_cons_iff] at hfirst
        obtain ⟨before, after, rfl, hbefore, -, hafter⟩ := hfirst
        rw [foldlM_past (fun b hb s => ?_) after s, List.foldlM_cons, List.foldlM_cons]
        · refine congrArg (Option.bind _) (funext fun s' => ih (fun d => ?_) s')
          by_cases hd : d = c
          · rw [hd, List.filter_append, List.filter_eq_nil_iff.mpr hbefore, hafter, List.nil_append]
          · have hda : ¬holds d a = true := fun hda => hd (hone_a d c hda hc)
            have hsame := h d
            rwa [List.filter_cons_of_neg hda, List.filter_append, List.filter_cons_of_neg hda,
              ← List.filter_append] at hsame
        · by_cases hnone : ∀ d, holds d b = false
          · simp only [hidle b hnone, Option.bind_some, Option.bind_fun_some]
          · obtain ⟨d, hd⟩ := not_forall.mp hnone
            rw [Bool.not_eq_false] at hd
            have hmem : b ∈ a :: l := h.mem (List.mem_append_left _ hb) hd
            exact hcomm b hmem a List.mem_cons_self d c hd hc
              (fun hdc => hbefore b hb (hdc ▸ hd)) s
      · have hnone : ∀ c, holds c a = false := by simpa using hclass
        rw [List.foldlM_cons, hidle a hnone]
        refine ih (fun c => ?_) s
        rw [← h c, List.filter_cons_of_neg (by rw [hnone c]; exact Bool.false_ne_true)]

end Rearranging

/-! ## Matters -/

inductive Matter where
  | action
  | orderNumber
  | isin
  | securityName
  | nominal
  | total
  | iban
  | payday
  | documentDate
  | valutaDate
  | tax
  | commission
  deriving DecidableEq, Repr

def Line.matter : Line → Matter
  | .distribution => .action
  | .sale => .action
  | .purchase => .action
  | .orderNumber _ => .orderNumber
  | .isin _ => .isin
  | .securityName _ => .securityName
  | .nominal _ => .nominal
  | .total .. => .total
  | .iban _ => .iban
  | .payday _ => .payday
  | .documentDate _ => .documentDate
  | .valutaDate _ => .valutaDate
  | .tax .. => .tax
  | .commission _ => .commission

/-- The date that a line gives, as it is written. -/
def Line.date? : Line → Option Text
  | .payday date => some date
  | .documentDate date => some date
  | .valutaDate date => some date
  | _ => none

/-- The date of a line, if it gives one, exists. -/
def Line.DateExists (l : Line) : Prop := ∀ date ∈ l.date?, ∃ d, dateLayout.read? date = some d

namespace Matter

def all : List Matter :=
  [.action, .orderNumber, .isin, .securityName, .nominal, .total, .iban, .payday, .documentDate,
    .valutaDate, .tax, .commission]

theorem mem_all (m : Matter) : m ∈ all := by cases m <;> decide

def patterns : Matter → List Pattern
  | .action => [salePattern, purchasePattern]
  | .orderNumber => [orderPattern]
  | .isin => [isinPattern]
  | .securityName => [namePattern]
  | .nominal => [nominalPattern]
  | .total => [totalPattern]
  | .iban => [ibanPattern]
  | .payday => [paydayPattern]
  | .documentDate => [datePattern]
  | .valutaDate => [valutaPattern]
  | .tax => [taxPattern]
  | .commission => [commissionPattern]

def dated : List Matter := [.payday, .documentDate, .valutaDate]

/-- Whether a raw line is about a matter; a blank line is about none. -/
def holds (m : Matter) (raw : Text) : Bool :=
  let line := Text.strip raw
  !line.isEmpty && (m == .action && marksDistribution line
    || m.patterns.any fun p => (p.matchStart? line).isSome)

end Matter

def mattersOf (raw : Text) : List Matter := Matter.all.filter (·.holds raw)

/-- A raw line is about one matter at most. -/
def Unmixed (raw : Text) : Prop := (mattersOf raw).length ≤ 1

instance : DecidablePred Unmixed := fun _ => inferInstanceAs (Decidable (_ ≤ _))

theorem mem_mattersOf {raw : Text} {m : Matter} : m ∈ mattersOf raw ↔ m.holds raw = true := by
  rw [mattersOf, List.mem_filter, and_iff_right m.mem_all]

theorem Unmixed.eq {raw : Text} (h : Unmixed raw) {m n : Matter} (hm : m.holds raw = true)
    (hn : n.holds raw = true) : m = n := by
  rw [← mem_mattersOf] at hm hn
  unfold Unmixed at h
  generalize mattersOf raw = ms at h hm hn
  match ms, h with
  | [k], _ => rw [List.mem_singleton.mp hm, List.mem_singleton.mp hn]

/-- The date that a pattern finds in a raw line, as it is written; a blank line has none. -/
def dateText? (p : Pattern) (raw : Text) : Option Text :=
  let line := Text.strip raw
  if line.isEmpty then none
  else (p.matchStart? line).map fun found => (p.groupText? found "date").getD []

/-- The date that a pattern finds in a raw line. -/
def dateIn? (p : Pattern) (raw : Text) : Option Date := (dateText? p raw).bind dateLayout.read?

def DatesExist (raw : Text) : Prop :=
  ∀ m ∈ Matter.dated, ∀ p ∈ m.patterns, ∀ date ∈ dateText? p raw,
    (dateLayout.read? date).isSome = true

instance : DecidablePred DatesExist := fun _ => inferInstanceAs (Decidable (∀ m ∈ _, ∀ p ∈ _, _))

/-! ## What a line says -/

/-- Each form is a pattern of its matter; a form with a date takes it from the group for dates. -/
theorem forms_matter : ∀ form ∈ lineForms, ∀ group : String → Text,
    form.1 ∈ (form.2 group).matter.patterns
      ∧ ((form.2 group).matter ∈ Matter.dated → (form.2 group).date? = some (group "date")) := by
  simp [lineForms, Line.matter, Line.date?, Matter.patterns, Matter.dated]

/-- Every pattern of a matter is tried. -/
theorem exists_form (m : Matter) : ∀ p ∈ m.patterns, ∃ form ∈ lineForms, form.1 = p := by
  cases m <;> simp [Matter.patterns, lineForms]

theorem Line.matter_mem_dated {l : Line} :
    l.matter ∈ Matter.dated ↔ ∃ date, l.date? = some date := by
  cases l <;> simp [Line.date?, Line.matter, Matter.dated]

/-- What a raw line says, if anything. -/
def said (isDistribution : Bool) (raw : Text) : Option Line :=
  if (Text.strip raw).isEmpty then none else Line.ofText? isDistribution (Text.strip raw)

section Said

variable {raw : Text} {isDistribution : Bool} {l : Line} {m : Matter}

/-- A line that is read is about its matter, and a date comes from a pattern of the matter. -/
theorem holds_of_said (h : said isDistribution raw = some l) :
    l.matter.holds raw = true
      ∧ ∀ date ∈ l.date?, ∃ p ∈ l.matter.patterns, dateText? p raw = some date := by
  unfold said Line.ofText? at h
  split_ifs at h with hblank hmark
  · cases h
    rw [Bool.and_eq_true] at hmark
    refine ⟨?_, fun date hdate => absurd hdate (Option.not_mem_none date)⟩
    rw [Matter.holds, Bool.eq_false_iff.mpr hblank, hmark.2]
    rfl
  · obtain ⟨⟨p, ofGroups⟩, hform, hread⟩ := List.exists_of_findSome?_eq_some h
    obtain ⟨found, hfound, rfl⟩ := Option.map_eq_some_iff.mp hread
    obtain ⟨hp, hdate⟩ := forms_matter _ hform fun name => (p.groupText? found name).getD []
    refine ⟨?_, fun date hmem => ⟨p, hp, ?_⟩⟩
    · have hany : (ofGroups fun name => (p.groupText? found name).getD []).matter.patterns.any
          (fun p => (p.matchStart? (Text.strip raw)).isSome) = true :=
        List.any_eq_true.mpr ⟨p, hp, by rw [hfound]; rfl⟩
      rw [Matter.holds, Bool.eq_false_iff.mpr hblank, hany, Bool.or_true]
      rfl
    · rw [Option.mem_def] at hmem
      have hdated := Line.matter_mem_dated.mpr ⟨date, hmem⟩
      rw [dateText?, if_neg hblank, hfound, Option.map_some, ← hdate hdated, hmem]

/-- A line about anything but the action is always read. So whether a line counts is known from its
patterns, without the facts that have been gathered. -/
theorem exists_said (hm : m ≠ .action) (h : m.holds raw = true) (isDistribution : Bool) :
    ∃ l, said isDistribution raw = some l := by
  simp only [Matter.holds, Bool.and_eq_true, Bool.not_eq_true', Bool.or_eq_true, beq_iff_eq, hm,
    false_and, false_or, List.any_eq_true] at h
  obtain ⟨hblank, p, hp, hfound⟩ := h
  obtain ⟨form, hform, rfl⟩ := exists_form m p hp
  rw [said, if_neg (Bool.eq_false_iff.mp hblank), Line.ofText?]
  split
  · exact ⟨.distribution, rfl⟩
  · refine Option.isSome_iff_exists.mp (List.findSome?_isSome_iff.mpr ⟨form, hform, ?_⟩)
    rwa [Option.isSome_map]

/-- The mark of a distribution counts only in a line about the action. -/
theorem said_of_not_action (h : Matter.action.holds raw = false) (isDistribution : Bool) :
    said isDistribution raw = said false raw := by
  rw [said, said]
  split
  · rfl
  next hblank =>
    have hmark : marksDistribution (Text.strip raw) = false := by
      simp only [Matter.holds, Bool.eq_false_iff.mpr hblank, Bool.not_false, Bool.true_and,
        beq_self_eq_true, Bool.or_eq_false_iff] at h
      exact h.1
    simp only [Line.ofText?, hmark, Bool.and_false]

/-- A raw line about nothing says nothing. -/
theorem said_eq_none (h : ∀ m, Matter.holds m raw = false) (isDistribution : Bool) :
    said isDistribution raw = none := by
  refine Option.eq_none_iff_forall_ne_some.mpr fun l hl => ?_
  exact Bool.false_ne_true ((h l.matter).symm.trans (holds_of_said hl).1)

theorem dateExists_of_said (hdates : DatesExist raw) (h : said isDistribution raw = some l) :
    l.DateExists := by
  intro date hdate
  obtain ⟨p, hp, hread⟩ := (holds_of_said h).2 date hdate
  exact Option.isSome_iff_exists.mp
    (hdates l.matter (Line.matter_mem_dated.mpr ⟨date, hdate⟩) p hp date hread)

end Said

/-! ## What facts are changed -/

namespace Facts

section Dates

variable {date : Text} {d : Date}

theorem add_payday (f : Facts) (h : dateLayout.read? date = some d) :
    f.add (.payday date) = some { f with bookingDate := f.bookingDate.or (some d) } := by
  obtain ⟨action, orderNumber, isin, securityName, iban, quantity, amount, currency, bookingDate,
    valutaDate, taxes, taxCurrency, commission⟩ := f
  cases bookingDate with
  | none => rw [add, h]; rfl
  | some _ => rfl

theorem add_documentDate (f : Facts) (h : dateLayout.read? date = some d) :
    f.add (.documentDate date) = some { f with bookingDate := some d } := by
  rw [add, h, Option.map_some]

theorem add_valutaDate (f : Facts) (h : dateLayout.read? date = some d) :
    f.add (.valutaDate date) = some { f with valutaDate := some d } := by
  rw [add, h, Option.map_some]

end Dates

/-- Only a line about the action changes it. -/
theorem add_action {f g : Facts} {l : Line} (h : f.add l = some g) (hne : l.matter ≠ .action) :
    g.action = f.action := by
  cases l with
  | distribution => exact absurd rfl hne
  | sale => exact absurd rfl hne
  | purchase => exact absurd rfl hne
  | payday date =>
      rw [add] at h
      cases hbooking : f.bookingDate with
      | some _ => rw [hbooking] at h; cases h; rfl
      | none => rw [hbooking] at h; obtain ⟨d, -, rfl⟩ := Option.map_eq_some_iff.mp h; rfl
  | documentDate date => obtain ⟨d, -, rfl⟩ := Option.map_eq_some_iff.mp h; rfl
  | valutaDate date => obtain ⟨d, -, rfl⟩ := Option.map_eq_some_iff.mp h; rfl
  | _ => cases h; rfl

/-- A line without a date can change places with every line about another matter, as each of them
changes facts of its own and only a date can make a line fail. -/
theorem add_comm_of_undated (f : Facts) {l l' : Line} (hl : l.date? = none) (hl' : l'.DateExists)
    (hne : l.matter ≠ l'.matter) : (f.add l).bind (·.add l') = (f.add l').bind (·.add l) := by
  cases l' with
  | payday date =>
      obtain ⟨d, hd⟩ := hl' date rfl
      simp only [add_payday _ hd]
      cases l <;> cases hl <;> rfl
  | documentDate date =>
      obtain ⟨d, hd⟩ := hl' date rfl
      simp only [add_documentDate _ hd]
      cases l <;> cases hl <;> rfl
  | valutaDate date =>
      obtain ⟨d, hd⟩ := hl' date rfl
      simp only [add_valutaDate _ hd]
      cases l <;> cases hl <;> rfl
  | _ => cases l <;> cases hl <;> first | exact absurd rfl hne | rfl

/-- Lines about different matters can change places. A payday and a document date are both for the
booking date, and the document date wins in either order. -/
theorem add_comm (f : Facts) {l l' : Line} (hl : l.DateExists) (hl' : l'.DateExists)
    (hne : l.matter ≠ l'.matter) : (f.add l).bind (·.add l') = (f.add l').bind (·.add l) := by
  rcases hdate : l.date? with _ | date
  · exact add_comm_of_undated f hdate hl' hne
  rcases hdate' : l'.date? with _ | date'
  · exact (add_comm_of_undated f hdate' hl hne.symm).symm
  obtain ⟨d, hd⟩ := hl date hdate
  obtain ⟨d', hd'⟩ := hl' date' hdate'
  cases l <;> cases hdate <;> cases l' <;> cases hdate' <;>
    first
      | exact absurd rfl hne
      | simp only [add_payday _ hd, add_payday _ hd', add_documentDate _ hd, add_documentDate _ hd',
          add_valutaDate _ hd, add_valutaDate _ hd', Option.bind_some, Option.some_or]

/-! ## Raw lines -/

/-- Takes over what a raw line says, if anything. -/
def take (f : Facts) : Option Line → Option Facts
  | some l => f.add l
  | none => some f

theorem addText_eq (f : Facts) (raw : Text) :
    f.addText raw = f.take (said (f.action == some .dividend) raw) := by
  unfold addText said
  dsimp only
  split_ifs <;> rfl

theorem addText_of_idle (f : Facts) {raw : Text} (h : ∀ m, Matter.holds m raw = false) :
    f.addText raw = some f := by
  rw [addText_eq, said_eq_none h]
  rfl

/-- Two raw lines are read as the facts before them ask, if only one is about the action: the other
one neither changes nor looks at what the mark of a distribution depends on. -/
theorem addText_addText {a b : Text}
    (h : Matter.action.holds a = false ∨ Matter.action.holds b = false) (f : Facts) :
    (f.addText a).bind (·.addText b)
      = (f.take (said (f.action == some .dividend) a)).bind
          (·.take (said (f.action == some .dividend) b)) := by
  rw [addText_eq]
  refine Option.bind_congr fun g hg => ?_
  rw [addText_eq]
  rcases h with ha | hb
  · suffices g.action = f.action by rw [this]
    cases hsaid : said (f.action == some .dividend) a with
    | none => rw [hsaid] at hg; cases hg; rfl
    | some l =>
        rw [hsaid] at hg
        refine add_action hg fun haction => ?_
        exact Bool.false_ne_true (ha.symm.trans (haction ▸ (holds_of_said hsaid).1))
  · rw [said_of_not_action hb, said_of_not_action hb (f.action == _)]

/-- Raw lines about different matters can change places. -/
theorem addText_comm {a b : Text} {m n : Matter} (ha : Unmixed a) (hb : Unmixed b)
    (hda : DatesExist a) (hdb : DatesExist b) (hm : m.holds a = true) (hn : n.holds b = true)
    (hne : m ≠ n) (f : Facts) :
    (f.addText a).bind (·.addText b) = (f.addText b).bind (·.addText a) := by
  have hone : Matter.action.holds a = false ∨ Matter.action.holds b = false := by
    by_contra hboth
    simp only [not_or, Bool.not_eq_false] at hboth
    exact hne ((ha.eq hm hboth.1).trans (hb.eq hn hboth.2).symm)
  rw [addText_addText hone, addText_addText hone.symm]
  cases hsa : said (f.action == some .dividend) a with
  | none => exact (Option.bind_fun_some _).symm
  | some l =>
      cases hsb : said (f.action == some .dividend) b with
      | none => exact Option.bind_fun_some _
      | some l' =>
          refine add_comm f (dateExists_of_said hda hsa) (dateExists_of_said hdb hsb) fun heq => ?_
          exact hne ((ha.eq hm (holds_of_said hsa).1).trans
            (heq.trans (hb.eq hn (holds_of_said hsb).1).symm))

end Facts

/-! ## The booking date -/

/-- The date that a line gives for a matter, as it is written. -/
def Line.dateOf? (m : Matter) (l : Line) : Option Text := if l.matter = m then l.date? else none

/-- A pattern of a date finds just the date that the line is read as giving. -/
theorem dateOf?_said {raw : Text} {m : Matter} {p : Pattern} (hraw : Unmixed raw)
    (hdated : m ∈ Matter.dated) (hp : m.patterns = [p]) (isDistribution : Bool) :
    (said isDistribution raw).bind (Line.dateOf? m) = dateText? p raw := by
  cases hholds : m.holds raw with
  | true =>
      have haction : m ≠ .action := fun h => absurd (h ▸ hdated) (by decide)
      obtain ⟨l, hl⟩ := exists_said haction hholds isDistribution
      have hmatter : l.matter = m := hraw.eq (holds_of_said hl).1 hholds
      obtain ⟨date, hdate⟩ := Line.matter_mem_dated.mp (hmatter ▸ hdated)
      obtain ⟨q, hq, hread⟩ := (holds_of_said hl).2 date hdate
      rw [hmatter, hp, List.mem_singleton] at hq
      rw [hl, Option.bind_some, Line.dateOf?, if_pos hmatter, hdate, ← hq, hread]
  | false =>
      have htext : dateText? p raw = none := by
        simp only [Matter.holds, hp, List.any_cons, List.any_nil, Bool.or_false,
          Bool.and_eq_false_iff, Bool.not_eq_false', Bool.or_eq_false_iff,
          Option.isSome_eq_false_iff, Option.isNone_iff_eq_none] at hholds
        unfold dateText?
        dsimp only
        split_ifs with hblank
        · rfl
        · rw [(hholds.resolve_left hblank).2, Option.map_none]
      rw [htext, Option.bind_eq_none_iff]
      intro l hl
      refine if_neg fun hmatter => ?_
      exact Bool.false_ne_true (hholds.symm.trans (hmatter ▸ (holds_of_said hl).1))

namespace Facts

/-- The booking date after a line: a document date counts, else a date before, else a payday. -/
theorem bookingDate_take {f g : Facts} {x : Option Line} (h : f.take x = some g) :
    g.bookingDate = ((x.bind (Line.dateOf? .documentDate)).bind dateLayout.read?).or
      (f.bookingDate.or ((x.bind (Line.dateOf? .payday)).bind dateLayout.read?)) := by
  cases x with
  | none => cases h; exact (Option.or_none).symm
  | some l =>
      cases l with
      | payday date =>
          rw [take, add] at h
          change g.bookingDate = f.bookingDate.or (dateLayout.read? date)
          cases hbooking : f.bookingDate with
          | some _ => rw [hbooking] at h; cases h; rw [hbooking]; rfl
          | none =>
              rw [hbooking] at h
              obtain ⟨d, hd, rfl⟩ := Option.map_eq_some_iff.mp h
              rw [hd]
              rfl
      | documentDate date =>
          obtain ⟨d, hd, rfl⟩ := Option.map_eq_some_iff.mp h
          change some d = (dateLayout.read? date).or (f.bookingDate.or none)
          rw [hd]
          rfl
      | valutaDate date =>
          obtain ⟨d, -, rfl⟩ := Option.map_eq_some_iff.mp h
          exact (Option.or_none).symm
      | _ => cases h; exact (Option.or_none).symm

theorem bookingDate_addText {f g : Facts} {raw : Text} (hraw : Unmixed raw)
    (h : f.addText raw = some g) :
    g.bookingDate
      = (dateIn? datePattern raw).or (f.bookingDate.or (dateIn? paydayPattern raw)) := by
  rw [addText_eq] at h
  rw [bookingDate_take h, dateOf?_said hraw (by decide) rfl, dateOf?_said hraw (by decide) rfl]
  rfl

/-- The booking date of a document: the last document date, else the first payday. -/
theorem bookingDate_foldlM {lines : List Text} (hlines : ∀ raw ∈ lines, Unmixed raw) {f g : Facts}
    (h : lines.foldlM addText f = some g) :
    g.bookingDate = (lines.reverse.findSome? (dateIn? datePattern)).or
      (f.bookingDate.or (lines.findSome? (dateIn? paydayPattern))) := by
  induction lines generalizing f with
  | nil => cases h; exact (Option.or_none).symm
  | cons raw lines ih =>
      obtain ⟨hraw, hlines⟩ := List.forall_mem_cons.mp hlines
      obtain ⟨f', hf', hg⟩ := Option.bind_eq_some_iff.mp h
      rw [ih hlines hg, bookingDate_addText hraw hf', List.reverse_cons, List.findSome?_append,
        List.findSome?_singleton, List.findSome?_cons]
      cases dateIn? paydayPattern raw <;>
        simp only [Option.or_assoc, Option.or_none, Option.some_or]

/-- Documents with the same lines about each matter, in the same order, say the same. Lines about
nothing may be added or left out. -/
theorem ofLines_rearranged {lines lines' : List Text} (hlines : ∀ raw ∈ lines, Unmixed raw)
    (hdates : ∀ raw ∈ lines, DatesExist raw) (h : Rearranged Matter.holds lines lines') :
    ofLines lines' = ofLines lines :=
  (foldlM_rearranged (fun a ha _ _ => (hlines a ha).eq) (fun _ hnone f => addText_of_idle f hnone)
    (fun a ha b hb _ _ hm hn hne f =>
      addText_comm (hlines a ha) (hlines b hb) (hdates a ha) (hdates b hb) hm hn hne f) h {}).symm

end Facts

/-- A document whose lines are about one matter each is read alike in every order that keeps the
lines about each matter in theirs, whatever blank lines and lines about nothing stand between them.
The movement is booked on the last document date, and without one on the first payday. -/
theorem read_rearranged (lines lines' : List Text) (fileName : Text)
    (hlines : ∀ raw ∈ lines, Unmixed raw) (hdates : ∀ raw ∈ lines, DatesExist raw)
    (h : Rearranged Matter.holds lines lines') :
    read lines' fileName = read lines fileName
      ∧ ∀ s, read lines fileName = some s → ∀ m ∈ s.movements,
        m.bookingDate = (lines.reverse.findSome? (dateIn? datePattern)).or
          (lines.findSome? (dateIn? paydayPattern)) := by
  refine ⟨by rw [read, read, Facts.ofLines_rearranged hlines hdates h], fun s hs m hm => ?_⟩
  obtain ⟨facts, hfacts, hread⟩ := Option.bind_eq_some_iff.mp hs
  obtain ⟨amount, -, hread⟩ := Option.bind_eq_some_iff.mp hread
  cases hread
  cases List.mem_singleton.mp hm
  exact Facts.bookingDate_foldlM hlines hfacts

def dividendLines : List Text :=
  ["Dividendengutschrift", "Zahltag 16.12.2024", "Datum: 18.12.2024",
    "Gesamtbetrag zu Ihren Gunsten EUR 12,50"].map String.toList

/-- The same dividend with its lines in another order, a blank one and one about nothing. -/
def dividendLinesMoved : List Text :=
  ["Datum: 18.12.2024", "", "Gesamtbetrag zu Ihren Gunsten EUR 12,50", "Seite 1",
    "Zahltag 16.12.2024", "Dividendengutschrift"].map String.toList

theorem dividendLines_checks :
    (∀ raw ∈ dividendLines, Unmixed raw) ∧ (∀ raw ∈ dividendLines, DatesExist raw)
      ∧ (∀ m ∈ Matter.all, dividendLines.filter m.holds = dividendLinesMoved.filter m.holds)
      ∧ dividendLines.reverse.findSome? (dateIn? datePattern) = some ⟨2024, 12, 18, by decide⟩
      ∧ (read dividendLines []).isSome = true := by
  decide +kernel

theorem read_rearranged_dividend :
    (∀ raw ∈ dividendLines, Unmixed raw) ∧ (∀ raw ∈ dividendLines, DatesExist raw)
      ∧ Rearranged Matter.holds dividendLines dividendLinesMoved
      ∧ read dividendLinesMoved [] = read dividendLines []
      ∧ ∃ s, read dividendLines [] = some s
        ∧ ∀ m ∈ s.movements, m.bookingDate = some ⟨2024, 12, 18, by decide⟩ := by
  obtain ⟨hlines, hdates, hmoved, hdate, hread⟩ := dividendLines_checks
  have hmoved : Rearranged Matter.holds dividendLines dividendLinesMoved :=
    fun m => hmoved m m.mem_all
  obtain ⟨hsame, hbooked⟩ :=
    read_rearranged dividendLines dividendLinesMoved [] hlines hdates hmoved
  obtain ⟨s, hs⟩ := Option.isSome_iff_exists.mp hread
  refine ⟨hlines, hdates, hmoved, hsame, s, hs, fun m hm => ?_⟩
  rw [hbooked s hs m hm, hdate, Option.some_or]

end BankStatement.Settlement
