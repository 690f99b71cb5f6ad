import BankStatement.Calendar.Date

/-!
# The order of days

Days are compared by year, month and day, which is comparing one number (`isBefore_iff`): months and
days fill fixed numbers of places, so the number names the day. The earliest of some days is one of
them that no other comes before (`earliest?_eq_some_iff`), and since there is only one such day it
does not depend on the order in which the days are given (`earliest?_congr`).

The number is not the number of days since some first day; gaps do not matter to the order, and
lengths of months do not have to be added up for it. The duplicate window of a draft starts at the
earliest day of its entries, and `earliest?_congr` is what makes it the same for a draft whose
entries stand in another order, or of which some have been classified already.
-/

namespace BankStatement

namespace Date

theorem bounds (d : Date) :
    1 ≤ d.day ∧ d.day ≤ 31 ∧ 1 ≤ d.month ∧ d.month ≤ 12 ∧ 1 ≤ d.year ∧ d.year ≤ 9999 := by
  obtain ⟨hyear, hyear', hmonth, hmonth', hday, hday'⟩ := d.isDate
  have hlong : daysInMonth d.year d.month ≤ 31 := by
    unfold daysInMonth
    split
    · split <;> omega
    · split <;> omega
  omega

/-- A number that grows from day to day. -/
def serial (d : Date) : Nat := (d.year * 13 + d.month) * 32 + d.day

theorem eq_of_serial_eq {a b : Date} (h : a.serial = b.serial) : a = b := by
  obtain ⟨-, hda, -, hma, -, -⟩ := a.bounds
  obtain ⟨-, hdb, -, hmb, -, -⟩ := b.bounds
  unfold serial at h
  have hday : a.day = b.day := by omega
  have hmonth : a.month = b.month := by omega
  have hyear : a.year = b.year := by omega
  cases a
  cases b
  simp only at hday hmonth hyear
  subst hday hmonth hyear
  rfl

theorem isBefore_iff {a b : Date} : a.isBefore b = true ↔ a.serial < b.serial := by
  obtain ⟨-, hda, -, hma, -, -⟩ := a.bounds
  obtain ⟨-, hdb, -, hmb, -, -⟩ := b.bounds
  simp only [isBefore, serial, Bool.or_eq_true, Bool.and_eq_true, decide_eq_true_eq, beq_iff_eq]
  omega

theorem isBefore_eq_false_iff {a b : Date} : a.isBefore b = false ↔ b.serial ≤ a.serial := by
  rw [← Bool.not_eq_true, isBefore_iff, Nat.not_lt]

theorem earlier_serial (a b : Date) :
    (earlier a b = a ∨ earlier a b = b) ∧ (earlier a b).serial ≤ a.serial
      ∧ (earlier a b).serial ≤ b.serial := by
  unfold earlier
  split
  next h =>
    have hlt := isBefore_iff.mp h
    exact ⟨.inr rfl, Nat.le_of_lt hlt, Nat.le_refl _⟩
  next h =>
    have hle := isBefore_eq_false_iff.mp (Bool.not_eq_true _ ▸ h)
    exact ⟨.inl rfl, Nat.le_refl _, hle⟩

theorem foldl_earlier (days : List Date) (d : Date) :
    days.foldl earlier d ∈ d :: days
      ∧ ∀ x ∈ d :: days, (days.foldl earlier d).serial ≤ x.serial := by
  induction days generalizing d with
  | nil => simp
  | cons b days ih =>
      obtain ⟨hmem, hle⟩ := ih (earlier d b)
      obtain ⟨heither, hd, hb⟩ := earlier_serial d b
      have hfirst := hle _ (List.mem_cons_self ..)
      rw [List.foldl_cons]
      constructor
      · rcases List.mem_cons.mp hmem with h | h
        · rw [h]
          rcases heither with he | he <;> simp [he]
        · exact List.mem_cons_of_mem _ (List.mem_cons_of_mem _ h)
      · intro x hx
        rcases List.mem_cons.mp hx with rfl | hx
        · exact Nat.le_trans hfirst hd
        · rcases List.mem_cons.mp hx with rfl | hx
          · exact Nat.le_trans hfirst hb
          · exact hle x (List.mem_cons_of_mem _ hx)

/-- The earliest day is the one that none of the days comes before. -/
theorem earliest?_eq_some_iff {days : List Date} {m : Date} :
    earliest? days = some m ↔ m ∈ days ∧ ∀ d ∈ days, d.isBefore m = false := by
  cases days with
  | nil => simp [earliest?]
  | cons d days =>
      obtain ⟨hmem, hle⟩ := foldl_earlier days d
      simp only [earliest?, Option.some.injEq, isBefore_eq_false_iff]
      constructor
      · rintro rfl
        exact ⟨hmem, hle⟩
      · rintro ⟨hm, hall⟩
        exact eq_of_serial_eq (Nat.le_antisymm (hle m hm) (hall _ hmem))

theorem earliest?_eq_none_iff {days : List Date} : earliest? days = none ↔ days = [] := by
  cases days <;> simp [earliest?]

/-- The earliest day depends only on which days there are. -/
theorem earliest?_congr {days days' : List Date} (h : ∀ d, d ∈ days ↔ d ∈ days') :
    earliest? days = earliest? days' := by
  cases hfirst : earliest? days with
  | none =>
      rw [earliest?_eq_none_iff] at hfirst
      subst hfirst
      exact (earliest?_eq_none_iff.mpr (List.eq_nil_iff_forall_not_mem.mpr fun d hd =>
        List.not_mem_nil ((h d).mpr hd))).symm
  | some m =>
      obtain ⟨hmem, hall⟩ := earliest?_eq_some_iff.mp hfirst
      exact (earliest?_eq_some_iff.mpr ⟨(h m).mp hmem, fun d hd => hall d ((h d).mpr hd)⟩).symm

end Date

end BankStatement
