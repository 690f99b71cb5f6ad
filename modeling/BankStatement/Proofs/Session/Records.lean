import BankStatement.Session.Record

/-!
# The movement of a line, from what its values do

A line of a table becomes the movement that its values make, once they could all be taken: from the
fields alone where a table has no rules (`takeValues_of_no_rules`), from the one primary rule where
it has no fields (`readRecord_of_apply`). A movement with a date counts, and the date makes it a
preview or not (`finished?_of_bookingDate`).

`readRecord` tests more than these lemmas ask: ignore keywords, whether errors end the table, and
additional rules. A bank's template fixes all of that, so the lemmas take it as hypotheses that hold
by computation, and leave a proof about a bank with the one question that is its own, namely what
its fields or its pattern take from a line. The lemmas about faults are the counterpart: a value
that cannot be converted is a fault of the line where errors do not end the table, and the header
keeps what was assigned before.
-/

namespace BankStatement

variable {sec : Section} {template : Template} {today : Date} {line : Text} {header : Header}
  {withAdditional : Bool} {target : Target}

theorem Movement.finished?_of_bookingDate {m : Movement} {d : Date} (h : m.bookingDate = some d)
    (today : Date) :
    m.finished? today = some { m with isPreview := today.isBefore d } := by
  have hset : m.isSet = true := by simp [isSet, h]
  rw [finished?, if_pos hset, isOutstanding, h]

/-- A movement of a line that could be read is a finished one. -/
theorem Section.finished_of_readRecord {header' : Header} {m : Movement}
    (h : sec.readRecord template today withAdditional line header = (header', .ok (some m)))
    (hm : m.isError = false) : ∃ m₀ : Movement, m₀.finished? today = some m := by
  unfold Section.readRecord at h
  split at h
  · cases h
  · split at h
    next target _ =>
      obtain ⟨m₀, -, hfinished⟩ := Option.bind_eq_some_iff.mp (Except.ok.inj (congrArg Prod.snd h))
      exact ⟨m₀, hfinished⟩
    next =>
      split at h
      · cases h; cases hm
      · cases h

namespace Section

theorem ignores_of_no_keywords (h : sec.ignoreKeywords = []) (line : Text) :
    sec.ignores line = false := by
  rw [ignores, h]
  rfl

theorem endsAt_of_no_keywords (h : sec.endKeywords = []) (line : Text) :
    sec.endsAt line = false := by
  rw [endsAt, h]
  rfl

theorem readRecord_of_ignores (h : sec.ignores line = true) :
    sec.readRecord template today withAdditional line header = (header, .ok none) := by
  rw [readRecord, if_pos h]

theorem readRecord_of_taken (hkept : sec.ignores line = false)
    (h : sec.takeValues template withAdditional line ⟨header, some {}⟩ = (target, .ok ())) :
    sec.readRecord template today withAdditional line header
      = (target.header, .ok (target.movement.bind (·.finished? today))) := by
  rw [readRecord, hkept, if_neg Bool.false_ne_true, h]

theorem readRecord_of_fault {fault : Fault} (hkeywords : sec.ignoreKeywords = [])
    (hstop : sec.stopOnError = false)
    (h : sec.takeValues template withAdditional line ⟨header, some {}⟩ = (target, .error fault)) :
    sec.readRecord template today withAdditional line header = (target.header, .error fault) := by
  rw [readRecord, ignores_of_no_keywords hkeywords, if_neg Bool.false_ne_true, h]
  simp only [hstop, Bool.and_false, Bool.false_eq_true, if_false]

/-- Where a table has no rules, its fields take the values. -/
theorem takeValues_of_no_rules (h : sec.rules = []) :
    sec.takeValues template withAdditional line target = sec.walkFields template line target := by
  rw [takeValues, rulesOf, h]
  cases sec.walkFields template line target with
  | mk target result => cases result <;> rfl

/-- Where a table has no fields and one primary rule, the rule takes the values. -/
theorem takeValues_of_rule {r : Rule} (hfields : sec.fields = [])
    (hrules : sec.rulesOf .primary = [r])
    (hadditional : withAdditional = false ∨ sec.rulesOf .additional = []) :
    sec.takeValues template withAdditional line target
      = ((r.apply template line .always target).1,
        (r.apply template line .always target).2.map fun _ => ()) := by
  rw [takeValues, walkFields_of_no_fields hfields, hrules]
  simp only [Rule.applyAll]
  cases r.apply template line .always target with
  | mk target result =>
      cases result with
      | error fault => rfl
      | ok found =>
          rcases hadditional with rfl | hnone
          · simp only [Bool.and_false, Bool.false_eq_true, if_false]; rfl
          · simp only [hnone, Rule.applyAll]
            split <;> rfl

/-- Where the one primary rule is the only rule, it makes the movement or the fault. -/
theorem readRecord_of_only_rule {r : Rule} (hkeywords : sec.ignoreKeywords = [])
    (hstop : sec.stopOnError = false) (hfields : sec.fields = [])
    (hrules : sec.rulesOf .primary = [r]) (hadditional : sec.rulesOf .additional = []) :
    sec.readRecord template today withAdditional line header
      = ((r.apply template line .always ⟨header, some {}⟩).1.header,
        (r.apply template line .always ⟨header, some {}⟩).2.map fun _ =>
          (r.apply template line .always ⟨header, some {}⟩).1.movement.bind
            (·.finished? today)) := by
  have htaken : sec.takeValues template withAdditional line ⟨header, some {}⟩ = _ :=
    takeValues_of_rule hfields hrules (.inr hadditional)
  cases hresult : (r.apply template line .always ⟨header, some {}⟩).2 with
  | ok found =>
      rw [hresult] at htaken
      exact readRecord_of_taken (ignores_of_no_keywords hkeywords line) htaken
  | error fault =>
      rw [hresult] at htaken
      exact readRecord_of_fault hkeywords hstop htaken

/-- What the one primary rule does makes the movement. -/
theorem readRecord_of_apply {r : Rule} {found : Bool} (hkeywords : sec.ignoreKeywords = [])
    (hfields : sec.fields = []) (hrules : sec.rulesOf .primary = [r])
    (happly : r.apply template line .always ⟨header, some {}⟩ = (target, .ok found)) :
    sec.readRecord template today false line header
      = (target.header, .ok (target.movement.bind (·.finished? today))) := by
  refine readRecord_of_taken (ignores_of_no_keywords hkeywords line) ?_
  rw [takeValues_of_rule hfields hrules (.inl rfl), happly]
  rfl

end Section

end BankStatement
