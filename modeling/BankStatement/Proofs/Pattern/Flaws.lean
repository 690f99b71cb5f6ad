import BankStatement.Pattern.Reader

/-!
# The flaws of patterns

A pattern that cannot be read has no meaning, or counts further than patterns can
(`failsBy_ofText`); nothing else can be wrong with it.

`FailsBy` is what this and other facts about the faults of readings are stated with: a reading that
fails, if it does, by a fault of some sort. It passes through the steps of a reader, so a reader of
many steps needs only a lemma for each of them and `FailsBy.bind` between them.

The two flaws are told apart because they are of different weight. A pattern without a meaning is a
flaw of its template, and a lenient catalogue passes over the file; one that counts too far ends the
reading of all files.

The readers of a pattern call each other for alternatives, rows, atoms and what stands in brackets,
and share their fuel. What they fail by is therefore shown of all four at once, by induction on the
fuel (`failsBy_readers`). When it runs out, the pattern counts as one without a meaning. Three times
the length of its text is always enough, but this is not needed here.
-/

namespace BankStatement

/-! ## Readings that fail by some faults only -/

/-- A reading that fails, if it does, by a fault of some sort. -/
def FailsBy {α : Type} (P : Fault → Prop) (r : Except Fault α) : Prop :=
  ∀ fault, r = .error fault → P fault

section

variable {α β : Type} {P : Fault → Prop} {r : Except Fault α}

theorem failsBy_ok (a : α) : FailsBy P (.ok a : Except Fault α) := by
  intro fault h
  cases h

theorem failsBy_error {fault : Fault} (h : P fault) :
    FailsBy P (.error fault : Except Fault α) := by
  rintro _ ⟨⟩
  exact h

/-- Of two steps, the second one only matters if the first one succeeds. -/
theorem FailsBy.bind {f : α → Except Fault β} (hr : FailsBy P r)
    (hf : ∀ a, r = .ok a → FailsBy P (f a)) : FailsBy P (r >>= f) := by
  cases hr' : r with
  | error fault => exact failsBy_error (hr fault hr')
  | ok a => exact hf a hr'

theorem failsBy_mapM {f : α → Except Fault β} {items : List α}
    (hf : ∀ a ∈ items, FailsBy P (f a)) : FailsBy P (items.mapM f) := by
  induction items with
  | nil => exact failsBy_ok []
  | cons a items ih =>
      rw [List.mapM_cons]
      refine (hf a (List.mem_cons_self ..)).bind fun b _ => ?_
      refine (ih fun a' ha' => hf a' (List.mem_cons_of_mem _ ha')).bind fun bs _ => ?_
      exact failsBy_ok _

end

/-! ## Patterns -/

namespace Pattern

/-- What can be wrong with a pattern. -/
inductive Flaw : Fault → Prop where
  /-- It has no meaning. -/
  | meaning : Flaw .invalidPattern
  /-- It has a number of rounds with more digits than are ever converted. -/
  | digits : Flaw .notANumber
  /-- It has a number of rounds that is too great. -/
  | rounds : Flaw .unbounded

theorem failsBy_orInvalid {α : Type} (a? : Option α) : FailsBy Flaw (orInvalid a?) := by
  cases a? with
  | none => exact failsBy_error .meaning
  | some a => exact failsBy_ok a

theorem failsBy_readRounds (digits : Text) : FailsBy Flaw (readRounds digits) := by
  unfold readRounds
  split
  · exact failsBy_error .digits
  · simp only
    split
    · exact failsBy_error .rounds
    · exact failsBy_ok _

theorem failsBy_readBounds (t : Text) : FailsBy Flaw (readBounds t) := by
  unfold readBounds
  split
  case h_4 rest =>
    unfold readBraces
    simp only
    split
    · split
      · exact failsBy_ok _
      · exact (failsBy_readRounds _).bind fun n _ => failsBy_ok _
    · split
      · refine (failsBy_readRounds _).bind fun least _ => ?_
        split
        · exact failsBy_ok _
        · exact ((failsBy_readRounds _).bind fun n _ => failsBy_ok _).bind
            fun most _ => failsBy_ok _
      · exact failsBy_ok _
    · exact failsBy_ok _
  all_goals exact failsBy_ok _

theorem failsBy_readRepetition (atom : Node) (t : Text) : FailsBy Flaw (readRepetition atom t) := by
  unfold readRepetition
  refine (failsBy_readBounds t).bind fun bounds? _ => ?_
  split
  · exact failsBy_ok _
  · split
    · refine (failsBy_readBounds _).bind fun others _ => ?_
      split
      · exact failsBy_ok _
      · exact failsBy_error .meaning
    · exact failsBy_error .meaning

section

variable {fuel : Nat} (halternatives : ∀ st, FailsBy Flaw (readAlternatives fuel st))
  (hsequence : ∀ done st, FailsBy Flaw (readSequence fuel done st))
  (hatom : ∀ st, FailsBy Flaw (readAtom fuel st))
  (hbody : ∀ index st, FailsBy Flaw (readBody fuel index st))

include halternatives hsequence in
theorem failsBy_readAlternatives_succ (st : ReadState) :
    FailsBy Flaw (readAlternatives (fuel + 1) st) := by
  unfold readAlternatives
  split
  next hr => exact failsBy_error (hsequence [] st _ hr)
  next =>
    split
    · split
      next hr => exact failsBy_error (halternatives _ _ hr)
      next => exact failsBy_ok _
    · exact failsBy_ok _

include hatom hsequence in
theorem failsBy_readSequence_succ (done : List Node) (st : ReadState) :
    FailsBy Flaw (readSequence (fuel + 1) done st) := by
  unfold readSequence
  split
  · exact failsBy_ok _
  · exact failsBy_ok _
  · exact failsBy_ok _
  · split
    next hr => exact failsBy_error (hatom st _ hr)
    next =>
      split
      next hr => exact failsBy_error (failsBy_readRepetition _ _ _ hr)
      next => exact hsequence _ _

include hbody in
/-- Of the forms of an atom only a character that could begin a repetition has a flaw of another
kind than having no meaning: its bounds are read before it is refused. -/
theorem failsBy_readAtom_succ (st : ReadState) : FailsBy Flaw (readAtom (fuel + 1) st) := by
  unfold readAtom
  split
  case h_1 => exact failsBy_error .meaning
  case h_2 | h_3 | h_4 => exact failsBy_ok _
  case h_5 | h_6 | h_7 => exact failsBy_orInvalid _
  case h_8 => exact hbody _ _
  case h_9 =>
    split
    · exact failsBy_error .meaning
    split
    · exact failsBy_error .meaning
    · exact hbody _ _
  case h_10 =>
    split
    · exact failsBy_error .meaning
    split
    · exact failsBy_error .meaning
    split
    · exact failsBy_error .meaning
    · exact failsBy_ok _
  case h_11 => exact failsBy_error .meaning
  case h_12 =>
    split
    · exact failsBy_error .meaning
    · exact hbody _ _
  case h_13 =>
    split
    next hr => exact failsBy_error (failsBy_readBounds _ _ hr)
    next => exact failsBy_error .meaning
    next => exact failsBy_ok _

include halternatives in
theorem failsBy_readBody_succ (index : Option Nat) (st : ReadState) :
    FailsBy Flaw (readBody (fuel + 1) index st) := by
  unfold readBody
  split
  next hr => exact failsBy_error (halternatives st _ hr)
  next =>
    split
    · split <;> exact failsBy_ok _
    · exact failsBy_error .meaning

end

/-- All four readers of nested patterns, by the fuel that they share: one that has some left calls
the others with less. -/
theorem failsBy_readers (fuel : Nat) :
    (∀ st, FailsBy Flaw (readAlternatives fuel st))
      ∧ (∀ done st, FailsBy Flaw (readSequence fuel done st))
      ∧ (∀ st, FailsBy Flaw (readAtom fuel st))
      ∧ ∀ index st, FailsBy Flaw (readBody fuel index st) := by
  induction fuel with
  | zero =>
      refine ⟨fun _ => ?_, fun _ _ => ?_, fun _ => ?_, fun _ _ => ?_⟩ <;>
        exact failsBy_error .meaning
  | succ fuel ih =>
      -- the readers call one another with one unit of fuel less, never themselves with the same
      obtain ⟨halternatives, hsequence, hatom, hbody⟩ := ih
      exact ⟨failsBy_readAlternatives_succ halternatives hsequence,
        failsBy_readSequence_succ hsequence hatom, failsBy_readAtom_succ hbody,
        failsBy_readBody_succ halternatives⟩

theorem failsBy_ofText (t : Text) : FailsBy Flaw (ofText t) := by
  unfold ofText
  split
  next hr => exact failsBy_error ((failsBy_readers _).1 _ _ hr)
  next =>
    split
    · exact failsBy_ok _
    · exact failsBy_error .meaning

end Pattern

end BankStatement
