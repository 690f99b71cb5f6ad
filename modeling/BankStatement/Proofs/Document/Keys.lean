import BankStatement.Document.Value

/-!
# Values as keys

Two values that are found to be the same are equal (`eq_of_isSame`), so comparing keys is comparing
the forms in which whole numbers and truth values have become one (`sameKey_iff`). Being the same
key is therefore an equivalence, also for what is not a number, and of two values with the same key
it does not matter which one another value is compared with (`sameKey_congr`).

Values of a document are the keys of a catalogue, where the source of a file is looked up. There
one, the number 1.0 and the truth value true are one key. `isSame` goes through a value and its
parts; it is shown to be equality here, so nothing but the form of numbers has to be thought of.

Values nest, so the lemmas come in threes, for a value, for the elements of a list and for the
members of an object.
-/

namespace BankStatement

namespace Value

/-! ## Values that are the same -/

mutual

theorem isSame_self (v : Value) : isSame v v = true := by
  cases v with
  | null => rfl
  | bool b => exact beq_self_eq_true b
  | int n => exact beq_self_eq_true n
  | real x => exact beq_self_eq_true x
  | text t => exact beq_self_eq_true t
  | list items => exact areSame_self items
  | object members => exact haveSame_self members

theorem areSame_self (items : List Value) : areSame items items = true := by
  cases items with
  | nil => rfl
  | cons v items => rw [areSame, isSame_self v, areSame_self items]; rfl

theorem haveSame_self (members : List (Text × Value)) : haveSame members members = true := by
  cases members with
  | nil => rfl
  | cons member members =>
      obtain ⟨name, v⟩ := member
      rw [haveSame, beq_self_eq_true, isSame_self v, haveSame_self members]
      rfl

end

mutual

theorem eq_of_isSame {v w : Value} (h : isSame v w = true) : v = w := by
  cases v with
  | null =>
      cases w with
      | null => rfl
      | _ => cases h
  | bool a =>
      cases w with
      | bool b => exact congrArg Value.bool (eq_of_beq h)
      | _ => cases h
  | int m =>
      cases w with
      | int n => exact congrArg Value.int (eq_of_beq h)
      | _ => cases h
  | real x =>
      cases w with
      | real y => exact congrArg Value.real (eq_of_beq h)
      | _ => cases h
  | text s =>
      cases w with
      | text t => exact congrArg Value.text (eq_of_beq h)
      | _ => cases h
  | list items =>
      cases w with
      | list others => exact congrArg Value.list (eq_of_areSame h)
      | _ => cases h
  | object members =>
      cases w with
      | object others => exact congrArg Value.object (eq_of_haveSame h)
      | _ => cases h

theorem eq_of_areSame {items others : List Value} (h : areSame items others = true) :
    items = others := by
  cases items with
  | nil =>
      cases others with
      | nil => rfl
      | cons => cases h
  | cons v items =>
      cases others with
      | nil => cases h
      | cons w others =>
          rw [areSame, Bool.and_eq_true] at h
          rw [eq_of_isSame h.1, eq_of_areSame h.2]

theorem eq_of_haveSame {members others : List (Text × Value)}
    (h : haveSame members others = true) : members = others := by
  cases members with
  | nil =>
      cases others with
      | nil => rfl
      | cons => cases h
  | cons member members =>
      cases others with
      | nil => cases h
      | cons other others =>
          obtain ⟨name, v⟩ := member
          obtain ⟨name', w⟩ := other
          rw [haveSame, Bool.and_eq_true, Bool.and_eq_true] at h
          rw [eq_of_beq h.1.1, eq_of_isSame h.1.2, eq_of_haveSame h.2]

end

instance : LawfulBEq Value where
  eq_of_beq := eq_of_isSame
  rfl := isSame_self _

/-! ## Values that are the same key -/

variable {v w : Value}

theorem sameKey_iff : v.sameKey w = true ↔ sameKey.numeric v = sameKey.numeric w := beq_iff_eq

@[simp] theorem sameKey_self (v : Value) : v.sameKey v = true := sameKey_iff.mpr rfl

theorem sameKey_comm (v w : Value) : v.sameKey w = w.sameKey v := by
  rw [Bool.eq_iff_iff, sameKey_iff, sameKey_iff]
  exact eq_comm

theorem sameKey_congr (h : v.sameKey w = true) (u : Value) : u.sameKey v = u.sameKey w := by
  rw [sameKey, sameKey_iff.mp h, sameKey]

end Value

end BankStatement
