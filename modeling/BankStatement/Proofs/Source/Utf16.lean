import BankStatement.Proofs.Source.Utf8
import BankStatement.Source.Utf16

/-!
# Reading back what was written in UTF-16

Two bytes give back the unit they were written from, whatever their order (`units?_unitBytes`), and
one or two units give back their character: the units of a pair are told apart from all others by
their range (`text?_charUnits`). So reading the bytes behind the mark gives the text
(`decode?_written`).

Reading has two stages, from bytes to units and from units to characters, and each of them is undone
on its own. In the first the order of the bytes is the only choice; in the second it does not occur
any more. A character of the first plane is one unit, which is never in the range of pairs because
surrogates are no characters; any other is a pair of units in that range. An odd byte at the end, or
a unit of a pair on its own, cannot be read, but neither is ever written.

The units are numbers here, not words of sixteen bits. That they are small enough for two bytes is a
hypothesis where it is needed, and holds of what characters are written as (`lt_of_mem_charUnits`).
-/

namespace BankStatement.Utf16

variable {order : ByteOrder} {u : Nat} {us rest : List Nat} {c : Char} {t : Text}

/-! ## Units and bytes -/

theorem unitOf_bytes (order : ByteOrder) (h : u < 0x10000) :
    ∃ a b, unitBytes order u = [a, b] ∧ unitOf order a b = u := by
  have hlow : (Utf8.byte (u % 0x100)).toNat = u % 0x100 := Utf8.toNat_byte (by omega)
  have hhigh : (Utf8.byte (u / 0x100)).toNat = u / 0x100 := Utf8.toNat_byte (by omega)
  cases order with
  | littleEndian =>
      refine ⟨_, _, rfl, ?_⟩
      show (Utf8.byte (u % 0x100)).toNat + 0x100 * (Utf8.byte (u / 0x100)).toNat = u
      rw [hlow, hhigh, Nat.mod_add_div]
  | bigEndian =>
      refine ⟨_, _, rfl, ?_⟩
      show 0x100 * (Utf8.byte (u / 0x100)).toNat + (Utf8.byte (u % 0x100)).toNat = u
      rw [hlow, hhigh, Nat.div_add_mod]

theorem units?_unitBytes (h : u < 0x10000) (bytes : Bytes) :
    units? order (unitBytes order u ++ bytes) = (units? order bytes).map (u :: ·) := by
  obtain ⟨a, b, hbytes, hunit⟩ := unitOf_bytes order h
  rw [hbytes, List.cons_append, List.cons_append, List.nil_append, units?, hunit]

theorem units?_flatMap (h : ∀ u ∈ us, u < 0x10000) :
    units? order (us.flatMap (unitBytes order)) = some us := by
  induction us with
  | nil => rfl
  | cons u us ih =>
      obtain ⟨hu, hus⟩ := List.forall_mem_cons.mp h
      rw [List.flatMap_cons, units?_unitBytes hu, ih hus, Option.map_some]

/-! ## Characters and units -/

theorem lt_of_mem_charUnits (h : u ∈ charUnits c) : u < 0x10000 := by
  have hvalid := Utf8.toNat_valid c
  unfold charUnits at h
  generalize c.toNat = n at hvalid h
  simp only at h
  split at h
  · next hn =>
    rw [List.mem_singleton.mp h]
    exact hn
  · simp only [List.mem_cons, List.not_mem_nil, or_false] at h
    rcases h with hu | hu <;> omega

theorem isHigh_iff : isHigh u = true ↔ 0xD800 ≤ u ∧ u < 0xDC00 := by
  simp only [isHigh, Bool.and_eq_true, decide_eq_true_eq]

theorem isLow_iff : isLow u = true ↔ 0xDC00 ≤ u ∧ u < 0xE000 := by
  simp only [isLow, Bool.and_eq_true, decide_eq_true_eq]

theorem text?_single (h : u < 0xD800 ∨ 0xDFFF < u) :
    text? (u :: rest) = (text? rest).map (Char.ofNat u :: ·) := by
  have hhigh : ¬ isHigh u = true := by
    rw [isHigh_iff]
    omega
  have hlow : ¬ isLow u = true := by
    rw [isLow_iff]
    omega
  rw [text?.eq_def]
  simp only [hhigh, hlow, if_false, Bool.false_eq_true]

theorem text?_pair {v : Nat} (hu : isHigh u = true) (hv : isLow v = true) :
    text? (u :: v :: rest)
      = (text? rest).map (Char.ofNat (0x10000 + (u - 0xD800) * 0x400 + (v - 0xDC00)) :: ·) := by
  rw [text?, if_pos hu]
  exact if_pos hv

theorem text?_charUnits (c : Char) (rest : List Nat) :
    text? (charUnits c ++ rest) = (text? rest).map (c :: ·) := by
  have hvalid := Utf8.toNat_valid c
  have hc : Char.ofNat c.toNat = c := Char.ofNat_toNat c
  unfold charUnits
  generalize c.toNat = n at hvalid hc
  simp only
  split
  · next hn =>
    have hsingle : n < 0xD800 ∨ 0xDFFF < n := by omega
    rw [List.singleton_append, text?_single hsingle, hc]
  · next hn =>
    have hhigh : isHigh (0xD800 + (n - 0x10000) / 0x400) = true := by
      rw [isHigh_iff]
      omega
    have hlow : isLow (0xDC00 + (n - 0x10000) % 0x400) = true := by
      rw [isLow_iff]
      omega
    have hn : 0x10000 + (0xD800 + (n - 0x10000) / 0x400 - 0xD800) * 0x400
        + (0xDC00 + (n - 0x10000) % 0x400 - 0xDC00) = n := by
      omega
    rw [List.cons_append, List.cons_append, List.nil_append, text?_pair hhigh hlow, hn, hc]

theorem text?_flatMap (t : Text) : text? (t.flatMap charUnits) = some t := by
  induction t with
  | nil => rfl
  | cons c t ih => rw [List.flatMap_cons, text?_charUnits, ih, Option.map_some]

/-! ## Texts -/

theorem splitMark?_mark (order : ByteOrder) (bytes : Bytes) :
    splitMark? (order.mark ++ bytes) = some (order, bytes) := by
  cases order with
  | littleEndian => rfl
  | bigEndian => rfl

/-- Reading gives back what was written behind the mark. -/
theorem decode?_written (order : ByteOrder) (t : Text) :
    decode? order ((t.flatMap charUnits).flatMap (unitBytes order)) = some t := by
  have hunits : ∀ u ∈ t.flatMap charUnits, u < 0x10000 := by
    intro u hu
    obtain ⟨c, -, hc⟩ := List.mem_flatMap.mp hu
    exact lt_of_mem_charUnits hc
  rw [decode?, units?_flatMap hunits, Option.bind_some, text?_flatMap]

end BankStatement.Utf16
