import BankStatement.Importer
import Mathlib.Data.List.Nodup

/-!
# Settlements without a mark

Every movement that is read with a template is marked as a preview by its date
(`Movement.finished?`). The movement of a settlement is put together without the mark, whatever day
it is booked on (`isPreview_of_read`). So its mark fits the date just when the booking is due: a
settlement that is still to come, or that names no day, enters a draft as open and not as announced
(`Importer.mark_of_details_iff`).

Settlements are read from detail documents, and only one of the readers has them. The module follows
a file from the request through the choice of the reader to the lines of the document
(`parse_eq_of_kind`, `exists_settlement`), so that the statement can be about what an importer gives
out and about the draft that is made of it, and does not presuppose which function reads the file.
The day of reading is not handed to the settlement at all. It is the day of the importer that the
statement is about, and every day makes the same movement.

One document is read on two days at the end of the module: at the end of the year its booking is
due, and at the beginning of the month it is not.
-/

namespace BankStatement

namespace Settlement

/-- A settlement is one movement, and never a preview: the fields of the record are given one by
one, and the mark is left at its default. -/
theorem isPreview_of_read {lines : List Text} {fileName : Text} {s : Statement}
    (h : read lines fileName = some s) : ∃ m, s.movements = [m] ∧ m.isPreview = false := by
  obtain ⟨facts, -, h⟩ := Option.bind_eq_some_iff.mp h
  obtain ⟨amount, -, h⟩ := Option.bind_eq_some_iff.mp h
  cases h
  exact ⟨facts.movement amount, rfl, rfl⟩

end Settlement

/-- The booking is not still to come. -/
def Movement.IsDue (today : Date) (m : Movement) : Prop :=
  ∃ d, m.bookingDate = some d ∧ today.isBefore d = false

theorem Movement.isOutstanding_eq_false_iff {today : Date} {m : Movement} :
    m.isOutstanding today = false ↔ m.IsDue today := by
  unfold isOutstanding IsDue
  cases m.bookingDate <;> simp

/-- An entry begins as announced exactly when its movement is a preview. -/
theorem Entry.announced_iff {id : EntityId} {m : Movement} :
    (Entry.ofMovement id m).status = .announced ↔ (Entry.ofMovement id m).isAnnounced = true := by
  show initialStatus m.isPreview = .announced ↔ m.isPreview = true
  cases m.isPreview <;> simp [initialStatus]

namespace BankReader

/-- No two readers are for the same kind. -/
theorem eq_of_kind {r r' : BankReader} (hr : r ∈ all) (hr' : r' ∈ all) (h : r.kind = r'.kind) :
    r = r' :=
  List.inj_on_of_nodup_map (f := kind) (by decide) hr hr' h

theorem ofKind?_kind {r : BankReader} (h : r ∈ all) : ofKind? r.kind = some r := by
  unfold ofKind?
  cases hfound : all.find? fun r' => r'.kind == r.kind with
  | none => exact absurd (beq_self_eq_true r.kind) (List.find?_eq_none.mp hfound r h)
  | some r' =>
      have hkind : r'.kind = r.kind := by simpa using List.find?_some hfound
      rw [eq_of_kind (List.mem_of_find?_eq_some hfound) h hkind]

/-- The lines of a detail document of a reader with settlements are read as one. -/
theorem exists_settlement {r : BankReader} (hr : r.hasSettlements = true) {encoding : Text}
    {catalogue : Catalogue} {today : Date} {file : StatementFile} {s : Statement}
    (h : r.readDetails encoding catalogue today file = .ok (some s)) :
    ∃ lines, Settlement.read lines file.name = some s := by
  rw [readDetails, if_pos hr] at h
  cases hlines : r.readLines encoding file with
  | error _ => rw [hlines] at h; cases h
  | ok lines => rw [hlines] at h; exact ⟨lines, Except.ok.inj h⟩

end BankReader

namespace Importer

variable {i : Importer} {request : ImportRequest} {file : StatementFile} {r : BankReader}

/-- A file goes to the reader of the kind that the caller names, or else that it is detected as.
Kinds tell the readers apart, so there is only one it can go to. -/
theorem parse_eq_of_kind (hr : r ∈ BankReader.all)
    (h : request.sourceKind.or (i.detect file) = some r.kind) :
    i.parse request file
      = (i.readAs r request.details file).bind (demand request (some r.kind) file) := by
  unfold parse
  cases hkind : request.sourceKind with
  | some kind =>
      rw [hkind, Option.some_or, Option.some.injEq] at h
      simp only [h, BankReader.ofKind?_kind hr]
      rfl
  | none =>
      rw [hkind, Option.none_or] at h
      obtain ⟨found, hfound, hsame⟩ := Option.map_eq_some_iff.mp h
      obtain rfl := BankReader.eq_of_kind (List.mem_of_find?_eq_some hfound) hr hsame
      simp only [hfound]
      rfl

/-- A statement that is found is found whether or not one is demanded. -/
theorem demand_eq_ok_iff {kind : Option Text} {found : Option Statement} {s : Statement} :
    demand request kind file found = .ok (some s) ↔ found = some s := by
  cases found with
  | none => simp only [demand]; split <;> simp
  | some s' => simp [demand]

/-- What is read of a detail document of a reader is what the parse hands out. -/
theorem parse_eq_ok_iff (hr : r ∈ BankReader.all)
    (hkind : request.sourceKind.or (i.detect file) = some r.kind) {s : Statement} :
    i.parse request file = .ok (some s) ↔ i.readAs r request.details file = .ok (some s) := by
  rw [parse_eq_of_kind hr hkind]
  cases i.readAs r request.details file with
  | error _ => simp [Except.bind]
  | ok found => simp [Except.bind, demand_eq_ok_iff]

/-- A detail document of the bank with settlements is one movement without a mark. -/
theorem exists_unmarked {s : Statement} (hdetails : request.details = true)
    (hkind : request.sourceKind.or (i.detect file) = some BankReader.ingPdf.kind)
    (h : i.parse request file = .ok (some s)) : ∃ m, s.movements = [m] ∧ m.isPreview = false := by
  have hread := (parse_eq_ok_iff (by simp [BankReader.all]) hkind).mp h
  rw [readAs, hdetails, if_pos rfl] at hread
  obtain ⟨lines, hlines⟩ := BankReader.exists_settlement rfl hread
  exact Settlement.isPreview_of_read hlines

/-- The mark of a settlement fits its date exactly when it is due: none is a preview, and so none is
announced in a draft, whether or not the day of its booking is known and has come. -/
theorem mark_of_details_iff (i : Importer) (newId : Nat → EntityId) (request : ImportRequest)
    (file : StatementFile) (s : Statement) (hdetails : request.details = true)
    (hkind : request.sourceKind.or (i.detect file) = some BankReader.ingPdf.kind)
    (h : i.parse request file = .ok (some s)) :
    ∃ m d e, s.movements = [m] ∧ i.draft newId request file = .ok (some d) ∧ d.entries = [e]
      ∧ e.isAnnounced = m.isPreview ∧ (e.status = .announced ↔ m.isPreview = true)
      ∧ (m.isPreview = m.isOutstanding i.today ↔ m.IsDue i.today) := by
  have hing : BankReader.ingPdf ∈ BankReader.all := by simp [BankReader.all]
  have hdraft : i.draft newId request file = .ok (some (Draft.ofStatement newId file.name s)) := by
    have hparse : i.parse { request with require := false } file = .ok (some s) := by
      rw [parse_eq_ok_iff hing (by exact hkind)]
      exact (parse_eq_ok_iff hing hkind).mp h
    rw [draft, hparse]
    rfl
  obtain ⟨m, hm, hmark⟩ := exists_unmarked hdetails hkind h
  refine ⟨m, _, Entry.ofMovement (newId 0) m, hm, hdraft, ?_, rfl, Entry.announced_iff, ?_⟩
  · rw [Draft.ofStatement, hm]
    rfl
  · rw [hmark, eq_comm, Movement.isOutstanding_eq_false_iff]

end Importer

/-- The page of a dividend that is paid on 16 December 2024. -/
def dividendPage : Text := "Gesamtbetrag zu Ihren Gunsten EUR 12,50\nZahltag 16.12.2024".toList

def StatementFile.dividend : StatementFile where
  name := "dividend.pdf".toList
  bytes := some (Utf8.encode "%PDF-1.4".toList)
  pages := .ok [some dividendPage]

def ImportRequest.settlement : ImportRequest where
  sourceKind := some BankReader.ingPdf.kind
  details := true

namespace Importer

/-- On whatever day the dividend is read, it is booked on the day of its payment. -/
theorem parse_dividend (i : Importer) :
    ∃ s, i.parse .settlement .dividend = .ok (some s)
      ∧ ∀ m ∈ s.movements, m.bookingDate = some ⟨2024, 12, 16, by decide⟩ := by
  have hdates : (Settlement.read (mergePages [some dividendPage]) "dividend.pdf".toList).map
      (·.movements.map (·.bookingDate)) = some [some ⟨2024, 12, 16, by decide⟩] := by
    decide +kernel
  obtain ⟨s, hs, hdates⟩ := Option.map_eq_some_iff.mp hdates
  have hread : i.readAs .ingPdf true .dividend = .ok (some s) := congrArg Except.ok hs
  refine ⟨s, (parse_eq_ok_iff (by simp [BankReader.all]) rfl).mpr hread, fun m hm => ?_⟩
  have hdate := List.mem_map_of_mem (f := (·.bookingDate)) hm
  rw [hdates] at hdate
  exact List.mem_singleton.mp hdate

/-- Read at the end of the year, the dividend is due. -/
theorem mark_of_details_iff_dividend :
    ∃ s m d e, parse ⟨.bundled, [], ⟨2024, 12, 31, by decide⟩⟩ .settlement .dividend = .ok (some s)
      ∧ s.movements = [m]
      ∧ draft ⟨.bundled, [], ⟨2024, 12, 31, by decide⟩⟩ (fun _ => []) .settlement .dividend
        = .ok (some d)
      ∧ d.entries = [e] ∧ e.isAnnounced = m.isPreview
      ∧ m.isPreview = m.isOutstanding ⟨2024, 12, 31, by decide⟩ := by
  obtain ⟨s, hs, hdate⟩ := parse_dividend ⟨.bundled, [], ⟨2024, 12, 31, by decide⟩⟩
  obtain ⟨m, d, e, hm, hd, he, hannounced, -, hmark⟩ :=
    mark_of_details_iff _ (fun _ => []) .settlement .dividend s rfl rfl hs
  refine ⟨s, m, d, e, hs, hm, hd, he, hannounced, hmark.mpr ⟨_, hdate m ?_, by decide⟩⟩
  rw [hm]
  exact List.mem_singleton_self m

/-- Read at the beginning of the month, the dividend is still to come, and yet no preview. -/
theorem not_mark_of_details : ¬ ∀ (i : Importer) (request : ImportRequest) (file : StatementFile)
    (s : Statement), request.details = true →
    request.sourceKind.or (i.detect file) = some BankReader.ingPdf.kind →
    i.parse request file = .ok (some s) →
    ∀ m ∈ s.movements, m.isPreview = m.isOutstanding i.today := by
  intro hall
  obtain ⟨s, hs, hdate⟩ := parse_dividend ⟨.bundled, [], ⟨2024, 12, 1, by decide⟩⟩
  obtain ⟨m, hm, hmark⟩ := exists_unmarked rfl rfl hs
  have hmem : m ∈ s.movements := hm ▸ List.mem_singleton_self m
  have hfits := hall _ _ _ s rfl rfl hs m hmem
  rw [hmark, Movement.isOutstanding, hdate m hmem] at hfits
  revert hfits
  decide

end Importer

end BankStatement
