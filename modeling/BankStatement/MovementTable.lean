import BankStatement.Importer

/-!
# Tables of movements

A statement as a table, one row per movement and one column per property, together with what is
known about the file.

Every value is shown as a text or is missing. Dates are written with the year in front and amounts
with a decimal point, so that nothing of a movement is rounded on its way into a table. A file
without a statement has a table too, with neither columns nor rows, and with what is known about the
file.
-/

namespace BankStatement

/-- A table with some properties of its own. -/
structure MovementTable where
  columns : List Text
  rows : List (List Value)
  info : List (Text × Value)
  deriving Repr, BEq

namespace MovementTable

def dateValue (d : Option Date) : Value := .ofText? (d.map Date.toText)

def decimalValue (d : Option Decimal) : Value := .ofText? (d.map Decimal.toText)

def movementColumns : List (String × (Movement → Value)) := [
  ("booking_date", fun m => dateValue m.bookingDate),
  ("valuta_date", fun m => dateValue m.valutaDate),
  ("amount", fun m => decimalValue (some m.amount)),
  ("currency_code", fun m => .ofText? m.currencyCode),
  ("subject", fun m => .ofText? m.subject),
  ("counterparty", fun m => .ofText? m.counterparty),
  ("posting_description", fun m => .ofText? m.postingDescription),
  ("quantity", fun m => decimalValue m.quantity),
  ("tax_amount", fun m => decimalValue m.taxAmount),
  ("fee_amount", fun m => decimalValue m.feeAmount),
  ("security_transaction_type", fun m => .ofText? (m.securityAction.map SecurityAction.label)),
  ("is_preview", fun m => .bool m.isPreview),
  ("is_error", fun m => .bool m.isError)]

/-- What is known about a file without a statement. -/
def fileInfo (kind : Option Text) (fileName : Text) : List (Text × Value) := [
  ("source".toList, .ofText? kind),
  ("file_name".toList, .text fileName)]

/-- What is known about a file with a statement. -/
def statementInfo (r : BankReader) (fileName : Text) (h : Header) : List (Text × Value) := [
  ("source".toList, .text r.kind),
  ("bank".toList, .text r.bankName),
  ("file_name".toList, .text fileName),
  ("account_number".toList, .text h.accountNumber),
  ("iban".toList, .ofText? h.iban),
  ("account_holder".toList, .ofText? h.accountHolder),
  ("period_start".toList, dateValue h.periodStart),
  ("period_end".toList, dateValue h.periodEnd),
  ("description".toList, .text h.description)]

def ofStatement (r : BankReader) (fileName : Text) (s : Statement) : MovementTable where
  columns := movementColumns.map fun (name, _) => name.toList
  rows := s.movements.map fun m => movementColumns.map fun (_, cell) => cell m
  info := statementInfo r fileName s.header

end MovementTable

/-- The table of a file; a file without a statement has a table without columns. An empty source
kind stands for none. -/
def Importer.table (i : Importer) (request : ImportRequest) (file : StatementFile) :
    Except Fault MovementTable :=
  let kind := request.sourceKind.or (i.detect file)
  match kind with
  | none => .ok ⟨[], [], MovementTable.fileInfo none file.name⟩
  | some [] => .ok ⟨[], [], MovementTable.fileInfo (some []) file.name⟩
  | some kind => do
    match ← i.parse { request with sourceKind := some kind, require := false } file with
    | none => pure ⟨[], [], MovementTable.fileInfo (some kind) file.name⟩
    | some s =>
      match BankReader.ofKind? kind with
      | some r => pure (MovementTable.ofStatement r file.name s)
      | none => pure ⟨[], [], MovementTable.fileInfo (some kind) file.name⟩

end BankStatement
