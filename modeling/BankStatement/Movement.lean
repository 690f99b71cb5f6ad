import BankStatement.Calendar.Date
import BankStatement.Decimal.Basic

/-!
# Statements: header and movements

What a statement holds once it has been read: data about the document in its header, and one
movement per posting. Amounts are signed, debits being negative.

A field that a statement does not give is `none`, or empty where the field is a plain text.

A movement begins with all defaults and is filled value by value. Whether anything was found on a
line is therefore told from the fields themselves (`Movement.isSet`), where an amount of zero counts
as none; this is why a line with a counterparty alone makes no movement.
-/

namespace BankStatement

inductive SecurityAction where
  | buy
  | sell
  | dividend
  deriving DecidableEq, Repr

def SecurityAction.label : SecurityAction → Text
  | .buy => "Buy".toList
  | .sell => "Sell".toList
  | .dividend => "Dividend".toList

/-- What a statement says about itself. -/
structure Header where
  accountNumber : Text := []
  iban : Option Text := none
  bankCode : Option Text := none
  accountHolder : Option Text := none
  periodStart : Option Date := none
  periodEnd : Option Date := none
  description : Text := []
  deriving DecidableEq, Repr

/-- One movement of an account. A preview is a movement that is announced but not booked yet; an
error movement stands for a line that could not be read. -/
structure Movement where
  bookingDate : Option Date := none
  valutaDate : Option Date := none
  amount : Decimal := Decimal.zero
  currencyCode : Option Text := none
  subject : Option Text := none
  counterparty : Option Text := none
  postingDescription : Option Text := none
  quantity : Option Decimal := none
  taxAmount : Option Decimal := none
  feeAmount : Option Decimal := none
  securityAction : Option SecurityAction := none
  isPreview : Bool := false
  isError : Bool := false
  deriving DecidableEq, Repr

/-- A movement counts only with an amount, a subject or a booking date. -/
def Movement.isSet (m : Movement) : Bool :=
  !(m.amount.isZero && Text.isBlankText (m.subject.getD []) && m.bookingDate.isNone)

structure Statement where
  header : Header
  movements : List Movement
  deriving DecidableEq, Repr

end BankStatement
