import BankStatement.Calendar.Layout
import BankStatement.Decimal.Notation
import BankStatement.Movement
import BankStatement.Pattern.Reader

/-!
# Securities settlements

A settlement document reports one purchase, sale or distribution of a security. Its lines are
recognized one by one, each by a pattern of its own, in any order; together they make a single
movement with quantity, taxes and commission.

A document without a total is no settlement, and neither is one with a date that does not exist.

What a line may say is a list of patterns, of which the first that matches counts (`lineForms`). A
fact that is named twice is overwritten in general, but the first payday counts and the first
currency of a tax. A number that cannot be read leaves its fact as it was; a date that does not
exist ends the reading, and the document is given up.
-/

namespace BankStatement.Settlement

/-! ## Lines -/

/-- What a line of a settlement says. Numbers that cannot be read are `none`. -/
inductive Line where
  | distribution
  | sale
  | purchase
  | orderNumber (number : Text)
  | isin (isin : Text)
  | securityName (name : Text)
  | nominal (quantity : Option Decimal)
  | total (isDebit : Bool) (currency : Text) (amount : Option Decimal)
  | iban (iban : Text)
  | payday (date : Text)
  | documentDate (date : Text)
  | valutaDate (date : Text)
  | tax (name currency : Text) (amount : Option Decimal)
  | commission (amount : Option Decimal)
  deriving DecidableEq, Repr

/-- A pattern of a settlement line; case does not count. -/
def linePattern (source : String) : Pattern := (Pattern.ofLiteral source).caseless

def salePattern : Pattern :=
  linePattern "^Wertpapierabrechnung\\s+Verkauf(\\s+aus\\s+Kapitalmaßnahme)?$"

def purchasePattern : Pattern :=
  linePattern "^Wertpapierabrechnung\\s+Kauf(\\s+aus\\s+Sparplan)?$"

def orderPattern : Pattern := linePattern "^Ordernummer\\s+(?P<orderno>[0-9.]+)$"

def isinPattern : Pattern :=
  linePattern "^ISIN\\s*\\(WKN\\)\\s*(?P<isin>[A-Z0-9]{10,12})(?:\\s*\\([A-Z0-9]+\\))?"

def namePattern : Pattern := linePattern "^Wertpapierbezeichnung\\s*(?P<name>.+)$"

def nominalPattern : Pattern :=
  linePattern "^Nominale\\s+(?:St(?:ü|ue)ck\\s*)?(?P<num>[0-9.,]+)(?:\\s*St(?:ü|ue)ck)?$"

def totalPattern : Pattern :=
  linePattern ("^(?:Gesamtbetrag|Endbetrag) zu Ihren\\s+(?P<dir>Gunsten|Lasten)\\s+"
    ++ "(?P<cur>[A-Z]{3})\\s+(?P<amt>[+\\-]?\\s*[0-9.,]+)$")

def ibanPattern : Pattern := linePattern "^Abrechnungs-IBAN\\s+(?P<iban>[A-Z]{2}[0-9A-Z ]+)$"

def paydayPattern : Pattern := linePattern "^Zahltag\\s+(?P<date>\\d{2}\\.\\d{2}\\.\\d{4})$"

def datePattern : Pattern := linePattern "^Datum:\\s+(?P<date>\\d{2}\\.\\d{2}\\.\\d{4})$"

def valutaPattern : Pattern := linePattern "^Valuta\\s+(?P<date>\\d{2}\\.\\d{2}\\.\\d{4})$"

def taxPattern : Pattern :=
  linePattern ("^(?P<name>Kapitalertragsteuer|Solidarit[aä]tszuschlag|Kirchensteuer)\\s+"
    ++ "(?P<rate>\\d{1,3},\\d{2})%\\s+(?P<cur>[A-Z]{3})\\s+(?P<amt>[+\\-]?\\s*[0-9.,]+)$")

def commissionPattern : Pattern :=
  linePattern "^Provision\\s+(?P<cur>[A-Z]{3})\\s+(?P<amt>[+\\-]?\\s*[0-9.,]+)$"

def distributionMarkers : List Text :=
  ["dividendengutschrift".toList, "ertragsgutschrift".toList]

def marksDistribution (line : Text) : Bool :=
  distributionMarkers.any fun marker => marker.occursIn (Text.lower line)

/-- A number with a decimal comma and grouping points. -/
def readNumber? (t : Text) : Option Decimal :=
  Decimal.ofText? (Text.replace [','] ['.'] (Text.erase '.' (Text.erase ' ' t)))

/-- What is tried on a line, in order: a pattern, and what a match says. -/
def lineForms : List (Pattern × ((String → Text) → Line)) := [
  (salePattern, fun _ => .sale),
  (purchasePattern, fun _ => .purchase),
  (orderPattern, fun group => .orderNumber (Text.erase ' ' (group "orderno"))),
  (isinPattern, fun group => .isin (Text.strip (group "isin"))),
  (namePattern, fun group => .securityName (Text.strip (group "name"))),
  (nominalPattern, fun group => .nominal (readNumber? (group "num"))),
  (totalPattern, fun group =>
    .total (Text.lower (group "dir") == "lasten".toList) (Text.strip (group "cur"))
      (readNumber? (group "amt"))),
  (ibanPattern, fun group => .iban ((group "iban").filter (!isBlank ·))),
  (paydayPattern, fun group => .payday (group "date")),
  (datePattern, fun group => .documentDate (group "date")),
  (valutaPattern, fun group => .valutaDate (group "date")),
  (taxPattern, fun group =>
    .tax (Text.lower (group "name")) (Text.strip (group "cur")) (readNumber? (group "amt"))),
  (commissionPattern, fun group => .commission (readNumber? (group "amt")))]

/-- What a trimmed line says, if anything. A distribution is announced once; later lines with the
same words are looked at like any other. -/
def Line.ofText? (isDistribution : Bool) (line : Text) : Option Line :=
  if !isDistribution && marksDistribution line then some .distribution
  else
    lineForms.findSome? fun (pattern, ofGroups) =>
      (pattern.matchStart? line).map fun found =>
        ofGroups fun name => (pattern.groupText? found name).getD []

/-! ## Documents -/

structure Facts where
  action : Option SecurityAction := none
  orderNumber : Option Text := none
  isin : Option Text := none
  securityName : Option Text := none
  iban : Option Text := none
  quantity : Option Decimal := none
  amount : Option Decimal := none
  currency : Option Text := none
  bookingDate : Option Date := none
  valutaDate : Option Date := none
  /-- Taxes by label, in the order of their first appearance. -/
  taxes : List (Text × Decimal) := []
  taxCurrency : Option Text := none
  commission : Option Decimal := none
  deriving DecidableEq, Repr

def dateLayout : Layout :=
  [.day, .literal '.', .month, .literal '.', .year]

/-- The taxes, by the beginning of their names, with the labels they are shown under. -/
def taxLabels : List (String × String) :=
  [("kapitalertragsteuer", "KESt"), ("solidar", "SolZ"), ("kirchen", "KiSt")]

/-- Records a tax; a tax of the same label is replaced in its place. -/
def insertTax (label : Text) (amount : Decimal) : List (Text × Decimal) → List (Text × Decimal)
  | [] => [(label, amount)]
  | (key, old) :: rest =>
    if key = label then (key, amount) :: rest else (key, old) :: insertTax label amount rest

/-- A number that is given and not zero, else the one before. -/
def nonZeroOr (old : Option Decimal) : Option Decimal → Option Decimal
  | some d => if d.isZero then old else some d
  | none => old

namespace Facts

/-- Takes over what a line says; `none` for a date that does not exist. The first payday counts
unless a document date has been read, and a document date always counts. -/
def add (f : Facts) : Line → Option Facts
  | .distribution => some { f with action := some .dividend }
  | .sale => some { f with action := some .sell }
  | .purchase => some { f with action := some .buy }
  | .orderNumber number => some { f with orderNumber := some number }
  | .isin isin => some { f with isin := some isin }
  | .securityName name => some { f with securityName := some name }
  | .nominal quantity => some { f with quantity := nonZeroOr f.quantity quantity }
  | .total isDebit currency amount =>
    let signed := amount.map fun d => if isDebit then -(d.abs) else d.abs
    some { f with currency := some currency, amount := signed.or f.amount }
  | .iban iban => some { f with iban := some iban }
  | .payday date =>
    match f.bookingDate with
    | some _ => some f
    | none => (dateLayout.read? date).map fun d => { f with bookingDate := some d }
  | .documentDate date =>
    (dateLayout.read? date).map fun d => { f with bookingDate := some d }
  | .valutaDate date =>
    (dateLayout.read? date).map fun d => { f with valutaDate := some d }
  | .tax name currency amount =>
    let taxes := match amount with
      | none => f.taxes
      | some d =>
        taxLabels.foldl (fun taxes (start, label) =>
          if start.toList.isPrefixOf name then insertTax label.toList d taxes else taxes) f.taxes
    some { f with taxes, taxCurrency := f.taxCurrency.or (some currency) }
  | .commission amount => some { f with commission := amount.or f.commission }

def addText (f : Facts) (raw : Text) : Option Facts :=
  let line := Text.strip raw
  if line.isEmpty then some f
  else
    match Line.ofText? (f.action == some .dividend) line with
    | some l => f.add l
    | none => some f

def ofLines (lines : List Text) : Option Facts := lines.foldlM addText {}

/-! ## The movement -/

/-- A number with a decimal comma. -/
def commaText (d : Decimal) : Text := Text.replace ['.'] [','] d.toText

/-- The currency amounts are shown in when none is given. -/
def defaultCurrency : Text := "EUR".toList

def feeItems (f : Facts) : List Text :=
  let taxCurrency := (f.taxCurrency.or f.currency).getD defaultCurrency
  let taxes := taxLabels.filterMap fun (_, label) =>
    (f.taxes.lookup label.toList).map fun d =>
      label.toList ++ ' ' :: commaText d ++ ' ' :: taxCurrency
  let commission := match f.commission with
    | some d => ["Prov ".toList ++ commaText d ++ ' ' :: f.currency.getD defaultCurrency]
    | none => []
  taxes ++ commission

/-- The subject: what is traded, and the fees. -/
def subject (f : Facts) : Text :=
  let fees := f.feeItems
  let parts :=
    (match f.action with
      | some a => [a.label]
      | none => [])
    ++ ([f.isin, f.securityName, f.orderNumber.map ("Order ".toList ++ ·)].filterMap id).filter
      (!·.isEmpty)
    ++ (if fees.isEmpty then []
      else ["Steuern/Gebühren: ".toList ++ Text.joinWith "; ".toList fees])
  Text.joinWith " · ".toList parts

def movement (f : Facts) (amount : Decimal) : Movement :=
  let taxTotal := (f.taxes.map (·.2)).foldl (· + ·) Decimal.zero
  { bookingDate := f.bookingDate
    valutaDate := f.valutaDate.or f.bookingDate
    amount := amount
    currencyCode := some (f.currency.getD defaultCurrency)
    subject := some f.subject
    postingDescription := f.action.map (·.label)
    quantity := f.quantity
    taxAmount := if taxTotal.isZero then none else some taxTotal
    feeAmount := f.commission
    securityAction := f.action }

end Facts

/-- Reads a settlement document as a statement with one movement. -/
def read (lines : List Text) (fileName : Text) : Option Statement := do
  let facts ← Facts.ofLines lines
  let amount ← facts.amount
  let header : Header :=
    { accountNumber := facts.iban.getD []
      iban := facts.iban
      description := "ING PDF Import ".toList ++ fileName }
  some ⟨header, [facts.movement amount]⟩

end BankStatement.Settlement
