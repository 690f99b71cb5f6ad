import BankStatement.Fault
import BankStatement.Source.Utf8

/-!
# Pages

The text of a PDF document comes page by page. `mergePages` joins the pages into one sequence of
lines; the lines at the top of a page that repeat the page before it (a letterhead, column headings)
are dropped. A page is compared with all lines of the last page that was not blank, its own repeated
lines included.

How texts of pages are taken out of a document is left to a library, so pages are given here as
texts. A page for which there is none is missing, which is not the same as a blank one for the
library but is treated alike.
-/

namespace BankStatement

/-- How many lines two pages have in common at the top. -/
def sharedLines : List Text → List Text → Nat
  | a :: as, b :: bs => if a = b then sharedLines as bs + 1 else 0
  | _, _ => 0

/-- The lines of the pages, each without what it repeats from the one before. -/
def joinPages (previous : List Text) : List (Option Text) → List Text
  | [] => []
  | none :: pages => joinPages previous pages
  | some page :: pages =>
    if Text.isBlankText page then joinPages previous pages
    else
      let lines := Text.lines page
      lines.drop (sharedLines previous lines) ++ joinPages lines pages

def dropEmptyEnd (lines : List Text) : List Text := (lines.reverse.dropWhile (·.isEmpty)).reverse

/-- The lines of a document, from the texts of its pages. -/
def mergePages (pages : List (Option Text)) : List Text := dropEmptyEnd (joinPages [] pages)

namespace Pdf

def backends : List Text := ["pdfplumber".toList, "pypdf".toList]

def checkBackend (name : Text) : Except Fault Unit :=
  if backends.contains name then .ok () else .error (.unknownBackend name)

def signature : Bytes := Utf8.encode "%PDF-".toList

/-- The number of bytes that may stand before the signature, and one more. -/
def signatureWindow : Nat := 20

def holds (needle : Bytes) : Bytes → Bool
  | [] => needle.isEmpty
  | b :: rest => needle.isPrefixOf (b :: rest) || holds needle rest

/-- Whether a file is a PDF document: the signature stands near its start. -/
def isPdf : Option Bytes → Bool
  | none => false
  | some bytes => holds signature (bytes.take (signatureWindow + signature.length - 1))

/-- The texts of pages, a page without text being empty. -/
def pageTexts (pages : List (Option Text)) : List Text := pages.map (·.getD [])

end Pdf

end BankStatement
