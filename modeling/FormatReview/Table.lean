import FormatReview.Review
import FormatReview.Settings

namespace FormatReview

/-! The findings of a review as a table in pages, one row each, in their order. -/

structure Highlight where
  code : String
  name : String
  colour : String
  deriving DecidableEq, Repr

namespace Highlight

def all : List Highlight :=
  [⟨"FontSizeMismatch", "error-font-size", "33"⟩,
    ⟨"AlignmentError", "error-alignment", "36"⟩,
    ⟨"CenterAlignmentError", "error-centerAlignment", "36"⟩,
    ⟨"ContentMismatch", "error-contentMismatch", "35"⟩,
    ⟨"BoldError", "error-boldError", "34"⟩,
    ⟨"MissingTOC", "error-missingTOC", "31"⟩,
    ⟨"MissingSection", "error-missingSection", "31"⟩,
    ⟨"TOCNotOnNewPageBefore", "error-TOCNotOnNewPageBefore", "91"⟩,
    ⟨"TOCNotOnNewPageAfter", "error-TOCNotOnNewPageAfter", "91"⟩]

def nameOf? (code : String) : Option String := (all.find? (·.code = code)).map (·.name)

/-- The colour of a highlight by its name; all others are reset. -/
def colourOf (name : String) : String := ((all.find? (·.name = name)).map (·.colour)).getD "0"

end Highlight

def ellipsis : Char := '…'

/-- Shortens a text of more than `width` characters, with an ellipsis in the last place. -/
def shortenChars (text : List Char) (width : Nat) : List Char :=
  if text.length ≤ width then text else text.take (width - 1) ++ [ellipsis]

def shorten (text : String) (width : Nat) : String :=
  String.ofList (shortenChars text.toList width)

structure Row where
  index : Nat
  code : String
  message : String
  suggestion : String
  context : String
  highlight : Option String
  deriving DecidableEq, Repr

structure TablePage where
  number : Nat
  totalPages : Nat
  totalRows : Nat
  rows : List Row
  deriving DecidableEq, Repr

structure Table where
  findings : List Finding
  pageSize : Nat
  contextWidth : Nat

namespace Row

def ofFinding (contextWidth : Nat) (index : Nat) (finding : Finding) : Row :=
  ⟨index, finding.code, finding.message, finding.suggestion, shorten finding.context contextWidth,
    Highlight.nameOf? finding.code⟩

def padLeft (width : Nat) (text : String) : String :=
  String.ofList (List.replicate (width - text.length) ' ') ++ text

/-- The three lines of a row, without the last line end. -/
def block (row : Row) : String :=
  padLeft 3 (toString row.index) ++ ". [" ++ row.code ++ "] " ++ row.message ++
    "\n     -> " ++ row.suggestion ++ "\n     \"" ++ row.context ++ "\""

def coloured (colour text : String) : String := "\x1b[" ++ colour ++ "m" ++ text ++ "\x1b[0m"

def text (row : Row) (colour : Bool) : String :=
  match row.highlight, colour with
  | some name, true => coloured (Highlight.colourOf name) row.block ++ "\n"
  | _, _ => row.block ++ "\n"

def listText (rows : List Row) (colour : Bool) : String :=
  String.join (rows.map (·.text colour))

end Row

namespace Table

/-- Other page sizes than those offered count as the smallest. -/
def ofReview (review : Review) (pageSize contextWidth : Nat) : Table :=
  ⟨review.findings,
    if pageSize ∈ ReportSettings.pageSizes then pageSize else ReportSettings.smallestPage,
    contextWidth⟩

/-- Every row, numbered from one. -/
def rows (table : Table) : List Row :=
  table.findings.zipIdx.map fun entry => .ofFinding table.contextWidth (entry.2 + 1) entry.1

/-- Even an empty table has a page. -/
def totalPages (table : Table) : Nat :=
  max 1 ((table.findings.length + table.pageSize - 1) / table.pageSize)

/-- The page shown for a number: the first or the last for numbers outside. -/
def pageNumber (table : Table) (number : Nat) : Nat := min (max 1 number) table.totalPages

def page (table : Table) (number : Nat) : TablePage :=
  let number := table.pageNumber number
  ⟨number, table.totalPages, table.findings.length,
    (table.rows.drop ((number - 1) * table.pageSize)).take table.pageSize⟩

end Table

end FormatReview
