import FormatReview.Chart
import FormatReview.CommandLine.Options
import FormatReview.Json.Writer
import FormatReview.Review.Record
import FormatReview.Table

namespace FormatReview.CommandLine

/-! What is shown of a review in the terminal. -/

def styled (code text : String) : String := "\x1b[" ++ code ++ "m" ++ text ++ "\x1b[0m"

def bold (text : String) : String := styled "1" text

def dim (text : String) : String := styled "2" text

def red (text : String) : String := styled "31" text

def green (text : String) : String := styled "32" text

def cyan (text : String) : String := styled "36" text

def line (text : String) : String := text ++ "\n"

def chartWidth : Nat := 40

def edgeIndex (row : Option Row) : String := toString ((row.map (·.index)).getD 0)

def pageHeading (page : TablePage) : String :=
  bold ("Errors " ++ edgeIndex page.rows.head? ++ "-" ++ edgeIndex page.rows.getLast? ++ " of " ++
    toString page.totalRows ++ " (page " ++ toString page.number ++ "/" ++
    toString page.totalPages ++ ")")

def tableView (options : Options) (table : Table) (colour : Bool) : String :=
  if options.all then line (Row.listText table.rows colour)
  else
    let page := table.page options.page
    line (pageHeading page) ++ line (Row.listText page.rows colour)

def chartView (options : Options) (review : Review) : String :=
  if options.noChart then ""
  else line (bold "Errors by type") ++ line (((Chart.ofReview review).text chartWidth).getD "")

def totalsText (summary : Summary) : String :=
  toString summary.totalErrors ++ " error(s)" ++
    match summary.totalParagraphs with
    | some paragraphs => " in " ++ toString paragraphs ++ " paragraphs"
    | none => ""

def totalsView (options : Options) (review : Review) : String :=
  if options.quiet then "" else line (dim (totalsText review.summary))

def views (options : Options) (report : ReportSettings) (review : Review) (colour : Bool) :
    String :=
  if review.isEmpty then line (green "No formatting errors.")
  else
    tableView options (.ofReview review report.pageSize report.contextWidth) colour ++
      chartView options review ++ totalsView options review

def resultText (options : Options) (report : ReportSettings) (review : Review) (colour : Bool) :
    String :=
  if options.json then line review.toJson.pretty else views options report review colour

end FormatReview.CommandLine
