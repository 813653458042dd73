import FormatReview.Paper.Typeface

namespace FormatReview.Paper

/-! Breaking text into lines between words, and words that are too wide between characters. -/

abbrev Line := List Char

/-- A typeface at a size, and the room that a line has. -/
structure Gauge (α : Type) where
  face : Typeface α
  size : α
  room : α

namespace Gauge

variable [Measure α]

def width (gauge : Gauge α) (text : Line) : α := gauge.face.width gauge.size text

def fits (gauge : Gauge α) (text : Line) : Bool := gauge.width text ≤ gauge.room

def exceeds (gauge : Gauge α) (text : Line) : Bool := gauge.room < gauge.width text

def extend (line word : Line) : Line := if line = [] then word else line ++ ' ' :: word

/-- The lines that characters fill, and the line that is left open. -/
def breakWord (gauge : Gauge α) (line : Line) : List Char → List Line × Line
  | [] => ([], line)
  | c :: rest =>
      if line ≠ [] ∧ gauge.exceeds (line ++ [c]) then
        let (full, last) := gauge.breakWord [c] rest
        (line :: full, last)
      else gauge.breakWord (line ++ [c]) rest

def closed (line : Line) : List Line := if line = [] then [] else [line]

/-- The lines that a word fills, and the line that it leaves open. -/
def place (gauge : Gauge α) (line word : Line) : List Line × Line :=
  if gauge.fits (extend line word) then ([], extend line word)
  else if gauge.fits word then (closed line, word)
  else
    let (full, last) := gauge.breakWord [] word
    (closed line ++ full, last)

def fill (gauge : Gauge α) (line : Line) : List Line → List Line × Line
  | [] => ([], line)
  | word :: rest =>
      let (full, next) := gauge.place line word
      let (more, last) := gauge.fill next rest
      (full ++ more, last)

/-- The lines of a text. A text without words is one empty line. -/
def wrap (gauge : Gauge α) (text : List Char) : List Line :=
  let (full, last) := gauge.fill [] (Text.words text)
  if full = [] then [last] else full ++ closed last

end Gauge

end FormatReview.Paper
