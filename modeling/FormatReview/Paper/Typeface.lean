import FormatReview.Paper.Measure
import FormatReview.Text.Blank

namespace FormatReview.Paper

/-! Typefaces, as far as layout knows them. -/

/-- The characters that have a glyph, with their advances in multiples of the type size. -/
structure Typeface (α : Type) where
  name : String
  advance? : Char → Option α

def insertChar (c : Char) : List Char → List Char
  | [] => [c]
  | d :: rest =>
      if c < d then c :: d :: rest
      else if c = d then d :: rest
      else d :: insertChar c rest

/-- The characters of a text in order, each once. -/
def distinct (text : List Char) : List Char := text.foldl (fun seen c => insertChar c seen) []

namespace Typeface

/-- The visible characters that have no glyph, in order. -/
def missing (face : Typeface α) (texts : List String) : List Char :=
  distinct (texts.flatMap fun text =>
    text.toList.filter fun c => !Text.isBlank c && (face.advance? c).isNone)

variable [Measure α]

/-- A space is there even without a glyph. -/
def em (face : Typeface α) (c : Char) : α :=
  if c = ' ' then (face.advance? ' ').getD 0.25 else (face.advance? c).getD 0.5

def ems (face : Typeface α) (text : List Char) : α :=
  text.foldl (fun sum c => sum + face.em c) 0.0

def width (face : Typeface α) (size : α) (text : List Char) : α := face.ems text * size * point α

end Typeface

end FormatReview.Paper
