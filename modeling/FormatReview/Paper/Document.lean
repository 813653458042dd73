import FormatReview.Font
import FormatReview.Paper.Canvas

namespace FormatReview.Paper

/-! A document with one embedded font, as a surface to draw on. -/

inductive Item (α : Type) where
  | text (content : String) (size x y : α)
  | rule (x y toX toY : α)

/-- A page with the size of its current type, if any was selected on it. -/
structure Page (α : Type) where
  items : List (Item α)
  size : Option α

/-- The last page comes first. Before the first page a size may be selected all the same. -/
structure Document (α : Type) where
  title : String
  font : Font
  pages : List (Page α)
  early : Option α

namespace Document

def empty (title : String) (font : Font) : Document α := ⟨title, font, [], none⟩

def size? (document : Document α) : Option α :=
  match document.pages with
  | [] => document.early
  | page :: _ => page.size

def noPage : Fault := .internal "drawing before begin_page"

def noFont : Fault := .internal "text drawn before a font was selected"

def foreignFont (asked embedded : String) : Fault :=
  .renderFailed ("font '" ++ asked ++ "' is not embedded (have '" ++ embedded ++ "')")

def add (document : Document α) (item : Item α) : Except Fault (Document α) :=
  match document.pages with
  | [] => .error noPage
  | page :: rest =>
      .ok { document with pages := { page with items := page.items ++ [item] } :: rest }

def select (document : Document α) (size : α) : Document α :=
  match document.pages with
  | [] => { document with early := some size }
  | page :: rest => { document with pages := { page with size := some size } :: rest }

/-- A new page has no font yet. -/
def draw (document : Document α) : Mark α → Except Fault (Document α)
  | .page => .ok { document with pages := ⟨[], none⟩ :: document.pages }
  | .font name size =>
      if name = document.font.name then .ok (document.select size)
      else .error (foreignFont name document.font.name)
  | .text content x y =>
      match document.size? with
      | none => .error noFont
      | some size => document.add (.text content size x y)
  | .rule x y toX toY => document.add (.rule x y toX toY)

def canvas : Canvas α (Document α) := ⟨draw⟩

end Document

end FormatReview.Paper
