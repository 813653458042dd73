import FormatReview.Decimal.Form
import FormatReview.Paper.Document

namespace FormatReview.Paper.Document

/-! The file of a document: numbered objects, a table of where they start, and a trailer. -/

def plainForm : Decimal.Form := ⟨none, none, false, false, .up⟩

def numberText (x : Float32) : String := plainForm.write (Decimal.ofSingle x)

def pointsPerMillimetre : Float32 := 2.834646

def pointText (x : Float32) : String := numberText (x * pointsPerMillimetre)

def hexText (digits : Nat) (n : Nat) : String :=
  let text := Nat.toDigits 16 n
  String.ofList (List.replicate (digits - text.length) '0' ++ text)

def glyphText (font : Font) (content : String) : String :=
  "<" ++ String.join (content.toList.map fun c => hexText 4 ((font.face.glyph? c).getD 0)) ++ ">"

def itemText (font : Font) : Item Float32 → String
  | .text content size x y =>
      "BT /F1 " ++ numberText size ++ " Tf " ++ pointText x ++ " " ++ pointText y ++ " Td " ++
        glyphText font content ++ " Tj ET\n"
  | .rule x y toX toY =>
      pointText x ++ " " ++ pointText y ++ " m " ++ pointText toX ++ " " ++ pointText toY ++
        " l S\n"

def pageText (font : Font) (page : Page Float32) : String :=
  "0.5 w\n" ++ String.join (page.items.map (itemText font))

/-- UTF-16 with a mark of its byte order. -/
def titleText (title : String) : String :=
  "<feff" ++ String.join (title.toList.map fun c =>
    if c.toNat < 0x10000 then hexText 4 c.toNat
    else hexText 4 (0xd800 + (c.toNat - 0x10000) / 0x400) ++
      hexText 4 (0xdc00 + (c.toNat - 0x10000) % 0x400)) ++ ">"

def stream (entries : String) (content : ByteArray) : ByteArray :=
  ("<< " ++ entries ++ "/Length " ++ toString content.size ++ " >>\nstream\n").toUTF8 ++ content ++
    "\nendstream".toUTF8

def usedChars (document : Document Float32) : List Char :=
  distinct (document.pages.flatMap fun page => page.items.flatMap fun
    | .text content _ _ _ => content.toList
    | .rule .. => [])

def widthText (font : Font) (c : Char) : String :=
  toString ((font.face.glyph? c).getD 0) ++ " [" ++
    toString ((font.face.advanceUnits? c).getD 0 * 1000 / font.face.unitsPerEm) ++ "] "

def firstPage : Nat := 8

def pageNumber (i : Nat) : String := toString (firstPage + 2 * i) ++ " 0 R"

/-- A document without pages still has an empty one. -/
def pageTexts (document : Document Float32) : List String :=
  match document.pages with
  | [] => [""]
  | pages => pages.reverse.map (pageText document.font)

def pageObjects (texts : List String) : List ByteArray :=
  texts.zipIdx.flatMap fun (text, i) =>
    [("<< /Type /Page /Parent 2 0 R /MediaBox [0 0 595.276 841.89] /Resources << /Font << " ++
        "/F1 3 0 R >> >> /Contents " ++ toString (firstPage + 2 * i + 1) ++ " 0 R >>").toUTF8,
      stream "" text.toUTF8]

def objects (document : Document Float32) : List ByteArray :=
  let texts := document.pageTexts
  let kids := String.intercalate " " ((List.range texts.length).map pageNumber)
  let widths := String.join (document.usedChars.map (widthText document.font))
  [("<< /Type /Catalog /Pages 2 0 R >>").toUTF8,
    ("<< /Type /Pages /Kids [" ++ kids ++ "] /Count " ++ toString texts.length ++ " >>").toUTF8,
    ("<< /Type /Font /Subtype /Type0 /BaseFont /Report /Encoding /Identity-H " ++
      "/DescendantFonts [4 0 R] >>").toUTF8,
    ("<< /Type /Font /Subtype /CIDFontType2 /BaseFont /Report /CIDToGIDMap /Identity " ++
      "/CIDSystemInfo << /Registry (Adobe) /Ordering (Identity) /Supplement 0 >> " ++
      "/FontDescriptor 5 0 R /W [" ++ widths ++ "] >>").toUTF8,
    ("<< /Type /FontDescriptor /FontName /Report /Flags 4 /FontBBox [0 -300 1000 1000] " ++
      "/ItalicAngle 0 /Ascent 900 /Descent -300 /CapHeight 700 /StemV 80 " ++
      "/FontFile2 6 0 R >>").toUTF8,
    stream ("/Length1 " ++ toString document.font.content.size ++ " ") document.font.content,
    ("<< /Title " ++ titleText document.title ++ " >>").toUTF8] ++ pageObjects texts

structure Assembly where
  file : ByteArray
  starts : List Nat

def appendObject (assembly : Assembly) (content : ByteArray × Nat) : Assembly :=
  ⟨assembly.file ++ (toString (content.2 + 1) ++ " 0 obj\n").toUTF8 ++ content.1 ++
      "\nendobj\n".toUTF8,
    assembly.starts ++ [assembly.file.size]⟩

def startText (start : Nat) : String :=
  let digits := toString start
  String.ofList (List.replicate (10 - digits.length) '0') ++ digits ++ " 00000 n \n"

def bytes (document : Document Float32) : ByteArray :=
  let body := document.objects.zipIdx.foldl appendObject ⟨"%PDF-1.4\n".toUTF8, []⟩
  let size := toString (body.starts.length + 1)
  body.file ++ ("xref\n0 " ++ size ++ "\n0000000000 65535 f \n" ++
    String.join (body.starts.map startText) ++ "trailer\n<< /Size " ++ size ++
    " /Root 1 0 R /Info 7 0 R >>\nstartxref\n" ++ toString body.file.size ++ "\n%%EOF\n").toUTF8

end FormatReview.Paper.Document
