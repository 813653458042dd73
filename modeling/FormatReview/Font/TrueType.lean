import FormatReview.Font.CharacterMap

namespace FormatReview.Font

/-! TrueType files: which characters have a glyph, and how far each glyph advances. -/

inductive FileFlaw where
  | unknownMagic
  | malformed
  | noFace
  | noHead
  | noHorizontalHeader
  | noProfile
  deriving DecidableEq, Repr

def FileFlaw.text : FileFlaw → String
  | .unknownMagic => "unknown magic"
  | .malformed => "malformed font"
  | .noFace => "face index is out of bounds"
  | .noHead => "the head table is missing or malformed"
  | .noHorizontalHeader => "the hhea table is missing or malformed"
  | .noProfile => "the maxp table is missing or malformed"

/-- How far glyphs advance. The last width goes for all glyphs below `count` that have none. -/
structure Widths where
  widths : Array Nat
  count : Nat
  deriving DecidableEq, Repr

structure TrueType where
  unitsPerEm : Nat
  maps : List CharacterMap
  widths : Option Widths

/-! The directory of a file, which tells where its tables are. -/

inductive Magic where
  | face
  | collection
  deriving DecidableEq, Repr

def magicAt? (data : ByteArray) (place : Nat) : Option Magic :=
  match longAt? data place with
  | some 0x00010000 => some .face
  | some 0x74727565 => some .face
  | some 0x4f54544f => some .face
  | some 0x74746366 => some .collection
  | _ => none

/-- Where the directory of the first face starts, behind its magic number. -/
def directory (data : ByteArray) : Except FileFlaw Nat := do
  match magicAt? data 0 with
  | none => .error .unknownMagic
  | some .face => return 4
  | some .collection =>
      match longAt? data 8 with
      | none => .error .malformed
      | some faces =>
          if data.size < 12 + 4 * faces then .error .malformed
          else if faces = 0 then .error .noFace
          else
            match longAt? data 12 with
            | none => .error .malformed
            | some start =>
                if start < 12 + 4 * faces ∨ data.size < start then .error .malformed
                else if magicAt? data start = some .face then return start + 4
                else .error .unknownMagic

structure TableRecord where
  name : Nat
  start : Nat
  length : Nat
  deriving DecidableEq, Repr

def tableRecord? (data : ByteArray) (place : Nat) : Option TableRecord := do
  let name ← longAt? data place
  let start ← longAt? data (place + 8)
  let length ← longAt? data (place + 12)
  return ⟨name, start, length⟩

def tableRecords (data : ByteArray) : Except FileFlaw (List TableRecord) := do
  let place ← directory data
  match shortAt? data place with
  | none => .error .malformed
  | some count =>
      if data.size < place + 8 + 16 * count then .error .malformed
      else
        match (List.range count).mapM fun i => tableRecord? data (place + 8 + 16 * i) with
        | none => .error .malformed
        | some records => return records

/-- The last table of a name, if all of it is in the file. -/
def table? (data : ByteArray) (records : List TableRecord) (name : Nat) : Option ByteArray :=
  (records.reverse.find? (·.name = name)).bind fun record => slice? data record.start record.length

/-! The tables that matter. -/

def unitsPerEm? (head : ByteArray) : Option Nat := do
  if head.size < 54 then none
  let units ← shortAt? head 18
  let locations ← shortAt? head 50
  if 16 ≤ units ∧ units ≤ 16384 ∧ locations ≤ 1 then some units else none

def metricCount? (header : ByteArray) : Option Nat := shortAt? header 34

def glyphCount? (profile : ByteArray) : Option Nat := do
  let version ← longAt? profile 0
  let count ← shortAt? profile 4
  if (version = 0x00005000 ∨ version = 0x00010000) ∧ count ≠ 0 then some count else none

def widths? (table : ByteArray) (metrics glyphs : Nat) : Option Widths := do
  if metrics = 0 ∨ table.size < 4 * metrics then none
  let widths ← (List.range metrics).mapM fun i => shortAt? table (4 * i)
  return ⟨widths.toArray, max metrics glyphs⟩

def Widths.advance? (widths : Widths) (glyph : Nat) : Option Nat :=
  if widths.count ≤ glyph then none else widths.widths[glyph]? <|> widths.widths.back?

/-- A map counts if its characters are those of Unicode. -/
def isUnicode (platform encoding : Nat) : CharacterMap → Bool
  | .segments .. => platform == 0 || platform == 3 && encoding == 1
  | .groups _ => platform == 0 || platform == 3 && (encoding == 1 || encoding == 10)

/-- A map with whether it counts. -/
def mapAt? (table : ByteArray) (i : Nat) : Option (CharacterMap × Bool) := do
  let platform ← shortAt? table (4 + 8 * i)
  let encoding ← shortAt? table (6 + 8 * i)
  let start ← longAt? table (8 + 8 * i)
  if 4 < platform ∨ table.size < start then none
  let map ← CharacterMap.ofTable? (table.extract start table.size)
  return (map, isUnicode platform encoding map)

/-- The maps up to the first that cannot be read. -/
def leadingMaps (table : ByteArray) : List Nat → List (CharacterMap × Bool)
  | [] => []
  | i :: rest =>
      match mapAt? table i with
      | none => []
      | some map => map :: leadingMaps table rest

def unicodeMaps (table : ByteArray) : List CharacterMap :=
  match shortAt? table 2 with
  | none => []
  | some count =>
      if table.size < 4 + 8 * count then []
      else ((leadingMaps table (List.range count)).filter (·.2)).map (·.1)

def orFlaw (flaw : FileFlaw) : Option α → Except FileFlaw α
  | none => .error flaw
  | some a => .ok a

namespace TrueType

def headName : Nat := 0x68656164

def horizontalHeaderName : Nat := 0x68686561

def profileName : Nat := 0x6d617870

def metricsName : Nat := 0x686d7478

def mapName : Nat := 0x636d6170

def parse (data : ByteArray) : Except FileFlaw TrueType := do
  let records ← tableRecords data
  let table (name : Nat) := table? data records name
  let units ← orFlaw .noHead ((table headName).bind unitsPerEm?)
  let metrics ← orFlaw .noHorizontalHeader ((table horizontalHeaderName).bind metricCount?)
  let glyphs ← orFlaw .noProfile ((table profileName).bind glyphCount?)
  return ⟨units, ((table mapName).map unicodeMaps).getD [],
    (table metricsName).bind fun table => widths? table metrics glyphs⟩

/-- Glyph zero stands for no glyph. -/
def glyph? (face : TrueType) (c : Char) : Option Nat :=
  (face.maps.findSome? (·.glyph? c.toNat)).filter (· ≠ 0)

def advanceUnits? (face : TrueType) (c : Char) : Option Nat := do
  let glyph ← face.glyph? c
  let widths ← face.widths
  widths.advance? glyph

end TrueType

end FormatReview.Font
