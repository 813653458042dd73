import FormatReview.Font.Bytes

namespace FormatReview.Font

/-! Tables that lead from characters to glyphs, in the two forms that modern fonts use. -/

/-- A run of characters with a glyph each. An `offset` that is not zero leads to a list of glyphs,
to whose entries `delta` is added. -/
structure Segment where
  first : Nat
  last : Nat
  delta : Nat
  offset : Nat
  deriving DecidableEq, Repr

/-- A run of characters whose glyphs follow one another. -/
structure Group where
  first : Nat
  last : Nat
  glyph : Nat
  deriving DecidableEq, Repr

inductive CharacterMap where
  | segments (table : ByteArray) (runs : Array Segment)
  | groups (runs : Array Group)

def Segment.glyph? (segment : Segment) (table : ByteArray) (count i code : Nat) : Option Nat :=
  if segment.offset = 0 then some ((code + segment.delta) % 0x10000)
  else if segment.offset = 0xffff then none
  else
    let step := 2 * (code - segment.first)
    if 0xffff < step then none
    else
      match shortAt? table ((16 + 6 * count + 2 * i + step + segment.offset) % 0x10000) with
      | none => none
      | some 0 => none
      | some entry =>
          let glyph := (entry + segment.delta) % 0x10000
          if signed glyph < 0 then none else some glyph

def Group.glyph? (group : Group) (code : Nat) : Option Nat :=
  let glyph := group.glyph + code - group.first
  if group.first ≤ code ∧ code ≤ group.last ∧ group.glyph + code < UInt32.size ∧
      glyph < 0x10000 then
    some glyph
  else none

namespace CharacterMap

def segment? (table : ByteArray) (count i : Nat) : Option Segment := do
  let last ← shortAt? table (14 + 2 * i)
  let first ← shortAt? table (16 + 2 * count + 2 * i)
  let delta ← shortAt? table (16 + 4 * count + 2 * i)
  let offset ← shortAt? table (16 + 6 * count + 2 * i)
  return ⟨first, last, delta, offset⟩

def ofSegments? (table : ByteArray) : Option CharacterMap := do
  let count := (← shortAt? table 6) / 2
  if count = 0 then none
  let segments ← (List.range count).mapM (segment? table count)
  return .segments table segments.toArray

def group? (table : ByteArray) (i : Nat) : Option Group := do
  let first ← longAt? table (16 + 12 * i)
  let last ← longAt? table (20 + 12 * i)
  let glyph ← longAt? table (24 + 12 * i)
  return ⟨first, last, glyph⟩

def ofGroups? (table : ByteArray) : Option CharacterMap := do
  let count ← longAt? table 12
  if table.size < 16 + 12 * count then none
  let groups ← (List.range count).mapM (group? table)
  return .groups groups.toArray

def ofTable? (table : ByteArray) : Option CharacterMap := do
  match ← shortAt? table 0 with
  | 4 => ofSegments? table
  | 12 => ofGroups? table
  | _ => none

/-- The segment that a search by halves finds, and its place. -/
def findSegment (segments : Array Segment) (code low high : Nat) : Option (Nat × Segment) :=
  if low < high then
    match segments[(low + high) / 2]? with
    | none => none
    | some segment =>
        if code ≤ segment.last then
          if code < segment.first then findSegment segments code low ((low + high) / 2)
          else some ((low + high) / 2, segment)
        else findSegment segments code ((low + high) / 2 + 1) high
  else none
termination_by high - low

/-- The group that a search by halves ends at. -/
def findGroup (groups : Array Group) (code base size : Nat) : Option Group :=
  if 1 < size then
    match groups[base + size / 2]? with
    | none => none
    | some group =>
        findGroup groups code (if code < group.first then base else base + size / 2)
          (size - size / 2)
  else groups[base]?
termination_by size

def glyph? : CharacterMap → Nat → Option Nat
  | .segments table runs, code =>
      if 0xffff < code then none
      else
        (findSegment runs code 0 runs.size).bind fun found =>
          found.2.glyph? table runs.size found.1 code
  | .groups runs, code => (findGroup runs code 0 runs.size).bind fun group => group.glyph? code

end CharacterMap

end FormatReview.Font
