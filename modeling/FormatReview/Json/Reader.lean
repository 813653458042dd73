import FormatReview.Json.Value

namespace FormatReview.Json

namespace Reader

/-! Reads a JSON value from UTF-8 text, and tells the place of the first error. -/

abbrev Bytes := List UInt8

inductive SyntaxError where
  | endInList
  | endInObject
  | endInString
  | endInValue
  | expectedColon
  | expectedListEnd
  | expectedObjectEnd
  | expectedWord
  | expectedValue
  | invalidEscape
  | invalidNumber
  | numberOutOfRange
  | invalidCodePoint
  | controlCharacter
  | keyNotString
  | loneSurrogate
  | trailingComma
  | trailingCharacters
  | endInHexEscape
  | tooDeep
  deriving DecidableEq, Repr

def SyntaxError.text : SyntaxError → String
  | .endInList => "EOF while parsing a list"
  | .endInObject => "EOF while parsing an object"
  | .endInString => "EOF while parsing a string"
  | .endInValue => "EOF while parsing a value"
  | .expectedColon => "expected `:`"
  | .expectedListEnd => "expected `,` or `]`"
  | .expectedObjectEnd => "expected `,` or `\x7d`"
  | .expectedWord => "expected ident"
  | .expectedValue => "expected value"
  | .invalidEscape => "invalid escape"
  | .invalidNumber => "invalid number"
  | .numberOutOfRange => "number out of range"
  | .invalidCodePoint => "invalid unicode code point"
  | .controlCharacter => "control character (\\u0000-\\u001F) found while parsing a string"
  | .keyNotString => "key must be a string"
  | .loneSurrogate => "lone leading surrogate in hex escape"
  | .trailingComma => "trailing comma"
  | .trailingCharacters => "trailing characters"
  | .endInHexEscape => "unexpected end of hex escape"
  | .tooDeep => "recursion limit exceeded"

/-- An error, and how many bytes of the text lie beyond its place. -/
structure Failure where
  cause : SyntaxError
  unread : Nat
  deriving DecidableEq, Repr

def fail (cause : SyntaxError) (rest : Bytes) : Except Failure α :=
  .error ⟨cause, rest.length⟩

def failAt (cause : SyntaxError) (rest : Bytes) : Except Failure α :=
  .error ⟨cause, rest.length - 1⟩

def byte (c : Char) : UInt8 := c.toNat.toUInt8

def isDigit (b : UInt8) : Bool := byte '0' ≤ b && b ≤ byte '9'

def digitValue (b : UInt8) : Nat := b.toNat - 48

def skipSpace : Bytes → Bytes
  | [] => []
  | b :: rest =>
      if b = byte ' ' || b = byte '\n' || b = byte '\t' || b = byte '\r' then skipSpace rest
      else b :: rest

def wordTail : List Char → Bytes → Except Failure (Bytes)
  | [], rest => .ok rest
  | _ :: _, [] => fail .endInValue []
  | c :: cs, b :: rest => if b = byte c then wordTail cs rest else fail .expectedWord rest

/-! Numbers. Digits gather in a significand of 64 bits; those that no longer fit only count. -/

def wordLimit : Nat := UInt64.size - 1

/-- A whole number of at most 64 bits scaled by a power of ten, in steps of at most 308 places. -/
def scale (fuel : Nat) (x : Float) (exponent : Int) : Option Float :=
  match fuel with
  | 0 => some x
  | fuel + 1 =>
      if exponent.natAbs ≤ 308 then
        let power := Float.ofScientific 1 false exponent.natAbs
        if 0 ≤ exponent then
          if (x * power).isInf then none else some (x * power)
        else some (x / power)
      else if x == 0 then some x
      else if 0 ≤ exponent then none
      else scale fuel (x / 1e308) (exponent + 308)

def realOf (negative : Bool) (significand : Nat) (exponent : Int) (rest : Bytes) :
    Except Failure (Number × Bytes) :=
  match scale 4 (Float.ofNat significand) exponent with
  | none => fail .numberOutOfRange rest
  | some x => .ok (.real (if negative then -x else x), rest)

/-- The digits of an exponent, which stays below `2 ^ 31`; a greater one gives zero or an error. -/
def exponentDigits (negative : Bool) (significand : Nat) (start : Int) (below : Bool)
    (sofar : Nat) : Bytes → Except Failure (Number × Bytes)
  | [] => realOf negative significand (if below then start - sofar else start + sofar) []
  | b :: rest =>
      if isDigit b then
        let next := sofar * 10 + digitValue b
        if next < UInt32.size / 2 then exponentDigits negative significand start below next rest
        else if significand ≠ 0 && !below then fail .numberOutOfRange rest
        else .ok (.real (if negative then -0.0 else 0.0), rest.dropWhile isDigit)
      else
        realOf negative significand (if below then start - sofar else start + sofar) (b :: rest)

def exponentPart (negative : Bool) (significand : Nat) (start : Int) (text : Bytes) :
    Except Failure (Number × Bytes) :=
  let (below, digits) : Bool × Bytes :=
    match text with
    | [] => (false, [])
    | b :: rest =>
        if b = byte '+' then (false, rest)
        else if b = byte '-' then (true, rest)
        else (false, b :: rest)
  match digits with
  | [] => fail .endInValue []
  | b :: rest =>
      if isDigit b then exponentDigits negative significand start below (digitValue b) rest
      else fail .invalidNumber rest

def realEnd (negative : Bool) (significand : Nat) (exponent : Int) :
    Bytes → Except Failure (Number × Bytes)
  | [] => realOf negative significand exponent []
  | b :: rest =>
      if b = byte 'e' || b = byte 'E' then exponentPart negative significand exponent rest
      else realOf negative significand exponent (b :: rest)

def fractionPart (negative : Bool) (significand : Nat) (before : Int) (places : Nat) :
    Bytes → Except Failure (Number × Bytes)
  | [] =>
      if places = 0 then failAt .endInValue []
      else realOf negative significand (before - places) []
  | b :: rest =>
      if isDigit b then
        let next := significand * 10 + digitValue b
        if next ≤ wordLimit then fractionPart negative next before (places + 1) rest
        else realEnd negative significand (before - places) (rest.dropWhile isDigit)
      else if places = 0 then failAt .invalidNumber (b :: rest)
      else realEnd negative significand (before - places) (b :: rest)

/-- The end of a number whose integer part has `extra` digits beyond the significand. -/
def longNumber (negative : Bool) (significand : Nat) (extra : Nat) :
    Bytes → Except Failure (Number × Bytes)
  | [] => realOf negative significand extra []
  | b :: rest =>
      if isDigit b then longNumber negative significand (extra + 1) rest
      else if b = byte '.' then fractionPart negative significand extra 0 rest
      else realEnd negative significand extra (b :: rest)

/-- A whole number as it is kept. Minus zero, and what no word holds, become floating point. -/
def wholeNumber (negative : Bool) (significand : Nat) : Number :=
  if !negative then .int significand
  else if significand = 0 || UInt64.size / 2 < significand then .real (-(Float.ofNat significand))
  else .int (-significand)

def numberEnd (negative : Bool) (significand : Nat) : Bytes → Except Failure (Number × Bytes)
  | [] => .ok (wholeNumber negative significand, [])
  | b :: rest =>
      if b = byte '.' then fractionPart negative significand 0 0 rest
      else if b = byte 'e' || b = byte 'E' then exponentPart negative significand 0 rest
      else .ok (wholeNumber negative significand, b :: rest)

def integerDigits (negative : Bool) (significand : Nat) : Bytes → Except Failure (Number × Bytes)
  | [] => numberEnd negative significand []
  | b :: rest =>
      if isDigit b then
        let next := significand * 10 + digitValue b
        if next ≤ wordLimit then integerDigits negative next rest
        else longNumber negative significand 0 (b :: rest)
      else numberEnd negative significand (b :: rest)

/-- A number behind its sign. A leading zero stands alone. -/
def number (negative : Bool) : Bytes → Except Failure (Number × Bytes)
  | [] => fail .endInValue []
  | b :: rest =>
      if b = byte '0' then
        match rest with
        | [] => numberEnd negative 0 []
        | c :: more =>
            if isDigit c then failAt .invalidNumber (c :: more)
            else numberEnd negative 0 (c :: more)
      else if isDigit b then integerDigits negative (digitValue b) rest
      else fail .invalidNumber rest

/-! Strings. -/

def hexValue? (b : UInt8) : Option Nat :=
  if isDigit b then some (digitValue b)
  else if byte 'a' ≤ b && b ≤ byte 'f' then some (b.toNat - 87)
  else if byte 'A' ≤ b && b ≤ byte 'F' then some (b.toNat - 55)
  else none

def fourHex : Bytes → Except Failure (Nat × Bytes)
  | a :: b :: c :: d :: rest =>
      match hexValue? a, hexValue? b, hexValue? c, hexValue? d with
      | some a, some b, some c, some d => .ok (((a * 16 + b) * 16 + c) * 16 + d, rest)
      | _, _, _, _ => fail .invalidEscape rest
  | _ => fail .endInString []

def utf8 (point : Nat) : Bytes := String.utf8EncodeChar (Char.ofNat point)

/-- The second half of a surrogate pair. -/
def lowSurrogate (high : Nat) (text : Bytes) : Except Failure (Bytes × Bytes) :=
  match text with
  | [] => fail .endInString []
  | b :: rest =>
      if b ≠ byte '\\' then fail .endInHexEscape rest
      else
        match rest with
        | [] => fail .endInString []
        | c :: rest =>
            if c ≠ byte 'u' then fail .endInHexEscape rest
            else do
              let (low, rest) ← fourHex rest
              if low < 0xdc00 || 0xdfff < low then fail .loneSurrogate rest
              else .ok (utf8 ((high - 0xd800) * 0x400 + (low - 0xdc00) + 0x10000), rest)

def unicodeEscape (text : Bytes) : Except Failure (Bytes × Bytes) := do
  let (unit, rest) ← fourHex text
  if 0xdc00 ≤ unit && unit ≤ 0xdfff then fail .loneSurrogate rest
  else if unit < 0xd800 || 0xdbff < unit then .ok (utf8 unit, rest)
  else lowSurrogate unit rest

/-- The bytes that an escape stands for, read behind its backslash. -/
def escape : Bytes → Except Failure (Bytes × Bytes)
  | [] => fail .endInString []
  | b :: rest =>
      if b = byte '"' || b = byte '\\' || b = byte '/' then .ok ([b], rest)
      else if b = byte 'b' then .ok ([8], rest)
      else if b = byte 'f' then .ok ([12], rest)
      else if b = byte 'n' then .ok ([10], rest)
      else if b = byte 'r' then .ok ([13], rest)
      else if b = byte 't' then .ok ([9], rest)
      else if b = byte 'u' then unicodeEscape rest
      else fail .invalidEscape rest

def textOf? (reversed : Bytes) : Option String :=
  String.fromUTF8? (ByteArray.mk reversed.reverse.toArray)

def stringTail (fuel : Nat) (reversed : Bytes) (text : Bytes) : Except Failure (String × Bytes) :=
  match fuel, text with
  | 0, rest => fail .endInString rest
  | _, [] => fail .endInString []
  | fuel + 1, b :: rest =>
      if b = byte '"' then
        match textOf? reversed with
        | some s => .ok (s, rest)
        | none => fail .invalidCodePoint rest
      else if b = byte '\\' then do
        let (bytes, rest) ← escape rest
        stringTail fuel (bytes.reverse ++ reversed) rest
      else if b < 0x20 then fail .controlCharacter rest
      else stringTail fuel (b :: reversed) rest

/-! Values. The depth counts the levels that may still be opened, plus one. -/

mutual
def value (fuel depth : Nat) (text : Bytes) : Except Failure (Json × Bytes) :=
  match fuel with
  | 0 => fail .endInValue text
  | fuel + 1 =>
      match skipSpace text with
      | [] => failAt .endInValue []
      | b :: rest =>
          if b = byte 'n' then do
            return (.null, ← wordTail ['u', 'l', 'l'] rest)
          else if b = byte 't' then do
            return (.bool true, ← wordTail ['r', 'u', 'e'] rest)
          else if b = byte 'f' then do
            return (.bool false, ← wordTail ['a', 'l', 's', 'e'] rest)
          else if b = byte '-' then do
            let (n, rest) ← number true rest
            return (.number n, rest)
          else if isDigit b then do
            let (n, rest) ← number false (b :: rest)
            return (.number n, rest)
          else if b = byte '"' then do
            let (s, rest) ← stringTail fuel [] rest
            return (.string s, rest)
          else if b = byte '[' then
            if depth ≤ 1 then failAt .tooDeep (b :: rest)
            else do
              let (items, rest) ← items fuel (depth - 1) true rest
              return (.array items, rest)
          else if b = byte '\x7b' then
            if depth ≤ 1 then failAt .tooDeep (b :: rest)
            else do
              let (fields, rest) ← fields fuel (depth - 1) true rest
              return (.object fields, rest)
          else failAt .expectedValue (b :: rest)

def items (fuel depth : Nat) (first : Bool) (text : Bytes) : Except Failure (List Json × Bytes) :=
  match fuel with
  | 0 => fail .endInList text
  | fuel + 1 =>
      match skipSpace text with
      | [] => failAt .endInList []
      | b :: rest =>
          if b = byte ']' then .ok ([], rest)
          else if first then do
            let (item, rest) ← value fuel depth (b :: rest)
            let (more, rest) ← items fuel depth false rest
            return (item :: more, rest)
          else if b = byte ',' then
            match skipSpace rest with
            | [] => failAt .endInValue []
            | c :: rest =>
                if c = byte ']' then failAt .trailingComma (c :: rest)
                else do
                  let (item, rest) ← value fuel depth (c :: rest)
                  let (more, rest) ← items fuel depth false rest
                  return (item :: more, rest)
          else failAt .expectedListEnd (b :: rest)

def fields (fuel depth : Nat) (first : Bool) (text : Bytes) :
    Except Failure (List (String × Json) × Bytes) :=
  match fuel with
  | 0 => fail .endInObject text
  | fuel + 1 =>
      match skipSpace text with
      | [] => failAt .endInObject []
      | b :: rest =>
          if b = byte '\x7d' then .ok ([], rest)
          else if first then
            if b = byte '"' then field fuel depth rest else failAt .keyNotString (b :: rest)
          else if b = byte ',' then
            match skipSpace rest with
            | [] => failAt .endInValue []
            | c :: rest =>
                if c = byte '"' then field fuel depth rest
                else if c = byte '\x7d' then failAt .trailingComma (c :: rest)
                else failAt .keyNotString (c :: rest)
          else failAt .expectedObjectEnd (b :: rest)

/-- A field behind the quote that opens its name, and the fields that follow it. -/
def field (fuel depth : Nat) (text : Bytes) : Except Failure (List (String × Json) × Bytes) :=
  match fuel with
  | 0 => fail .endInObject text
  | fuel + 1 => do
      let (name, rest) ← stringTail fuel [] text
      match skipSpace rest with
      | [] => failAt .endInObject []
      | b :: rest =>
          if b = byte ':' then do
            let (item, rest) ← value fuel depth rest
            let (more, rest) ← fields fuel depth false rest
            return ((name, item) :: more, rest)
          else failAt .expectedColon (b :: rest)
end

def wholeText (text : Bytes) : Except Failure Json := do
  let (v, rest) ← value (3 * text.length + 3) 128 text
  match skipSpace rest with
  | [] => return v
  | b :: rest => failAt .trailingCharacters (b :: rest)

/-- A syntax error with the line and the column, both from one, of the last byte read. -/
structure ReadError where
  cause : SyntaxError
  line : Nat
  column : Nat
  deriving DecidableEq, Repr

def ReadError.text (e : ReadError) : String :=
  e.cause.text ++ " at line " ++ toString e.line ++ " column " ++ toString e.column

def Failure.located (f : Failure) (text : Bytes) : ReadError :=
  let before := text.take (text.length - f.unread)
  ⟨f.cause, 1 + before.count (byte '\n'), (before.reverse.takeWhile (· ≠ byte '\n')).length⟩

end Reader

def parse (text : ByteArray) : Except Reader.ReadError Json :=
  (Reader.wholeText text.data.toList).mapError (·.located text.data.toList)

end FormatReview.Json
