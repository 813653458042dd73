import FormatReview.Web.Domain

namespace FormatReview.Web

/-! Web addresses and their normal form. -/

def splitBefore (stops : List Char) (text : List Char) : List Char × List Char :=
  text.span fun c => !stops.contains c

def hexValue? (c : Char) : Option Nat :=
  if '0' ≤ c ∧ c ≤ '9' then some (c.toNat - 0x30)
  else if 'a' ≤ c ∧ c ≤ 'f' then some (c.toNat - 0x61 + 10)
  else if 'A' ≤ c ∧ c ≤ 'F' then some (c.toNat - 0x41 + 10)
  else none

def upperHex (n : Nat) : Char := if n < 10 then Char.ofNat (0x30 + n) else Char.ofNat (0x37 + n)

def percentByte (b : UInt8) : List Char := ['%', upperHex (b.toNat / 16), upperHex (b.toNat % 16)]

/-- Writes the characters of a set, all controls and all beyond ASCII as bytes. -/
def percentEncode (set : List Char) (text : List Char) : List Char :=
  text.flatMap fun c =>
    if c.toNat < 0x20 || 0x7f ≤ c.toNat || set.contains c then
      (String.singleton c).toUTF8.data.toList.flatMap percentByte
    else [c]

def percentBytes : List Char → List UInt8
  | '%' :: a :: b :: rest =>
      match hexValue? a, hexValue? b with
      | some high, some low => UInt8.ofNat (16 * high + low) :: percentBytes rest
      | _, _ => (String.singleton '%').toUTF8.data.toList ++ percentBytes (a :: b :: rest)
  | c :: rest => (String.singleton c).toUTF8.data.toList ++ percentBytes rest
  | [] => []

/-! Hosts. -/

def forbiddenInHost (c : Char) : Bool :=
  c.toNat ≤ 0x20 || c.toNat = 0x7f ||
    ['#', '%', '/', ':', '<', '>', '?', '@', '[', '\\', ']', '^', '|'].contains c

def readDigits (base : Nat) (digits : List Char) : Option Nat :=
  digits.foldlM
    (fun n c => (hexValue? c).bind fun d => if d < base then some (base * n + d) else none) 0

/-- A part of a numeric host: hexadecimal, octal or decimal. -/
def hostNumber? : List Char → Option Nat
  | [] => none
  | ['0', 'x'] => some 0
  | '0' :: 'x' :: rest => readDigits 16 rest
  | '0' :: c :: rest => readDigits 8 (c :: rest)
  | digits => readDigits 10 digits

def hostParts (host : List Char) : List (List Char) :=
  match (Domain.labels host).reverse with
  | [] :: more => if more.isEmpty then [[]] else more.reverse
  | parts => parts.reverse

def endsInNumber (host : List Char) : Bool :=
  match (hostParts host).getLast? with
  | none => false
  | some last => !last.isEmpty && (last.all Char.isDigit || (hostNumber? last).isSome)

/-- The last part fills all bytes that the parts before it leave. -/
def numericHost? (host : List Char) : Option Nat := do
  let parts ← (hostParts host).mapM hostNumber?
  let front := parts.dropLast
  let last ← parts.getLast?
  if parts.length ≤ 4 && front.all (· < 256) && last < Nat.pow 256 (5 - parts.length) then
    return front.zipIdx.foldl (fun n part => n + part.1 * Nat.pow 256 (3 - part.2)) last
  else none

def dotted (n : Nat) : List Char :=
  let part (shift : Nat) := Nat.toDigits 10 (n / Nat.pow 256 shift % 256)
  ['.'].intercalate [part 3, part 2, part 1, part 0]

/-! Hosts in brackets are eight groups of hexadecimal digits, of which a run of zeros may be left
out. -/

def groupsOf : List Char → List (List Char)
  | [] => [[]]
  | c :: rest =>
      if c = ':' then [] :: groupsOf rest
      else
        match groupsOf rest with
        | [] => [[c]]
        | first :: more => (c :: first) :: more

/-- A number of a numeric host in brackets, which has no needless zero. -/
def byteValue? (digits : List Char) : Option Nat :=
  if digits.isEmpty || !digits.all Char.isDigit || (digits.head? = some '0' && 1 < digits.length) then
    none
  else (readDigits 10 digits).filter (· < 256)

def groupValue? (group : List Char) : Option Nat :=
  if group.isEmpty || 4 < group.length then none else readDigits 16 group

/-- A numeric host may stand for the last two groups. -/
def lastValues? (group : List Char) : Option (List Nat) :=
  if group.contains '.' then do
    match ← (Domain.labels group).mapM byteValue? with
    | [a, b, c, d] => return [256 * a + b, 256 * c + d]
    | _ => none
  else (groupValue? group).map fun n => [n]

def groupValues? : List (List Char) → Option (List Nat)
  | [] => some []
  | [group] => lastValues? group
  | group :: rest => do return (← groupValue? group) :: (← groupValues? rest)

def splitGap : List Char → Option (List Char × List Char)
  | ':' :: ':' :: rest => some ([], rest)
  | c :: rest => (splitGap rest).map fun parts => (c :: parts.1, parts.2)
  | [] => none

def groups? (text : List Char) : Option (List Nat) :=
  match splitGap text with
  | none => (groupValues? (groupsOf text)).filter (·.length == 8)
  | some (front, back) => do
      let before ← if front.isEmpty then some [] else (groupsOf front).mapM groupValue?
      let behind ← if back.isEmpty then some [] else groupValues? (groupsOf back)
      if before.length + behind.length ≤ 7 then
        return before ++ List.replicate (8 - before.length - behind.length) 0 ++ behind
      else none

/-- The length of the run of zeros at each place, the longest of them and where it starts. -/
def zeroRun (groups : List Nat) : Nat := (groups.takeWhile (· == 0)).length

def longestZeros (groups : List Nat) : Nat × Nat :=
  (List.range groups.length).foldl
    (fun best start =>
      let run := zeroRun (groups.drop start)
      if best.2 < run then (start, run) else best)
    (0, 1)

def groupsText (groups : List Nat) : List Char :=
  let write (part : List Nat) := [':'].intercalate (part.map (Nat.toDigits 16))
  let (start, run) := longestZeros groups
  if 2 ≤ run then write (groups.take start) ++ [':', ':'] ++ write (groups.drop (start + run))
  else write groups

def namedHost? (text : List Char) : Option (List Char) := do
  let decoded ← String.fromUTF8? ⟨(percentBytes text).toArray⟩
  let name ← Domain.ascii? decoded.toList
  if name.isEmpty || name.any forbiddenInHost then none
  else if endsInNumber name then (numericHost? name).map dotted
  else some name

def host? : List Char → Option (List Char)
  | '[' :: rest =>
      if rest.getLast? = some ']' then
        (groups? rest.dropLast).map fun groups => '[' :: groupsText groups ++ [']']
      else none
  | text => namedHost? text

/-! Paths of addresses. -/

def isHere (segment : List Char) : Bool :=
  [".", "%2e"].contains (String.ofList (segment.map Char.toLower))

def isUp (segment : List Char) : Bool :=
  ["..", ".%2e", "%2e.", "%2e%2e"].contains (String.ofList (segment.map Char.toLower))

def isDrive : List Char → Bool
  | [letter, mark] => letter.isAlpha && (mark = ':' || mark = '|')
  | _ => false

/-- A step up takes the last segment away, unless that is a drive. -/
def stepUp : List (List Char) → List (List Char)
  | [] => []
  | segment :: above => if isDrive segment then segment :: above else above

/-- The segments behind the leading slash; a step up or in place at the end leaves an empty one. -/
def climb (done : List (List Char)) : List (List Char) → List (List Char)
  | [] => done.reverse
  | segment :: rest =>
      if isUp segment then
        climb (if rest.isEmpty then [] :: stepUp done else stepUp done) rest
      else if isHere segment then
        climb (if rest.isEmpty then [] :: done else done) rest
      else climb (segment :: done) rest

def segments : List Char → List (List Char)
  | [] => [[]]
  | c :: rest =>
      if c = '/' || c = '\\' then [] :: segments rest
      else
        match segments rest with
        | [] => [[c]]
        | first :: more => (c :: first) :: more

def pathSet : List Char := [' ', '"', '#', '<', '>', '?', '\x60', '\x7b', '\x7d']

def querySet : List Char := [' ', '"', '#', '<', '>', '\'']

def fragmentSet : List Char := [' ', '"', '<', '>', '\x60']

def userSet : List Char := pathSet ++ ['/', ':', ';', '=', '@', '[', '\\', ']', '^', '|']

def pathText (text : List Char) : List Char :=
  '/' :: ['/'].intercalate ((climb [] (segments (text.drop 1))).map (percentEncode pathSet))

/-! Whole addresses. -/

structure Scheme where
  name : String
  standard : Nat
  deriving DecidableEq

def schemes : List Scheme := [⟨"http", 80⟩, ⟨"https", 443⟩]

/-- The scheme that a text starts with, and what follows its colon and slashes. -/
def scheme? (text : List Char) : Option (Scheme × List Char) :=
  let (name, rest) := splitBefore [':'] text
  match schemes.find? (·.name = String.ofList (name.map Char.toLower)), rest with
  | some scheme, ':' :: rest => some (scheme, rest.dropWhile fun c => c = '/' || c = '\\')
  | _, _ => none

/-- The authority before and from the colon behind its host, outside of brackets. -/
def splitNumber (text : List Char) : List Char × List Char :=
  match text with
  | '[' :: _ =>
      let (front, back) := splitBefore [']'] text
      (front ++ back.take 1, back.drop 1)
  | _ => splitBefore [':'] text

/-- The number behind a colon, unless it is the standard one. -/
def number? (standard : Nat) : List Char → Option (Option Nat)
  | [] => some none
  | [':'] => some none
  | ':' :: digits =>
      if digits.all Char.isDigit then
        match readDigits 10 digits with
        | none => none
        | some n => if 65535 < n then none else some (if n = standard then none else some n)
      else none
  | _ => none

/-- What stands before the last at sign, and what follows it. -/
def splitUser (authority : List Char) : List Char × List Char :=
  let host := (authority.reverse.takeWhile (· != '@')).reverse
  (authority.take (authority.length - host.length - 1), host)

def isText (encoded : List Char) : Bool :=
  (String.fromUTF8? ⟨(percentBytes encoded).toArray⟩).isSome

/-- What an address keeps of its user and password: nothing, unless the name cannot be read as a text,
or there is only a password and that cannot. -/
def userLeft (user : List Char) : List Char :=
  let (name, password) := splitBefore [':'] user
  let readable := isText name && (!name.isEmpty || isText (password.drop 1))
  if readable then []
  else
    percentEncode userSet name ++
      (if password.length ≤ 1 then [] else ':' :: percentEncode userSet (password.drop 1)) ++ ['@']

/-- What follows a mark, encoded. -/
def tail? (set : List Char) : List Char → Option (List Char)
  | [] => none
  | _ :: rest => some (percentEncode set rest)

/-- Blanks around an address and line ends within it do not count. -/
def tidy (text : String) : List Char :=
  let front := text.toList.dropWhile (·.toNat ≤ 0x20)
  (front.reverse.dropWhile (·.toNat ≤ 0x20)).reverse.filter fun c =>
    !(['\t', '\n', '\r'].contains c)

/-- A web address in its normal form: lower case host, no standard number, a path, and nothing
unencoded. There is no user, unless it could not be read. -/
structure Address where
  scheme : Scheme
  user : List Char
  host : List Char
  number : Option Nat
  path : List Char
  query : Option (List Char)
  fragment : Option (List Char)
  deriving DecidableEq

namespace Address

def ofText? (text : String) : Option Address := do
  let (scheme, rest) ← scheme? (tidy text)
  let (authority, rest) := splitBefore ['/', '\\', '?', '#'] rest
  let (user, named) := splitUser authority
  let (hostPart, numberPart) := splitNumber named
  let host ← host? hostPart
  let number ← number? scheme.standard numberPart
  let (path, rest) := splitBefore ['?', '#'] rest
  let (query, fragment) := splitBefore ['#'] rest
  return ⟨scheme, userLeft user, host, number, pathText path, tail? querySet query,
    tail? fragmentSet fragment⟩

def marked (mark : Char) : Option (List Char) → List Char
  | none => []
  | some text => mark :: text

def authority (address : Address) : String :=
  String.ofList (address.host ++ marked ':' (address.number.map (Nat.toDigits 10)))

def target (address : Address) : String :=
  String.ofList (address.path ++ marked '?' address.query)

def text (address : Address) : String :=
  address.scheme.name ++ "://" ++ String.ofList address.user ++ address.authority ++
    address.target ++ String.ofList (marked '#' address.fragment)

/-- The address at the end of an error. -/
def mention (address : Address) : String := " for url (" ++ address.text ++ ")"

def longestText : Nat := 65534

/-- An address that can be asked for: not too long, and its host without quotes and braces. -/
def isUsable (address : Address) : Bool :=
  address.text.utf8ByteSize ≤ longestText &&
    !address.host.any fun c => ['"', '\x60', '\x7b', '\x7d'].contains c

end Address

end FormatReview.Web
