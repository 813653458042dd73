import FormatReview.Upload.Exchange

namespace FormatReview.Upload

/-! An exchange in bytes: a form with one file on the way out, a reply with its head and body on the
way back. -/

def lineEnd : String := "\r\n"

/-! The form. -/

/-- The set kept out of names, beside controls and all beyond ASCII. -/
def nameSet : List Char := [' ', '"', '#', '<', '>', '?', '\x60', '\x7b', '\x7d', '/', '%']

/-- A field name stands as it is, or encoded behind a note of its encoding. -/
def fieldText (name : String) : String :=
  let encoded := String.ofList (Web.percentEncode nameSet name.toList)
  if encoded = name then "name=\"" ++ name ++ "\"" else "name*=utf-8''" ++ encoded

def escapedChar (c : Char) : List Char :=
  if ['\\', '"', '\r', '\n'].contains c then ['\\', c] else [c]

def escaped (name : String) : String := String.ofList (name.toList.flatMap escapedChar)

namespace Request

def formStart (request : Request) (boundary : String) : ByteArray :=
  String.toUTF8 ("--" ++ boundary ++ lineEnd ++
    "Content-Disposition: form-data; " ++ fieldText request.fieldName ++
    "; filename=\"" ++ escaped request.fileName ++ "\"" ++ lineEnd ++
    "Content-Type: " ++ request.mediaType ++ lineEnd ++ lineEnd)

def formEnd (boundary : String) : ByteArray :=
  String.toUTF8 (lineEnd ++ "--" ++ boundary ++ "--" ++ lineEnd)

def formSize (request : Request) (boundary : String) : Nat :=
  (request.formStart boundary).size + byteCount request.chunks + (formEnd boundary).size

def head (request : Request) (boundary : String) : ByteArray :=
  String.toUTF8 ("POST " ++ request.address.target ++ " HTTP/1.1" ++ lineEnd ++
    "Content-Type: multipart/form-data; boundary=" ++ boundary ++ lineEnd ++
    "Content-Length: " ++ toString (request.formSize boundary) ++ lineEnd ++
    "Accept: */*" ++ lineEnd ++
    "Host: " ++ request.address.authority ++ lineEnd ++
    "Connection: close" ++ lineEnd ++ lineEnd)

end Request

/-! The reply. -/

def latin (bytes : List UInt8) : List Char := bytes.map fun b => Char.ofNat b.toNat

/-- The lines of the head, and the bytes behind the empty line that ends it. -/
def splitHead (line : List UInt8) : List UInt8 → List (List UInt8) × List UInt8
  | [] => ([line.reverse], [])
  | 0x0d :: 0x0a :: rest =>
      if line.isEmpty then ([], rest)
      else
        let (lines, body) := splitHead [] rest
        (line.reverse :: lines, body)
  | b :: rest => splitHead (b :: line) rest

/-- The number behind the first blank of a line. -/
def status? (line : List Char) : Option UInt16 :=
  let digits := ((line.dropWhile (· != ' ')).drop 1).takeWhile Char.isDigit
  if digits.isEmpty then none
  else some (UInt16.ofNat (digits.foldl (fun n c => 10 * n + (c.toNat - 0x30)) 0))

def header (line : List Char) : String × String :=
  let (name, value) := line.span (· != ':')
  (String.ofList (name.map Char.toLower), String.ofList ((value.drop 1).dropWhile (· == ' ')))

def sizeOf? (digits : List Char) : Option Nat :=
  if digits.isEmpty then none
  else digits.foldlM (fun n c => (Web.hexValue? c).map fun d => 16 * n + d) 0

/-- The bytes of a body in chunks, unless it breaks off. Each chunk follows a line with its size,
and one without bytes comes last. -/
def joinChunks (bytes : List UInt8) : Option (List UInt8) :=
  let rest := (bytes.dropWhile (· != 0x0a)).drop 1
  match sizeOf? ((latin bytes).takeWhile fun c => (Web.hexValue? c).isSome) with
  | none => none
  | some 0 => some []
  | some (n + 1) =>
      if rest.length ≤ n then none
      else (joinChunks (rest.drop (n + 3))).map (rest.take (n + 1) ++ ·)
termination_by bytes.length
decreasing_by
  have := (List.dropWhile_suffix (· != 0x0a) (l := bytes)).length_le
  simp only [rest, List.length_drop] at *
  omega

/-- The body that the headers announce, unless it breaks off. -/
def body? (headers : List (String × String)) (bytes : List UInt8) : Option (List UInt8) :=
  if headers.lookup "transfer-encoding" = some "chunked" then joinChunks bytes
  else
    match (headers.lookup "content-length").bind String.toNat? with
    | none => some bytes
    | some size => if bytes.length < size then none else some (bytes.take size)

/-- The reply in the bytes that came before the connection was closed. -/
def Reply.ofBytes (bytes : ByteArray) : Reply :=
  let (lines, rest) := splitHead [] bytes.data.toList
  match lines.map latin with
  | [] => .unanswered
  | first :: more =>
      match status? first, body? (more.map header) rest with
      | none, _ => .unanswered
      | some status, none => .cutShort status
      | some status, some body => .complete status ⟨body.toArray⟩

end FormatReview.Upload
