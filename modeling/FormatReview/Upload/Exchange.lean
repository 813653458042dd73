import FormatReview.Json.Reader
import FormatReview.Review.Response
import FormatReview.Settings
import FormatReview.Storage
import FormatReview.Upload.Failure
import FormatReview.Upload.Telling
import FormatReview.Web.Address
import FormatReview.Web.MediaType
import FormatReview.Web.Status

namespace FormatReview.Upload

/-! One exchange with the service: the file is read, sent in chunks, and answered with JSON. -/

def chunkSize : Nat := 16384

/-- The file cut into full chunks and a last one that may be shorter. -/
def chunks (content : ByteArray) : List ByteArray :=
  (List.range ((content.size + chunkSize - 1) / chunkSize)).map fun i =>
    content.extract (i * chunkSize) (i * chunkSize + chunkSize)

def byteCount (chunks : List ByteArray) : Nat :=
  chunks.foldr (fun chunk count => chunk.size + count) 0

@[simp] theorem byteCount_nil : byteCount [] = 0 := rfl

@[simp] theorem byteCount_cons (chunk : ByteArray) (rest : List ByteArray) :
    byteCount (chunk :: rest) = chunk.size + byteCount rest := rfl

/-- A file on its way to the service, as one part of a form. -/
structure Request where
  url : String
  address : Web.Address
  fieldName : String
  fileName : String
  mediaType : String
  chunks : List ByteArray

/-- What comes back. Only a complete answer has a body; where the service cannot be reached, or
drops the connection, there is none. -/
inductive Reply where
  | unanswered
  | late
  | cutShort (status : UInt16)
  | complete (status : UInt16) (body : ByteArray)

/-- The service takes a number of chunks before the upload ends with the reply. The reply may be
complete earlier, so the turns say how the two tasks went on beside each other. Once the upload has
ended no chunk is taken, and none is still being told of. -/
structure Reaction where
  pulled : Nat
  reply : Reply
  turns : List Turn

abbrev Service := Request → Reaction

structure Exchange where
  request : Option Request
  signals : List Signal
  outcome : Except Fault Json

def unreadable (path url : String) : Storage.Problem → Fault
  | .missing => .fileNotFound path
  | problem => .uploadFailed url none ("could not read '" ++ path ++ "': " ++ problem.text)

/-- Reads at most as much as the limit allows; a file that reaches it is not sent. -/
def readFile (limit : UInt64) (candidate : Candidate) (url : String) (storage : Storage) :
    Except Fault ByteArray := do
  let content ← (storage.read (Path.ofText candidate.path)).mapError (unreadable candidate.path url)
  let taken := content.extract 0 limit.toNat
  if limit.toNat ≤ taken.size then
    .error (.intakeRejected (.tooLarge candidate.name (UInt64.ofNat taken.size) limit))
  else return taken

def unsendable : String := "builder error"

/-- The request for a candidate, which needs a readable file, a media type and an address. -/
def prepare (settings : Settings) (candidate : Candidate) (kind : DocumentKind)
    (storage : Storage) : Except Fault Request := do
  let url := settings.endpoints.urlFor kind
  let content ← readFile settings.limit candidate url storage
  if !Web.isMediaType candidate.mediaType then
    .error (.uploadFailed url none
      ("invalid MIME type '" ++ candidate.mediaType ++ "': " ++ unsendable))
  else
    match Web.Address.ofText? url with
    | none => .error (.uploadFailed url none unsendable)
    | some address =>
        if !address.isUsable then
          .error (.uploadFailed url none (unsendable ++ address.mention))
        else
          return ⟨url, address, settings.fieldName, candidate.name, candidate.mediaType,
            chunks content⟩

namespace Request

def total (request : Request) : UInt64 :=
  UInt64.ofNat (byteCount request.chunks)

/-- The advances of an upload of which `pulled` chunks were taken. -/
def advances (request : Request) (pulled : Nat) : List Advance :=
  (request.chunks.take pulled).map fun chunk => .bytes (UInt64.ofNat chunk.size)

end Request

namespace Reply

/-- The answer counts as received if it is a success and complete. -/
def received : Reply → Bool
  | .complete status _ => Web.isSuccess status
  | _ => false

/-- Of an answer that is no success only the status counts. -/
def outcome (timeout : UInt64) (request : Request) : Reply → Except Fault Json
  | .unanswered =>
      .error (.uploadFailed request.url none
        ("error sending request" ++ request.address.mention))
  | .late =>
      .error (.uploadFailed request.url none ("timed out after " ++ toString timeout ++ "s"))
  | .cutShort status =>
      if Web.isSuccess status then
        .error (.uploadFailed request.url (some status) "error decoding response body")
      else .error (.uploadFailed request.url (some status) ("HTTP " ++ Web.statusText status))
  | .complete status body =>
      if Web.isSuccess status then
        (Json.parse body).mapError fun e =>
          .malformedResponse ("response body is not JSON: " ++ e.text)
      else .error (.uploadFailed request.url (some status) ("HTTP " ++ Web.statusText status))

end Reply

namespace Request

/-- Once an answer was received the upload finishes, whatever is left of the body. -/
def telling (request : Request) (reaction : Reaction) : Telling :=
  .start request.total (request.advances reaction.pulled) reaction.reply.received

def turns (request : Request) (reaction : Reaction) : List Turn :=
  (request.telling reaction).toTheEnd reaction.turns

end Request

/-- The percentages as they are told, up to the end of the upload. -/
def signals (request : Request) (reaction : Reaction) : List Signal :=
  ((request.telling reaction).run (request.turns reaction)).1

def exchange (settings : Settings) (candidate : Candidate) (kind : DocumentKind)
    (storage : Storage) (service : Service) : Exchange :=
  match prepare settings candidate kind storage with
  | .error fault => ⟨none, [], .error fault⟩
  | .ok request =>
      ⟨some request, signals request (service request),
        (service request).reply.outcome settings.timeout request⟩

end FormatReview.Upload
