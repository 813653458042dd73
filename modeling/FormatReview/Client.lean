import FormatReview.Session

namespace FormatReview

/-! A client of the service: it selects files, uploads them, and keeps the session. -/

structure Client where
  settings : Settings
  session : Session

namespace Client

def start (settings : Settings) : Client := ⟨settings, .fresh⟩

/-- Describes a file that is there, with the media type that its extension tells. -/
def inspect (storage : Storage) (path : String) : Except Fault Candidate :=
  match storage.look (Path.ofText path) with
  | .ok (.file content) =>
      .ok (.describe path (Candidate.guessMediaType path) (UInt64.ofNat content.size))
  | .error .denied => .error (.permissionDenied path)
  | _ => .error (.fileNotFound path)

/-- A refused candidate leaves the selection as it was. -/
def selectCandidate (client : Client) (candidate : Candidate) :
    Except Fault DocumentKind × Client :=
  match Intake.accept candidate client.settings.accept client.settings.limit with
  | .ok kind =>
      (.ok kind, { client with session := (client.session.apply (.select ⟨candidate, kind⟩)).2 })
  | .error rejection =>
      (.error (.intakeRejected rejection),
        { client with session := (client.session.apply (.reject rejection)).2 })

def select (client : Client) (storage : Storage) (path : String) :
    Except Fault DocumentKind × Client :=
  match inspect storage path with
  | .error fault => (.error fault, client)
  | .ok candidate => client.selectCandidate candidate

def remove (client : Client) : Client :=
  { client with session := (client.session.apply .clear).2 }

/-- Starts the upload of the selected file. Its events are not yet applied. -/
def startUpload (client : Client) (storage : Storage) (service : Upload.Service) :
    Except Fault Upload.Run × Client :=
  match client.session.selection with
  | none => (.error (.notReady .upload), client)
  | some selection =>
      let session := client.session.beginUpload
      (.ok (Upload.run client.settings selection.candidate selection.kind session.generation
        storage service), { client with session := session })

def handle (client : Client) (event : Upload.Event) : Applied × Client :=
  let (applied, session) := client.session.apply (.upload event)
  (applied, { client with session := session })

def handleAll (client : Client) (events : List Upload.Event) : List Applied × Client :=
  let (applied, session) := client.session.applyAll (events.map .upload)
  (applied, { client with session := session })

/-- The review of the latest upload, or why there is none. -/
def outcome (client : Client) : Except Fault Review :=
  match client.session.outcome with
  | none => .error (.notReady .showing)
  | some (.failure failure) => .error failure.toFault
  | some (.review review) => .ok review

structure Finished where
  outcome : Except Fault Review
  run : Option Upload.Run
  client : Client

def upload (client : Client) (storage : Storage) (service : Upload.Service) : Finished :=
  match client.startUpload storage service with
  | (.error fault, client) => ⟨.error fault, none, client⟩
  | (.ok run, client) =>
      let client := (client.handleAll run.events).2
      ⟨client.outcome, some run, client⟩

/-- The review to export. -/
def current (client : Client) : Except Fault Review :=
  match client.session.review? with
  | none => .error (.notReady .exporting)
  | some review => .ok review

/-- Selects a file, uploads it and takes its review. -/
def reviewFile (settings : Settings) (storage : Storage) (path : String)
    (service : Upload.Service) : Finished :=
  match (start settings).select storage path with
  | (.error fault, client) => ⟨.error fault, none, client⟩
  | (.ok _, client) =>
      let finished := client.upload storage service
      match finished.outcome with
      | .error _ => finished
      | .ok _ =>
          { finished with
            outcome := match finished.client.session.review? with
              | some review => .ok review
              | none => .error (.internal "upload finished without a result")
            client := { finished.client with session := finished.client.session.takeReview } }

end Client

end FormatReview
