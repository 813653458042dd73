import FormatReview.Client
import FormatReview.Proofs.Session.Run
import FormatReview.Proofs.Upload.Run

namespace FormatReview

/-! Runs of a client, with a log of what happened. Uploads may overlap: their events are handled in
any order and any number of times, or never. -/

inductive Client.Action where
  | select (storage : Storage) (path : String)
  | selectCandidate (candidate : Candidate)
  | remove
  | startUpload (storage : Storage) (service : Upload.Service)
  | handle (event : Upload.Event)

/-- What came of an action. A selection is logged as the session holds it then. -/
inductive Client.Happening where
  | selected (selection : Option Selection)
  | refused (fault : Fault)
  | removed
  | started (run : Upload.Run)
  | handled (event : Upload.Event)

namespace Client

def Happening.keepsSelection : Happening → Bool
  | .selected _ => false
  | .removed => false
  | _ => true

def Happening.isQuiet : Happening → Bool
  | .refused _ => true
  | .handled _ => true
  | _ => false

def ofSelection : Except Fault DocumentKind × Client → Happening × Client
  | (.ok _, next) => (.selected next.session.selection, next)
  | (.error fault, next) => (.refused fault, next)

def perform (client : Client) : Action → Happening × Client
  | .select storage path => ofSelection (client.select storage path)
  | .selectCandidate candidate => ofSelection (client.selectCandidate candidate)
  | .remove => (.removed, client.remove)
  | .startUpload storage service =>
      match client.startUpload storage service with
      | (.ok run, next) => (.started run, next)
      | (.error fault, next) => (.refused fault, next)
  | .handle event => (.handled event, (client.handle event).2)

/-- The clients that come about, each with its log. Only events of their own uploads are handled. -/
inductive Reached (settings : Settings) : List Happening → Client → Prop where
  | start : Reached settings [] (Client.start settings)
  | perform {log : List Happening} {client : Client} (earlier : Reached settings log client)
      (action : Action)
      (own : ∀ event, action = .handle event →
        ∃ run, .started run ∈ log ∧ event ∈ run.events) :
      Reached settings (log ++ [(client.perform action).1]) (client.perform action).2

theorem Reached.next {settings : Settings} {log : List Happening} {client next : Client}
    (reached : Reached settings log client) (action : Action) (happening : Happening)
    (performed : client.perform action = (happening, next))
    (own : ∀ event, action = .handle event → ∃ run, .started run ∈ log ∧ event ∈ run.events) :
    Reached settings (log ++ [happening]) next := by
  have step := reached.perform action own
  rwa [performed] at step

inductive Transition (client : Client) : Action → Happening → Client → Prop where
  | selected {action : Action} (selection : Selection) :
      Transition client action (.selected (some selection))
        { client with session := client.session.select selection }
  | refused {action : Action} (fault : Fault) (rejection : Option Rejection) :
      Transition client action (.refused fault)
        { client with session := { client.session with rejection := rejection } }
  | removed :
      Transition client .remove .removed { client with session := client.session.discard }
  | started (storage : Storage) (service : Upload.Service) (selection : Selection)
      (held : client.session.selection = some selection) :
      Transition client (.startUpload storage service)
        (.started (Upload.run client.settings selection.candidate selection.kind
          client.session.beginUpload.generation storage service))
        { client with session := client.session.beginUpload }
  | handled (event : Upload.Event) :
      Transition client (.handle event) (.handled event)
        { client with session := (client.session.apply (.upload event)).2 }

theorem transition_selectCandidate (client : Client) (candidate : Candidate) (action : Action) :
    client.Transition action (ofSelection (client.selectCandidate candidate)).1
      (ofSelection (client.selectCandidate candidate)).2 := by
  cases verdict : Intake.accept candidate client.settings.accept client.settings.limit with
  | ok kind =>
      simp only [selectCandidate, verdict, ofSelection, Session.apply]
      exact .selected ⟨candidate, kind⟩
  | error rejection =>
      simp only [selectCandidate, verdict, ofSelection, Session.apply]
      exact .refused (.intakeRejected rejection) (some rejection)

theorem transition_perform (client : Client) (action : Action) :
    client.Transition action (client.perform action).1 (client.perform action).2 := by
  cases action with
  | select storage path =>
      cases found : inspect storage path with
      | ok candidate =>
          simp only [perform, select, found]
          exact client.transition_selectCandidate candidate _
      | error fault =>
          simp only [perform, select, found, ofSelection]
          exact .refused fault client.session.rejection
  | selectCandidate candidate => exact client.transition_selectCandidate candidate _
  | remove => exact .removed
  | startUpload storage service =>
      cases held : client.session.selection with
      | none =>
          simp only [perform, startUpload, held]
          exact .refused (.notReady .upload) client.session.rejection
      | some selection =>
          simp only [perform, startUpload, held]
          exact .started storage service selection held
  | handle event => exact .handled event

end Client

end FormatReview
