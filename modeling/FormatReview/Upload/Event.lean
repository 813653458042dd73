import FormatReview.Upload.Exchange

namespace FormatReview.Upload

/-! An upload as a run of events: percentages, then one event that ends it. -/

inductive Report where
  | progress (percent : UInt8)
  | completed (review : Review)
  | failed (failure : Failure)
  deriving DecidableEq

/-- Events carry the generation of the upload that they belong to. -/
structure Event where
  generation : Nat
  report : Report
  deriving DecidableEq

def Report.isTerminal : Report → Bool
  | .progress _ => false
  | _ => true

def Event.isTerminal (event : Event) : Bool := event.report.isTerminal

/-- What an observer of an upload is told. -/
inductive Call where
  | start (generation : Nat) (name : String) (total : UInt64)
  | progress (generation : Nat) (percent : UInt8)
  | complete (generation : Nat) (findings : Nat)
  | failed (generation : Nat) (reason : String)
  deriving DecidableEq, Repr

structure Run where
  request : Option Request
  events : List Event
  calls : List Call

def Exchange.review (exchange : Exchange) : Except Fault Review :=
  exchange.outcome.bind Review.ofResponse

def lastReport (url : String) : Except Fault Review → Report
  | .ok review => .completed review
  | .error fault => .failed (.ofFault url fault)

def lastCall (generation : Nat) : Except Fault Review → Call
  | .ok review => .complete generation review.size
  | .error fault => .failed generation fault.text

def run (settings : Settings) (candidate : Candidate) (kind : DocumentKind) (generation : Nat)
    (storage : Storage) (service : Service) : Run :=
  let exchange := exchange settings candidate kind storage service
  let url := settings.endpoints.urlFor kind
  ⟨exchange.request,
    (reaching .stream exchange.signals).map (fun percent => ⟨generation, .progress percent⟩) ++
      [⟨generation, lastReport url exchange.review⟩],
    if settings.observed then
      .start generation candidate.name candidate.size ::
        ((reaching .observer exchange.signals).map (.progress generation) ++
          [lastCall generation exchange.review])
    else []⟩

def gatedRun (settings : Settings) (candidate : Candidate) (generation : Nat) (storage : Storage)
    (service : Service) : Except Fault Run :=
  match Intake.accept candidate settings.accept settings.limit with
  | .error rejection => .error (.intakeRejected rejection)
  | .ok kind => .ok (run settings candidate kind generation storage service)

end FormatReview.Upload
