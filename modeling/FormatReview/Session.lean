import FormatReview.Upload.Event

namespace FormatReview

/-! What a front-end shows of a user's way from a selected file to its review. Uploads are numbered,
and only the events of the latest upload count, until it has ended. -/

structure Selection where
  candidate : Candidate
  kind : DocumentKind
  deriving DecidableEq

inductive Outcome where
  | review (found : Review)
  | failure (reason : Upload.Failure)
  deriving DecidableEq

structure Session where
  selection : Option Selection
  rejection : Option Rejection
  outcome : Option Outcome
  progress : UInt8
  loading : Bool
  generation : Nat
  settled : Bool
  deriving DecidableEq

inductive Session.Event where
  | select (selection : Selection)
  | clear
  | reject (rejection : Rejection)
  | upload (event : Upload.Event)
  deriving DecidableEq

inductive Applied where
  | accepted
  | stale (event current : Nat)
  | alreadySettled
  | ignored
  deriving DecidableEq, Repr

namespace Outcome

def review? : Outcome → Option Review
  | .review found => some found
  | .failure _ => none

def failure? : Outcome → Option Upload.Failure
  | .review _ => none
  | .failure reason => some reason

end Outcome

namespace Session

def fresh : Session := ⟨none, none, none, 0, false, 0, false⟩

def candidate? (session : Session) : Option Candidate := session.selection.map (·.candidate)

def kind? (session : Session) : Option DocumentKind := session.selection.map (·.kind)

def review? (session : Session) : Option Review := session.outcome.bind (·.review?)

def failure? (session : Session) : Option Upload.Failure := session.outcome.bind (·.failure?)

def beginUpload (session : Session) : Session :=
  { session with
    generation := session.generation + 1
    progress := 0
    loading := true
    settled := false
    outcome := none }

/-- Takes the review away. A failure stays. -/
def takeReview (session : Session) : Session :=
  { session with outcome := session.outcome.filter fun outcome => outcome.review?.isNone }

/-- Drops the selection with all that came of it; what is under way belongs to it no more. -/
def discard (session : Session) : Session :=
  { session with
    selection := none
    rejection := none
    outcome := none
    progress := 0
    loading := false
    generation := session.generation + 1
    settled := true }

def select (session : Session) (selection : Selection) : Session :=
  let cleared := if session.selection.isSome then session.discard else session
  { cleared with selection := some selection, rejection := none }

/-- Why an event of an upload does not count. -/
def refusal? (session : Session) (generation : Nat) : Option Applied :=
  if generation ≠ session.generation then some (.stale generation session.generation)
  else if session.settled then some .alreadySettled
  else none

def settle (session : Session) (outcome : Outcome) (progress : UInt8) : Session :=
  { session with outcome := some outcome, progress := progress, loading := false, settled := true }

/-- Percentages rise, except that the first may be zero. -/
def report (session : Session) : Upload.Report → Applied × Session
  | .progress percent =>
      let shown := min percent 100
      if shown ≤ session.progress ∧ session.progress ≠ 0 then (.ignored, session)
      else (.accepted, { session with progress := shown })
  | .completed review => (.accepted, session.settle (.review review) 100)
  | .failed failure => (.accepted, session.settle (.failure failure) 0)

def apply (session : Session) : Event → Applied × Session
  | .select selection => (.accepted, session.select selection)
  | .clear => (.accepted, session.discard)
  | .reject rejection => (.accepted, { session with rejection := some rejection })
  | .upload event =>
      match session.refusal? event.generation with
      | some applied => (applied, session)
      | none => session.report event.report

/-- The answers to a list of events, and the session behind them. -/
def applyAll (session : Session) : List Event → List Applied × Session
  | [] => ([], session)
  | event :: rest =>
      let (applied, next) := session.apply event
      let (more, final) := next.applyAll rest
      (applied :: more, final)

@[simp] theorem applyAll_nil (session : Session) : session.applyAll [] = ([], session) := rfl

@[simp] theorem applyAll_cons (session : Session) (event : Event) (rest : List Event) :
    session.applyAll (event :: rest) =
      ((session.apply event).1 :: ((session.apply event).2.applyAll rest).1,
        ((session.apply event).2.applyAll rest).2) := rfl

end Session

end FormatReview
