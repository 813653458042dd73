import FormatReview.Upload.Percent

namespace FormatReview.Upload

/-! How the percentages of an upload are told. The body of the request is sent by a task of its own,
beside the one that waits for the answer and then finishes. Both share a tracker, which a task holds
only while it takes a percentage. The observer hears of it afterwards, and the stream last, so that
the other task may go on at any point in between. -/

inductive Ear where
  | observer
  | stream
  deriving DecidableEq, Repr

/-- A percentage as it comes to one of those who are told. -/
structure Signal where
  ear : Ear
  percent : UInt8
  deriving DecidableEq, Repr

/-- What one of those who are told gets to know, in the order in which it comes. -/
def reaching (ear : Ear) (signals : List Signal) : List UInt8 :=
  (signals.filter (·.ear = ear)).map (·.percent)

@[simp] theorem reaching_nil (ear : Ear) : reaching ear [] = [] := rfl

@[simp] theorem reaching_append (ear : Ear) (signals more : List Signal) :
    reaching ear (signals ++ more) = reaching ear signals ++ reaching ear more := by
  rw [reaching, List.filter_append, List.map_append, reaching, reaching]

/-- How far a task has come with the percentage that it took last. -/
inductive Hand where
  | empty
  | taken (percent : UInt8)
  | heard (percent : UInt8)
  deriving DecidableEq, Repr

/-- A task that tells percentages, with the advances that are still ahead of it. -/
structure Teller where
  hand : Hand
  ahead : List Advance
  deriving DecidableEq, Repr

inductive Turn where
  | body
  | upload
  deriving DecidableEq, Repr

/-- Where both tasks are. -/
structure Telling where
  tracker : Tracker
  body : Teller
  upload : Teller
  deriving DecidableEq, Repr

/-- One step of a task: it takes a percentage, or passes on the one that it has in hand. -/
def Teller.step (teller : Teller) (tracker : Tracker) : List Signal × Tracker × Teller :=
  match teller.hand with
  | .taken percent => ([⟨.observer, percent⟩], tracker, ⟨.heard percent, teller.ahead⟩)
  | .heard percent => ([⟨.stream, percent⟩], tracker, ⟨.empty, teller.ahead⟩)
  | .empty =>
      match teller.ahead with
      | [] => ([], tracker, teller)
      | advance :: rest =>
          let (told, next) := tracker.advance advance
          ([], next, ⟨told.elim .empty .taken, rest⟩)

/-- An upper bound of the steps that a task has yet to make. -/
def Teller.left (teller : Teller) : Nat :=
  (match teller.hand with
    | .empty => 0
    | .taken _ => 2
    | .heard _ => 1) + 3 * teller.ahead.length

namespace Telling

/-- The body has its advances ahead, and the other task only to finish, if it has anything. -/
def start (total : UInt64) (advances : List Advance) (finishes : Bool) : Telling :=
  ⟨.start total, ⟨.empty, advances⟩, ⟨.empty, if finishes then [.finish] else []⟩⟩

def step (telling : Telling) : Turn → List Signal × Telling
  | .body =>
      let (signals, tracker, body) := telling.body.step telling.tracker
      (signals, { telling with tracker, body })
  | .upload =>
      let (signals, tracker, upload) := telling.upload.step telling.tracker
      (signals, { telling with tracker, upload })

def run (telling : Telling) : List Turn → List Signal × Telling
  | [] => ([], telling)
  | turn :: rest =>
      let (signals, next) := telling.step turn
      let (more, last) := next.run rest
      (signals ++ more, last)

@[simp] theorem run_nil (telling : Telling) : telling.run [] = ([], telling) := rfl

@[simp] theorem run_cons (telling : Telling) (turn : Turn) (rest : List Turn) :
    telling.run (turn :: rest) =
      ((telling.step turn).1 ++ ((telling.step turn).2.run rest).1,
        ((telling.step turn).2.run rest).2) := rfl

/-- Some turns, and then as many more as both tasks may need, those of the body first. -/
def toTheEnd (telling : Telling) (turns : List Turn) : List Turn :=
  turns ++ List.replicate telling.body.left .body ++ List.replicate telling.upload.left .upload

end Telling

end FormatReview.Upload
