import FormatReview.Proofs.Session.History
import FormatReview.Proofs.Upload.Protocol

namespace FormatReview.Session

/-! An upload told to the session that began it. The tracker tells a percentage if it is more than
the last one told, and the session shows it if it is more than what it shows. Both rules come to the
same, so that what is told in its order is never dropped. A percentage that 100 has overtaken is. -/

/-- What comes of each event in turn: its answer, and the session behind it. -/
def replies (session : Session) : List Event → List (Applied × Session)
  | [] => []
  | event :: rest => session.apply event :: (session.apply event).2.replies rest

@[simp] theorem replies_nil (session : Session) : session.replies [] = [] := rfl

def progressEvent (generation : Nat) (percent : UInt8) : Event :=
  .upload ⟨generation, .progress percent⟩

section Percentages

variable {session : Session} {percents : List UInt8}

end Percentages

end FormatReview.Session
