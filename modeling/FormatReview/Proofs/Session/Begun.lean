import FormatReview.Proofs.Session.Coherence

namespace FormatReview.Session

/-! Which uploads can report to a session. A run hands out a generation with each upload that it
begins, and counts one more, which no upload gets, with each selection that it drops. -/

def handsOut? (session : Session) : Action → Option Nat
  | .begin => some session.beginUpload.generation
  | _ => none

/-- The generations of the uploads that a run begins, in their order. -/
def handedOut (session : Session) : List Action → List Nat
  | [] => []
  | action :: rest => (session.handsOut? action).toList ++ (session.act action).handedOut rest

@[simp] theorem handedOut_nil (session : Session) : session.handedOut [] = [] := rfl

@[simp] theorem handedOut_cons (session : Session) (action : Action) (rest : List Action) :
    session.handedOut (action :: rest) =
      (session.handsOut? action).toList ++ (session.act action).handedOut rest := rfl

theorem lt_of_mem_handedOut {session : Session} {actions : List Action} {generation : Nat}
    (member : generation ∈ session.handedOut actions) : session.generation < generation := by
  induction actions generalizing session with
  | nil => simp at member
  | cons action rest ih =>
      rcases List.mem_append.1 member with first | later
      · cases action with
        | begin =>
            obtain rfl : session.beginUpload.generation = generation := by
              simpa [handsOut?, eq_comm] using first
            exact Nat.lt_succ_self _
        | take => simp [handsOut?] at first
        | apply event => simp [handsOut?] at first
      · exact Nat.lt_of_le_of_lt (session.generation_le_act action) (ih later)

theorem settled_apply_upload {session : Session} (settled : session.settled = true)
    (event : Upload.Event) : (session.apply (.upload event)).2 = session := by
  by_cases own : event.generation = session.generation
  · rw [apply_upload_settled event own settled]
  · rw [apply_upload_stale event own]

/-- An action that leaves a session unsettled begins an upload, or found the session unsettled with
the same generation. -/
theorem unsettled_act {session : Session} {action : Action}
    (unsettled : (session.act action).settled = false) :
    session.handsOut? action = some (session.act action).generation ∨
      session.settled = false ∧ (session.act action).generation = session.generation := by
  cases action with
  | begin => exact .inl rfl
  | take => exact .inr ⟨unsettled, rfl⟩
  | apply event =>
      refine .inr ?_
      cases event with
      | select selection =>
          cases held : session.selection with
          | none =>
              simp only [act, apply, select_of_none held] at unsettled ⊢
              exact ⟨unsettled, trivial⟩
          | some other =>
              simp [act, apply, select_of_some held, discard] at unsettled
      | clear => cases unsettled
      | reject rejection => exact ⟨unsettled, rfl⟩
      | upload event =>
          refine ⟨?_, generation_apply_upload session event⟩
          cases settled : session.settled with
          | false => rfl
          | true =>
              simp only [act, settled_apply_upload settled event] at unsettled
              exact absurd (settled.symm.trans unsettled) (by decide)

/-- What is under way was begun in the run, or was under way before it. -/
theorem begun_of_unsettled {session : Session} {actions : List Action}
    (unsettled : (session.run actions).settled = false) :
    (session.run actions).generation ∈ session.handedOut actions ∨
      session.settled = false ∧ (session.run actions).generation = session.generation := by
  induction actions generalizing session with
  | nil => exact .inr ⟨unsettled, rfl⟩
  | cons action rest ih =>
      rw [run_cons] at unsettled ⊢
      rcases ih unsettled with later | ⟨between, same⟩
      · exact .inl (List.mem_append_right _ later)
      · rcases unsettled_act between with handed | ⟨before, kept⟩
        · exact .inl (List.mem_append_left _ (by rw [handed, same]; simp))
        · exact .inr ⟨before, same.trans kept⟩

theorem undisturbed_iff (session : Session) (actions : List Action) :
    session.Undisturbed actions ↔ (session.run actions).generation = session.generation := by
  refine ⟨generation_run_of_undisturbed, ?_⟩
  induction actions generalizing session with
  | nil => exact fun _ => trivial
  | cons action rest ih =>
      intro same
      have step := session.generation_act action
      have grown := (session.act action).generation_le_run rest
      rw [run_cons] at same
      cases superseded : session.supersedes action with
      | true => simp only [superseded, if_true] at step; omega
      | false =>
          simp only [superseded, Bool.false_eq_true, if_false] at step
          exact ⟨superseded, ih _ (same.trans step.symm)⟩

theorem accepted_upload {session : Session} {event : Upload.Event}
    (accepted : (session.apply (.upload event)).1 = .accepted) :
    event.generation = session.generation ∧ session.settled = false := by
  by_cases own : event.generation = session.generation
  · refine ⟨own, ?_⟩
    cases settled : session.settled with
    | false => rfl
    | true =>
        rw [apply_upload_settled event own settled] at accepted
        cases accepted
  · rw [apply_upload_stale event own] at accepted
    cases accepted

/-- Before anything is begun or dropped, a session counts generation zero, which no upload has, and
takes it to be under way until an event of that generation ends it. At all other times, and only
then, an event that is accepted belongs to an upload that the run has begun. One that is not
accepted changes nothing. -/
theorem accepts_begun_iff (actions : List Action) :
    let now := fresh.run actions
    ((∀ event : Upload.Event, (now.apply (.upload event)).1 = .accepted →
        event.generation ∈ fresh.handedOut actions) ↔
      ¬fresh.Undisturbed actions ∨ now.settled = true) ∧
    ∀ event : Upload.Event, (now.apply (.upload event)).1 ≠ .accepted →
      (now.apply (.upload event)).2 = now := by
  intro now
  refine ⟨⟨?_, ?_⟩, fun event => apply_eq_of_not_accepted⟩
  · intro begun
    by_cases undisturbed : fresh.Undisturbed actions
    · have zero : now.generation = 0 := generation_run_of_undisturbed undisturbed
      cases settled : now.settled with
      | true => exact .inr rfl
      | false =>
          have accepted := congrArg Prod.fst
            (apply_upload_open ⟨0, .completed (.ofFindings [])⟩ zero.symm settled)
          exact absurd (lt_of_mem_handedOut (begun _ accepted)) (Nat.lt_irrefl 0)
    · exact .inl undisturbed
  · rintro known event accepted
    obtain ⟨own, unsettled⟩ := accepted_upload accepted
    rcases begun_of_unsettled unsettled with begun | ⟨-, same⟩
    · exact own ▸ begun
    · rcases known with disturbed | settled
      · exact absurd ((undisturbed_iff ..).2 same) disturbed
      · exact absurd (settled.symm.trans unsettled) (by decide)

/-- A fresh session takes a review that no upload of its own has brought. -/
theorem fresh_accepts_upload_zero :
    let event : Upload.Event := ⟨0, .completed (.ofFindings [])⟩
    ((fresh.run []).apply (.upload event)).1 = .accepted ∧
      event.generation ∉ fresh.handedOut [] ∧
      ((fresh.run []).apply (.upload event)).2 ≠ fresh.run [] := by
  intro event
  refine ⟨rfl, List.not_mem_nil, fun same => ?_⟩
  have settled : true = false := congrArg Session.settled same
  cases settled

end FormatReview.Session
