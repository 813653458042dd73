import FormatReview.Upload.Failure

namespace FormatReview

/-! Faults on their way through the events of an upload. Those that are about the exchange itself
arrive as they are; every other one arrives as a failed upload, with its text for a reason. -/

/-- The faults that events have a failure of their own for. -/
inductive Fault.Carried : Fault → Prop
  | uploadFailed (url : String) (status : Option UInt16) (reason : String) :
      Carried (.uploadFailed url status reason)
  | malformedResponse (detail : String) : Carried (.malformedResponse detail)
  | intakeRejected (rejection : Rejection) : Carried (.intakeRejected rejection)

namespace Upload.Failure

theorem carried_toFault (failure : Failure) : failure.toFault.Carried := by
  cases failure with
  | transport url status reason => exact .uploadFailed url status reason
  | malformed detail => exact .malformedResponse detail
  | refused rejection => exact .intakeRejected rejection

/-- A failure tells of a fault: by being turned back into it, or else by its text. -/
inductive Tells (url : String) (fault : Fault) : Failure → Prop
  | whole {failure : Failure} (same : failure.toFault = fault) : Tells url fault failure
  | text (foreign : ¬fault.Carried) : Tells url fault (.transport url none fault.text)

theorem tells_ofFault (url : String) (fault : Fault) : Tells url fault (ofFault url fault) := by
  cases fault with
  | uploadFailed _ _ _ => exact .whole rfl
  | malformedResponse _ => exact .whole rfl
  | intakeRejected _ => exact .whole rfl
  | fileNotFound _ => exact .text nofun
  | permissionDenied _ => exact .text nofun
  | notReady _ => exact .text nofun
  | renderFailed _ => exact .text nofun
  | fontLoadFailed _ _ => exact .text nofun
  | reportWriteFailed _ _ => exact .text nofun
  | invalidSettings _ => exact .text nofun
  | internal _ => exact .text nofun

namespace Tells

variable {url : String} {fault : Fault} {failure : Failure}

theorem toFault_of_carried (tells : Tells url fault failure) (carried : fault.Carried) :
    failure.toFault = fault := by
  cases tells with
  | whole same => exact same
  | text foreign => exact absurd carried foreign

theorem toFault_of_foreign (tells : Tells url fault failure) (foreign : ¬fault.Carried) :
    failure.toFault = .uploadFailed url none fault.text := by
  cases tells with
  | whole same => exact absurd (same ▸ failure.carried_toFault) foreign
  | text _ => rfl

theorem isMalformed_iff (tells : Tells url fault failure) :
    failure.isMalformed = true ↔ ∃ detail, fault = .malformedResponse detail := by
  cases tells with
  | whole same =>
      subst same
      cases failure <;> simp [isMalformed, toFault]
  | text foreign =>
      have other : ¬∃ detail, fault = .malformedResponse detail := by
        rintro ⟨detail, rfl⟩
        exact foreign (.malformedResponse detail)
      simp [isMalformed, other]

theorem isUploadFailure_iff (tells : Tells url fault failure) :
    failure.toFault.isUploadFailure = true ↔
      (∀ detail, fault ≠ .malformedResponse detail) ∧
        ∀ rejection, fault ≠ .intakeRejected rejection := by
  cases tells with
  | whole same =>
      subst same
      cases failure <;> simp [Fault.isUploadFailure, toFault]
  | text foreign =>
      have notMalformed (detail : String) : fault ≠ .malformedResponse detail := by
        rintro rfl
        exact foreign (.malformedResponse detail)
      have notRejected (rejection : Rejection) : fault ≠ .intakeRejected rejection := by
        rintro rfl
        exact foreign (.intakeRejected rejection)
      simp [Fault.isUploadFailure, toFault, notMalformed, notRejected]

end Tells

/-- A fault that an event can carry comes back in full, whatever address the upload had. Any other
comes back as a failed upload to that address, without a status and with the fault's text for a
reason. Only a malformed response counts as malformed, and it and a rejected file are the faults that
another upload does not overcome. A failure that is turned into a fault is told as the same failure
again. -/
theorem class_kept (fault : Fault) (url : String) :
    let failure := ofFault url fault
    (fault.Carried → failure.toFault = fault) ∧
    (¬fault.Carried → failure.toFault = .uploadFailed url none fault.text) ∧
    (failure.isMalformed = true ↔ ∃ detail, fault = .malformedResponse detail) ∧
    (failure.toFault.isUploadFailure = true ↔
      (∀ detail, fault ≠ .malformedResponse detail) ∧
        ∀ rejection, fault ≠ .intakeRejected rejection) ∧
    ∀ (told : Failure) (other : String), ofFault other told.toFault = told := by
  intro failure
  have tells := tells_ofFault url fault
  exact ⟨tells.toFault_of_carried, tells.toFault_of_foreign, tells.isMalformed_iff,
    tells.isUploadFailure_iff, fun told other => ofFault_toFault other told⟩

end Upload.Failure

end FormatReview
