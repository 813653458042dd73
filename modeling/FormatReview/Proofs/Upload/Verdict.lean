import FormatReview.Proofs.Upload.Run

namespace FormatReview.Upload

/-! How an upload ends, by what came of the file, of the request and of the reply. -/

namespace Reply

/-- A reply has a status as soon as its head arrived, whether or not its body did. -/
def headStatus? : Reply → Option UInt16
  | .unanswered => none
  | .late => none
  | .cutShort status => some status
  | .complete status _ => some status

/-- The reply is a success, and its body arrived in full. -/
def Brings (reply : Reply) (body : ByteArray) : Prop :=
  ∃ status, Web.isSuccess status = true ∧ reply = .complete status body

variable {reply : Reply} {body : ByteArray}

theorem Brings.received (brings : reply.Brings body) : reply.received = true := by
  obtain ⟨status, success, rfl⟩ := brings
  exact success

theorem Brings.success {status : UInt16} (brings : reply.Brings body)
    (answered : reply.headStatus? = some status) : Web.isSuccess status = true := by
  obtain ⟨other, success, rfl⟩ := brings
  obtain rfl : other = status := Option.some.inj answered
  exact success

theorem outcome_of_brings (brings : reply.Brings body) (timeout : UInt64) (request : Request) :
    reply.outcome timeout request = (Json.parse body).mapError fun e =>
      .malformedResponse ("response body is not JSON: " ++ e.text) := by
  obtain ⟨status, success, rfl⟩ := brings
  simp only [outcome, success, if_true]

theorem outcome_of_failure {status : UInt16} (answered : reply.headStatus? = some status)
    (failure : Web.isSuccess status = false) (timeout : UInt64) (request : Request) :
    reply.outcome timeout request =
      .error (.uploadFailed request.url (some status) ("HTTP " ++ Web.statusText status)) := by
  cases reply with
  | unanswered => cases answered
  | late => cases answered
  | cutShort other =>
      obtain rfl : other = status := Option.some.inj answered
      simp [outcome, failure]
  | complete other body =>
      obtain rfl : other = status := Option.some.inj answered
      simp [outcome, failure]

end Reply

theorem exists_detail_of_ofResponse {v : Json} {fault : Fault}
    (foreign : Review.ofResponse v = .error fault) :
    ∃ detail, fault = .malformedResponse detail := by
  rw [Review.ofResponse] at foreign
  split at foreign
  · cases foreign
  · exact ⟨_, (Except.error.inj foreign).symm⟩

/-! The file and the request. -/

section Reading

variable {candidate : Candidate} {storage : Storage}

theorem readFile_of_error {problem : Storage.Problem}
    (unread : storage.read (Path.ofText candidate.path) = .error problem) (limit : UInt64)
    (url : String) :
    readFile limit candidate url storage = .error (unreadable candidate.path url problem) := by
  rw [readFile, unread]
  rfl

theorem readFile_of_ok {content : ByteArray}
    (read : storage.read (Path.ofText candidate.path) = .ok content) (limit : UInt64)
    (url : String) :
    readFile limit candidate url storage =
      if limit.toNat ≤ content.size then
        .error (.intakeRejected (.tooLarge candidate.name limit limit))
      else .ok content := by
  have opened : (storage.read (Path.ofText candidate.path)).mapError
      (unreadable candidate.path url) = .ok content := by
    rw [read]
    rfl
  have size : (content.extract 0 limit.toNat).size = min limit.toNat content.size := by
    rw [ByteArray.size_extract, Nat.sub_zero]
  by_cases large : limit.toNat ≤ content.size
  · have full : (content.extract 0 limit.toNat).size = limit.toNat := by omega
    simp [readFile, opened, bind, Except.bind, full, large]
  · have whole : content.extract 0 limit.toNat = content := by
      apply ByteArray.ext
      rw [ByteArray.data_extract]
      exact Array.extract_eq_self_of_le (Nat.le_of_not_le large)
    simp [readFile, opened, bind, Except.bind, large, whole, pure, Except.pure]

theorem exists_reason_of_unreadable (path url : String) (problem : Storage.Problem) :
    ∃ reason, Failure.ofFault url (unreadable path url problem) = .transport url none reason := by
  cases problem <;> exact ⟨_, rfl⟩

end Reading

section Request

variable {candidate : Candidate} {storage : Storage} (settings : Settings) (kind : DocumentKind)

theorem prepare_of_unread {problem : Storage.Problem}
    (unread : storage.read (Path.ofText candidate.path) = .error problem) :
    prepare settings candidate kind storage =
      .error (unreadable candidate.path (settings.endpoints.urlFor kind) problem) := by
  rw [prepare, readFile_of_error unread]
  rfl

theorem prepare_of_large {content : ByteArray}
    (read : storage.read (Path.ofText candidate.path) = .ok content)
    (large : settings.limit.toNat ≤ content.size) :
    prepare settings candidate kind storage =
      .error (.intakeRejected (.tooLarge candidate.name settings.limit settings.limit)) := by
  rw [prepare, readFile_of_ok read, if_pos large]
  rfl

theorem prepare_of_small {content : ByteArray}
    (read : storage.read (Path.ofText candidate.path) = .ok content)
    (small : content.size < settings.limit.toNat) :
    (∃ reason, prepare settings candidate kind storage =
      .error (.uploadFailed (settings.endpoints.urlFor kind) none reason)) ∨
    ∃ request, prepare settings candidate kind storage = .ok request ∧
      request.url = settings.endpoints.urlFor kind := by
  have kept : readFile settings.limit candidate (settings.endpoints.urlFor kind) storage =
      .ok content := by
    rw [readFile_of_ok read, if_neg (Nat.not_le.2 small)]
  simp only [prepare, kept, bind, Except.bind]
  split
  · exact .inl ⟨_, rfl⟩
  · split
    · exact .inl ⟨_, rfl⟩
    · split
      · exact .inl ⟨_, rfl⟩
      · exact .inr ⟨_, rfl, rfl⟩

theorem prepare_of_sendable (candidate : Candidate) {content : ByteArray} {address : Web.Address}
    (read : storage.read (Path.ofText candidate.path) = .ok content)
    (small : content.size < settings.limit.toNat)
    (typed : Web.isMediaType candidate.mediaType = true)
    (found : Web.Address.ofText? (settings.endpoints.urlFor kind) = some address)
    (usable : address.isUsable = true) :
    prepare settings candidate kind storage =
      .ok ⟨settings.endpoints.urlFor kind, address, settings.fieldName, candidate.name,
        candidate.mediaType, chunks content⟩ := by
  have kept : readFile settings.limit candidate (settings.endpoints.urlFor kind) storage =
      .ok content := by
    rw [readFile_of_ok read, if_neg (Nat.not_le.2 small)]
  simp [prepare, kept, typed, found, usable, bind, Except.bind, pure, Except.pure]

variable {settings kind}

/-- A request is made only of a file that was read and stays below the limit. -/
theorem prepare_ok {request : Request}
    (prepared : prepare settings candidate kind storage = .ok request) :
    (∃ content, storage.read (Path.ofText candidate.path) = .ok content ∧
      content.size < settings.limit.toNat) ∧
    request.url = settings.endpoints.urlFor kind := by
  cases read : storage.read (Path.ofText candidate.path) with
  | error problem => simp [prepare_of_unread settings kind read] at prepared
  | ok content =>
      by_cases large : settings.limit.toNat ≤ content.size
      · simp [prepare_of_large settings kind read large] at prepared
      · have small := Nat.lt_of_not_le large
        rcases prepare_of_small settings kind read small with
          ⟨reason, unready⟩ | ⟨other, made, address⟩
        · simp [unready] at prepared
        · obtain rfl := Except.ok.inj (made.symm.trans prepared)
          exact ⟨⟨content, rfl, small⟩, address⟩

end Request

/-! The report that ends an upload. -/

variable (settings : Settings) (candidate : Candidate) (kind : DocumentKind) (storage : Storage)
  (service : Service)

def ending : Report :=
  lastReport (settings.endpoints.urlFor kind)
    (exchange settings candidate kind storage service).review

/-- The file was read, stays below the limit, and `request` was made of it. -/
structure Sends (request : Request) : Prop where
  small : ∃ content, storage.read (Path.ofText candidate.path) = .ok content ∧
    content.size < settings.limit.toNat
  sent : (exchange settings candidate kind storage service).request = some request

/-- The ways for an upload to end. The body of a reply counts only if the reply is a success and
arrived in full. -/
inductive Verdict : Report → Prop where
  | unreadable {problem : Storage.Problem} {reason : String}
      (unread : storage.read (Path.ofText candidate.path) = .error problem)
      (unsent : (exchange settings candidate kind storage service).request = none) :
      Verdict (.failed (.transport (settings.endpoints.urlFor kind) none reason))
  | tooLarge {content : ByteArray}
      (read : storage.read (Path.ofText candidate.path) = .ok content)
      (large : settings.limit.toNat ≤ content.size)
      (unsent : (exchange settings candidate kind storage service).request = none) :
      Verdict (.failed (.refused (.tooLarge candidate.name settings.limit settings.limit)))
  | unsendable {content : ByteArray} {reason : String}
      (read : storage.read (Path.ofText candidate.path) = .ok content)
      (small : content.size < settings.limit.toNat)
      (unsent : (exchange settings candidate kind storage service).request = none) :
      Verdict (.failed (.transport (settings.endpoints.urlFor kind) none reason))
  | unanswered {request : Request} {reason : String}
      (sends : Sends settings candidate kind storage service request)
      (silent : (service request).reply.headStatus? = none) :
      Verdict (.failed (.transport (settings.endpoints.urlFor kind) none reason))
  | refused {request : Request} {status : UInt16}
      (sends : Sends settings candidate kind storage service request)
      (answered : (service request).reply.headStatus? = some status)
      (failure : Web.isSuccess status = false) :
      Verdict (.failed (.transport (settings.endpoints.urlFor kind) (some status)
        ("HTTP " ++ Web.statusText status)))
  | cutShort {request : Request} {status : UInt16} {reason : String}
      (sends : Sends settings candidate kind storage service request)
      (broken : (service request).reply = .cutShort status)
      (success : Web.isSuccess status = true) :
      Verdict (.failed (.transport (settings.endpoints.urlFor kind) (some status) reason))
  | notJson {request : Request} {body : ByteArray} {e : Json.Reader.ReadError}
      (sends : Sends settings candidate kind storage service request)
      (brings : (service request).reply.Brings body)
      (broken : Json.parse body = .error e) :
      Verdict (.failed (.malformed ("response body is not JSON: " ++ e.text)))
  | notReview {request : Request} {body : ByteArray} {v : Json} {detail : String}
      (sends : Sends settings candidate kind storage service request)
      (brings : (service request).reply.Brings body)
      (parsed : Json.parse body = .ok v)
      (foreign : Review.ofResponse v = .error (.malformedResponse detail)) :
      Verdict (.failed (.malformed detail))
  | review {request : Request} {body : ByteArray} {v : Json} {review : Review}
      (sends : Sends settings candidate kind storage service request)
      (brings : (service request).reply.Brings body)
      (parsed : Json.parse body = .ok v)
      (found : Review.ofResponse v = .ok review) : Verdict (.completed review)

variable {settings candidate kind storage service}

theorem ending_of_prepare_error {fault : Fault}
    (service : Service) (unready : prepare settings candidate kind storage = .error fault) :
    ending settings candidate kind storage service =
        .failed (.ofFault (settings.endpoints.urlFor kind) fault) ∧
      (exchange settings candidate kind storage service).request = none := by
  rw [ending, exchange_of_prepare_error unready]
  exact ⟨rfl, rfl⟩

theorem exchange_of_prepare_ok {request : Request}
    (prepared : prepare settings candidate kind storage = .ok request) :
    exchange settings candidate kind storage service =
      ⟨some request, signals request (service request),
        (service request).reply.outcome settings.timeout request⟩ := by
  simp [exchange, prepared]

theorem prepare_of_sent {request : Request}
    (sent : (exchange settings candidate kind storage service).request = some request) :
    prepare settings candidate kind storage = .ok request := by
  cases prepared : prepare settings candidate kind storage with
  | error fault => simp [exchange_of_prepare_error prepared] at sent
  | ok other =>
      rw [exchange_of_prepare_ok prepared] at sent
      exact congrArg Except.ok (Option.some.inj sent)

theorem sends_of_sent {request : Request}
    (sent : (exchange settings candidate kind storage service).request = some request) :
    Sends settings candidate kind storage service request :=
  ⟨(prepare_ok (prepare_of_sent sent)).1, sent⟩

namespace Sends

variable {request : Request} (sends : Sends settings candidate kind storage service request)

include sends

theorem ending_eq :
    ending settings candidate kind storage service =
      lastReport (settings.endpoints.urlFor kind)
        (((service request).reply.outcome settings.timeout request).bind Review.ofResponse) := by
  rw [ending, exchange_of_prepare_ok (prepare_of_sent sends.sent)]
  rfl

theorem ending_of_broken {body : ByteArray} {e : Json.Reader.ReadError}
    (brings : (service request).reply.Brings body) (broken : Json.parse body = .error e) :
    ending settings candidate kind storage service =
      .failed (.malformed ("response body is not JSON: " ++ e.text)) := by
  rw [sends.ending_eq, Reply.outcome_of_brings brings, broken]
  rfl

theorem ending_of_parsed {body : ByteArray} {v : Json}
    (brings : (service request).reply.Brings body) (parsed : Json.parse body = .ok v) :
    ending settings candidate kind storage service =
      lastReport (settings.endpoints.urlFor kind) (Review.ofResponse v) := by
  rw [sends.ending_eq, Reply.outcome_of_brings brings, parsed]
  rfl

theorem ending_of_failure {status : UInt16}
    (answered : (service request).reply.headStatus? = some status)
    (failure : Web.isSuccess status = false) :
    ending settings candidate kind storage service =
      .failed (.transport (settings.endpoints.urlFor kind) (some status)
        ("HTTP " ++ Web.statusText status)) := by
  rw [sends.ending_eq, Reply.outcome_of_failure answered failure,
    (prepare_ok (prepare_of_sent sends.sent)).2]
  rfl

theorem verdict :
    Verdict settings candidate kind storage service
      (ending settings candidate kind storage service) := by
  have address := (prepare_ok (prepare_of_sent sends.sent)).2
  have unread {status : UInt16} (answered : (service request).reply.headStatus? = some status)
      (failure : Web.isSuccess status = false) :
      Verdict settings candidate kind storage service
        (ending settings candidate kind storage service) := by
    rw [sends.ending_of_failure answered failure]
    exact .refused sends answered failure
  cases replied : (service request).reply with
  | unanswered =>
      rw [sends.ending_eq, replied, Reply.outcome, address]
      exact .unanswered sends (by rw [replied, Reply.headStatus?])
  | late =>
      rw [sends.ending_eq, replied, Reply.outcome, address]
      exact .unanswered sends (by rw [replied, Reply.headStatus?])
  | cutShort status =>
      cases success : Web.isSuccess status with
      | false => exact unread (by rw [replied, Reply.headStatus?]) success
      | true =>
          rw [sends.ending_eq, replied, Reply.outcome, if_pos success, address]
          exact .cutShort sends replied success
  | complete status body =>
      cases success : Web.isSuccess status with
      | false => exact unread (by rw [replied, Reply.headStatus?]) success
      | true =>
          have brings : (service request).reply.Brings body := ⟨status, success, replied⟩
          cases parsed : Json.parse body with
          | error e =>
              rw [sends.ending_of_broken brings parsed]
              exact .notJson sends brings parsed
          | ok v =>
              rw [sends.ending_of_parsed brings parsed]
              cases found : Review.ofResponse v with
              | ok review => exact .review sends brings parsed found
              | error fault =>
                  obtain ⟨detail, rfl⟩ := exists_detail_of_ofResponse found
                  exact .notReview sends brings parsed found

end Sends

variable (settings candidate kind storage service) in
theorem verdict_ending :
    Verdict settings candidate kind storage service
      (ending settings candidate kind storage service) := by
  cases read : storage.read (Path.ofText candidate.path) with
  | error problem =>
      obtain ⟨ended, unsent⟩ := ending_of_prepare_error service
        (prepare_of_unread settings kind read)
      obtain ⟨reason, told⟩ := exists_reason_of_unreadable candidate.path
        (settings.endpoints.urlFor kind) problem
      rw [ended, told]
      exact .unreadable read unsent
  | ok content =>
      by_cases large : settings.limit.toNat ≤ content.size
      · obtain ⟨ended, unsent⟩ := ending_of_prepare_error service
          (prepare_of_large settings kind read large)
        rw [ended]
        exact .tooLarge read large unsent
      · have small := Nat.lt_of_not_le large
        rcases prepare_of_small settings kind read small with
          ⟨reason, unready⟩ | ⟨request, prepared, address⟩
        · obtain ⟨ended, unsent⟩ := ending_of_prepare_error service unready
          rw [ended]
          exact .unsendable read small unsent
        · have sends : Sends settings candidate kind storage service request :=
            ⟨⟨content, read, small⟩, by rw [exchange_of_prepare_ok prepared]⟩
          exact sends.verdict

/-! What an ending says of the file and of the reply. -/

theorem ending_completed_iff {review : Review} :
    ending settings candidate kind storage service = .completed review ↔
      ∃ request body v, Sends settings candidate kind storage service request ∧
        (service request).reply.Brings body ∧ Json.parse body = .ok v ∧
        Review.ofResponse v = .ok review := by
  constructor
  · intro completed
    have verdict := verdict_ending settings candidate kind storage service
    rw [completed] at verdict
    cases verdict with
    | review sends brings parsed found => exact ⟨_, _, _, sends, brings, parsed, found⟩
  · rintro ⟨request, body, v, sends, brings, parsed, found⟩
    rw [sends.ending_of_parsed brings parsed, found]
    rfl

theorem ending_malformed_iff :
    (∃ detail, ending settings candidate kind storage service = .failed (.malformed detail)) ↔
      ∃ request body, Sends settings candidate kind storage service request ∧
        (service request).reply.Brings body ∧
        ((∃ e, Json.parse body = .error e) ∨
          ∃ v fault, Json.parse body = .ok v ∧ Review.ofResponse v = .error fault) := by
  constructor
  · rintro ⟨detail, malformed⟩
    have verdict := verdict_ending settings candidate kind storage service
    rw [malformed] at verdict
    cases verdict with
    | notJson sends brings broken => exact ⟨_, _, sends, brings, .inl ⟨_, broken⟩⟩
    | notReview sends brings parsed foreign =>
        exact ⟨_, _, sends, brings, .inr ⟨_, _, parsed, foreign⟩⟩
  · rintro ⟨request, body, sends, brings, ⟨e, broken⟩ | ⟨v, fault, parsed, foreign⟩⟩
    · exact ⟨_, sends.ending_of_broken brings broken⟩
    · obtain ⟨detail, rfl⟩ := exists_detail_of_ofResponse foreign
      rw [sends.ending_of_parsed brings parsed, foreign]
      exact ⟨detail, rfl⟩

/-- Only a file that has grown too large is refused. -/
theorem ending_refused_iff {rejection : Rejection} :
    ending settings candidate kind storage service = .failed (.refused rejection) ↔
      rejection = .tooLarge candidate.name settings.limit settings.limit ∧
      ∃ content, storage.read (Path.ofText candidate.path) = .ok content ∧
        settings.limit.toNat ≤ content.size := by
  constructor
  · intro refused
    have verdict := verdict_ending settings candidate kind storage service
    rw [refused] at verdict
    cases verdict with
    | tooLarge read large unsent => exact ⟨rfl, _, read, large⟩
  · rintro ⟨rfl, content, read, large⟩
    exact (ending_of_prepare_error service (prepare_of_large settings kind read large)).1

/-- Where the transport failed, no body was read. -/
theorem ending_transport {url reason : String} {status : Option UInt16}
    (failed : ending settings candidate kind storage service =
      .failed (.transport url status reason)) :
    url = settings.endpoints.urlFor kind ∧
      ∀ request body, (exchange settings candidate kind storage service).request = some request →
        ¬(service request).reply.Brings body := by
  have verdict := verdict_ending settings candidate kind storage service
  rw [failed] at verdict
  have same {request other : Request}
      (sends : Sends settings candidate kind storage service request)
      (sent : (exchange settings candidate kind storage service).request = some other) :
      request = other :=
    Option.some.inj (sends.sent.symm.trans sent)
  cases verdict with
  | unreadable unread unsent =>
      exact ⟨rfl, fun request body sent => absurd (unsent.symm.trans sent) (by simp)⟩
  | unsendable read small unsent =>
      exact ⟨rfl, fun request body sent => absurd (unsent.symm.trans sent) (by simp)⟩
  | unanswered sends silent =>
      refine ⟨rfl, fun request body sent brings => ?_⟩
      obtain rfl := same sends sent
      obtain ⟨status, -, replied⟩ := brings
      simp [replied, Reply.headStatus?] at silent
  | refused sends answered failure =>
      refine ⟨rfl, fun request body sent brings => ?_⟩
      obtain rfl := same sends sent
      simp [brings.success answered] at failure
  | cutShort sends broken success =>
      refine ⟨rfl, fun request body sent brings => ?_⟩
      obtain rfl := same sends sent
      obtain ⟨status, -, replied⟩ := brings
      simp [replied] at broken

end FormatReview.Upload
