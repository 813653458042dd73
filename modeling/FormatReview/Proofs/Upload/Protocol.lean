import Mathlib
import FormatReview.Proofs.Upload.Telling
import FormatReview.Proofs.Upload.Verdict

namespace FormatReview.Upload

/-! The order of what an upload tells. Percentages come first, one report ends them, and an observer
hears the same between a start and an end. The percentages rise, unless 100 is told while another one
is still in the hand of the task that sends the body. -/

/-- The call that closes an upload, for the report that ends it. -/
inductive Call.Closes (generation : Nat) : Report → Call → Prop
  | complete (review : Review) :
      Closes generation (.completed review) (.complete generation review.findings.length)
  | failed (url : String) (fault : Fault) :
      Closes generation (.failed (.ofFault url fault)) (.failed generation fault.text)

theorem closes_lastCall (generation : Nat) (url : String) (review : Except Fault Review) :
    (lastCall generation review).Closes generation (lastReport url review) := by
  cases review with
  | ok review => exact .complete review
  | error fault => exact .failed url fault

theorem isTerminal_lastReport (url : String) (review : Except Fault Review) :
    (lastReport url review).isTerminal = true := by
  cases review with
  | ok review => rfl
  | error fault => rfl

section Order

variable {settings : Settings} {candidate : Candidate} {kind : DocumentKind} {storage : Storage}
  {service : Service}

theorem signals_of_unsent
    (unsent : (exchange settings candidate kind storage service).request = none) :
    (exchange settings candidate kind storage service).signals = [] := by
  cases prepared : prepare settings candidate kind storage with
  | error fault => rw [exchange_of_prepare_error prepared]
  | ok request =>
      rw [exchange_of_prepare_ok prepared] at unsent
      cases unsent

theorem signals_of_sent {request : Request}
    (sent : (exchange settings candidate kind storage service).request = some request) :
    (exchange settings candidate kind storage service).signals =
      signals request (service request) := by
  rw [exchange_of_prepare_ok (prepare_of_sent sent)]

variable (settings candidate kind storage service) in
/-- While the last answer came in, both tasks of an upload had a percentage in hand. -/
def Crossed : Prop :=
  ∃ request, (exchange settings candidate kind storage service).request = some request ∧
    (request.telling (service request)).Crosses (request.turns (service request))

theorem received_of_crosses {request : Request} {reaction : Reaction}
    (crosses : (request.telling reaction).Crosses (request.turns reaction)) :
    reaction.reply.received = true := by
  cases received : reaction.reply.received with
  | true => rfl
  | false =>
      refine absurd crosses ?_
      rw [Request.telling, received]
      exact not_crosses_of_unfinished _ _ _

theorem Reply.brings_of_received {reply : Reply} (received : reply.received = true) :
    ∃ body, reply.Brings body := by
  cases reply with
  | complete status body => exact ⟨body, status, received, rfl⟩
  | _ => cases received

theorem Sends.ending_of_brings {request : Request} {body : ByteArray}
    (sends : Sends settings candidate kind storage service request)
    (brings : (service request).reply.Brings body) :
    (∃ review, ending settings candidate kind storage service = .completed review) ∨
      ∃ detail, ending settings candidate kind storage service = .failed (.malformed detail) := by
  cases parsed : Json.parse body with
  | error e => exact .inr ⟨_, sends.ending_of_broken brings parsed⟩
  | ok v =>
      cases found : Review.ofResponse v with
      | ok review =>
          exact .inl ⟨review, ending_completed_iff.2 ⟨_, _, v, sends, brings, parsed, found⟩⟩
      | error fault =>
          exact .inr (ending_malformed_iff.2 ⟨_, _, sends, brings, .inr ⟨v, fault, parsed, found⟩⟩)

theorem ending_of_crossed (crossed : Crossed settings candidate kind storage service) :
    (∃ review, ending settings candidate kind storage service = .completed review) ∨
      ∃ detail, ending settings candidate kind storage service = .failed (.malformed detail) := by
  obtain ⟨request, sent, crosses⟩ := crossed
  obtain ⟨body, brings⟩ := Reply.brings_of_received (received_of_crosses crosses)
  exact (sends_of_sent sent).ending_of_brings brings

theorem exists_received
    (answered : (∃ review, ending settings candidate kind storage service = .completed review) ∨
      ∃ detail, ending settings candidate kind storage service = .failed (.malformed detail)) :
    ∃ request, (exchange settings candidate kind storage service).request = some request ∧
      (service request).reply.received = true := by
  rcases answered with ⟨review, completed⟩ | malformed
  · obtain ⟨request, body, v, sends, brings, -⟩ := ending_completed_iff.1 completed
    exact ⟨request, sends.sent, brings.received⟩
  · obtain ⟨request, body, sends, brings, -⟩ := ending_malformed_iff.1 malformed
    exact ⟨request, sends.sent, brings.received⟩

variable (settings candidate kind storage service) in
/-- What was told, against what was taken in rising order. -/
theorem exists_taken :
    ∃ taken : List UInt8, taken.Pairwise (· < ·) ∧ (∀ percent ∈ taken, percent ≤ 100) ∧
      (∀ ear, Told (Crossed settings candidate kind storage service) taken
        (reaching ear (exchange settings candidate kind storage service).signals)) ∧
      ((∃ request, (exchange settings candidate kind storage service).request = some request ∧
        (service request).reply.received = true) → taken.getLast? = some 100) := by
  cases sent : (exchange settings candidate kind storage service).request with
  | none =>
      rw [signals_of_unsent sent]
      exact ⟨[], .nil, fun _ member => absurd member List.not_mem_nil, fun ear => .inOrder [],
        fun ⟨_, impossible, _⟩ => by cases impossible⟩
  | some request =>
      obtain ⟨made, finished, told⟩ := told_toTheEnd request.total
        (request.advances (service request).pulled) (service request).reply.received
        (service request).turns
      rw [signals_of_sent sent]
      refine ⟨takenOver request.total made, Tracker.tellAll_rising _ _,
        fun _ => Tracker.le_of_mem_tellAll, fun ear => (told ear).imp fun crosses =>
          ⟨request, sent, crosses⟩, ?_⟩
      rintro ⟨other, same, received⟩
      obtain rfl := Option.some.inj same
      exact getLast?_takenOver (finished received)

theorem silent_of_refused {rejection : Rejection}
    (refused : ending settings candidate kind storage service = .failed (.refused rejection)) :
    (exchange settings candidate kind storage service).signals = [] := by
  have verdict := verdict_ending settings candidate kind storage service
  rw [refused] at verdict
  cases verdict with
  | tooLarge read large unsent => exact signals_of_unsent unsent

theorem silent_of_unread {problem : Storage.Problem}
    (unread : storage.read (Path.ofText candidate.path) = .error problem) :
    (exchange settings candidate kind storage service).signals = [] := by
  rw [exchange_of_prepare_error (prepare_of_unread settings kind unread)]

end Order

/-- Every run of an upload: percentages, and one report that ends them. The percentages are taken in
rising order, up to 100 at most. If the service's answer was read the last one taken is 100, and if
nothing was sent there are none. They are told in the order in which they were taken, to the stream
as well as to the observer, unless both tasks had one in hand at some moment, which takes an answer
that comes while the body is being sent: then 100 may be told before the last of the others. The
observer hears of the start before, and of the same end. -/
theorem run_in_order_unless_crossed (settings : Settings) (candidate : Candidate)
    (kind : DocumentKind) (generation : Nat) (storage : Storage) (service : Service) :
    let run := run settings candidate kind generation storage service
    let crossed := Crossed settings candidate kind storage service
    ∃ (taken percents heard : List UInt8) (last : Report) (closing : Call),
      run.events = percents.map (fun percent => ⟨generation, .progress percent⟩) ++
        [⟨generation, last⟩] ∧
      last.isTerminal = true ∧
      taken.Pairwise (· < ·) ∧
      (∀ percent ∈ taken, percent ≤ 100) ∧
      Told crossed taken percents ∧
      Told crossed taken heard ∧
      (crossed → (∃ review, last = .completed review) ∨
        ∃ detail, last = .failed (.malformed detail)) ∧
      ((∃ review, last = .completed review) ∨ (∃ detail, last = .failed (.malformed detail)) →
        taken.getLast? = some 100) ∧
      ((∃ rejection, last = .failed (.refused rejection)) ∨
        (∃ problem, storage.read (Path.ofText candidate.path) = .error problem) →
        percents = [] ∧ heard = []) ∧
      closing.Closes generation last ∧
      run.calls =
        if settings.observed then
          .start generation candidate.name candidate.size ::
            (heard.map (.progress generation) ++ [closing])
        else [] := by
  intro run crossed
  obtain ⟨taken, rising, bounded, told, full⟩ :=
    exists_taken settings candidate kind storage service
  refine ⟨taken, _, _, ending settings candidate kind storage service, _, rfl,
    isTerminal_lastReport _ _, rising, bounded, told .stream, told .observer, ending_of_crossed,
    fun answered => full (exists_received answered), fun kept => ?_, closes_lastCall _ _ _, rfl⟩
  have silent : (exchange settings candidate kind storage service).signals = [] := by
    rcases kept with ⟨rejection, refused⟩ | ⟨problem, unread⟩
    · exact silent_of_refused refused
    · exact silent_of_unread unread
  rw [silent]
  exact ⟨rfl, rfl⟩

namespace Early

/-! A file of two chunks, and an answer that is complete while the first of them is being sent. -/

def twoChunks : ByteArray := ⟨Array.replicate 32768 120⟩

theorem size_twoChunks : twoChunks.size = 32768 := Array.size_replicate

def storage (content : ByteArray) : Storage :=
  { home := [], entries := [(["a.tex"], .file content)] }

def settings : Settings :=
  { Settings.standard with endpoints := .single "http://[::1]/", observer := some ⟨"hearer"⟩ }

def candidate : Candidate := ⟨"a.tex", "application/x-tex", 32768, "tex", "/a.tex"⟩

/-- The body takes 50, and before it tells anyone the upload takes and tells 100. -/
def turns : List Turn := [.body, .upload, .upload, .upload]

def service : Service := fun _ => ⟨1, .complete 200 "[]".toUTF8, turns⟩

variable {content : ByteArray}

theorem exists_chunks (size : content.size = 32768) :
    ∃ first second, chunks content = [first, second] ∧ first.size = 16384 ∧
      second.size = 16384 := by
  refine ⟨content.extract 0 16384, content.extract 16384 32768, ?_, ?_, ?_⟩
  · rw [chunks, size]
    rfl
  · rw [ByteArray.size_extract, size]
    rfl
  · rw [ByteArray.size_extract, size]
    rfl

theorem signals_eq {request : Request} {first second : ByteArray}
    (cut : request.chunks = [first, second]) (sizeFirst : first.size = 16384)
    (sizeSecond : second.size = 16384) :
    signals request (service request) =
      [⟨.observer, 100⟩, ⟨.stream, 100⟩, ⟨.observer, 50⟩, ⟨.stream, 50⟩] := by
  have total : request.total = 32768 := by
    rw [Request.total, cut, byteCount_cons, byteCount_cons, sizeFirst, sizeSecond]
    rfl
  have advances : request.advances 1 = [.bytes 16384] := by
    rw [Request.advances, cut, List.take_one, List.head?_cons, Option.toList_some,
      List.map_singleton, sizeFirst]
    rfl
  have telling : request.telling (service request) = .start 32768 [.bytes 16384] true := by
    rw [Request.telling, total, show (service request).pulled = 1 from rfl, advances]
    rfl
  rw [signals, Request.turns, telling, show (service request).turns = turns from rfl]
  decide

theorem exchange_of_prepared {storage : Storage} {request : Request} {first second : ByteArray}
    (prepared : prepare settings candidate .latex storage = .ok request)
    (cut : request.chunks = [first, second]) (sizeFirst : first.size = 16384)
    (sizeSecond : second.size = 16384) :
    exchange settings candidate .latex storage service =
      ⟨some request, [⟨.observer, 100⟩, ⟨.stream, 100⟩, ⟨.observer, 50⟩, ⟨.stream, 50⟩],
        .ok (.array [])⟩ := by
  have brings : (service request).reply.Brings "[]".toUTF8 := ⟨200, rfl, rfl⟩
  have answer : Json.parse "[]".toUTF8 = .ok (.array []) := by cbv
  rw [exchange_of_prepare_ok prepared, signals_eq cut sizeFirst sizeSecond,
    Reply.outcome_of_brings brings, answer]
  rfl

theorem exchange_eq (size : content.size = 32768) :
    ∃ request, exchange settings candidate .latex (storage content) service =
      ⟨some request, [⟨.observer, 100⟩, ⟨.stream, 100⟩, ⟨.observer, 50⟩, ⟨.stream, 50⟩],
        .ok (.array [])⟩ := by
  have read : (storage content).read (.ofText "/a.tex") = .ok content := by cbv
  have small : content.size < settings.limit.toNat := by
    rw [size]
    decide
  have typed : Web.isMediaType candidate.mediaType = true := by cbv
  have sendable : (Web.Address.ofText? "http://[::1]/").any Web.Address.isUsable = true := by cbv
  obtain ⟨address, parsed, usable⟩ := (Option.any_eq_true _ _).1 sendable
  have prepared := prepare_of_sendable settings .latex candidate read small typed parsed usable
  obtain ⟨first, second, cut, sizeFirst, sizeSecond⟩ := exists_chunks size
  exact ⟨_, exchange_of_prepared prepared cut sizeFirst sizeSecond⟩

end Early

open Early in
/-- The stream gets 100 first, then 50, and then the review, and so does the observer. -/
theorem hundred_before_fifty :
    let run := run settings candidate .latex 1 (storage twoChunks) service
    run.events = [⟨1, .progress 100⟩, ⟨1, .progress 50⟩, ⟨1, .completed (.ofFindings [])⟩] ∧
      run.calls =
        [.start 1 "a.tex" 32768, .progress 1 100, .progress 1 50, .complete 1 0] := by
  intro run
  obtain ⟨request, exchanged⟩ := exchange_eq size_twoChunks
  simp only [run, Upload.run, exchanged]
  exact ⟨rfl, rfl⟩

end FormatReview.Upload
