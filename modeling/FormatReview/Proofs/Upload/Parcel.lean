import Mathlib
import FormatReview.Client
import FormatReview.Proofs.Upload.Protocol

namespace FormatReview.Upload

/-! What goes to the service: the whole file in its own order, or nothing at all. -/

/-- The chunks make up the content in its order. All are full but the last, and none is empty. -/
structure Divides (chunks : List ByteArray) (content : ByteArray) : Prop where
  joined : chunks.foldl (· ++ ·) .empty = content
  sized : ∀ chunk ∈ chunks, 1 ≤ chunk.size ∧ chunk.size ≤ 16384
  full : ∀ chunk ∈ chunks.dropLast, chunk.size = 16384

theorem extract_of_size_le {content : ByteArray} {n : Nat} (reached : content.size ≤ n) :
    content.extract 0 n = content := by
  apply ByteArray.ext
  rw [ByteArray.data_extract]
  exact Array.extract_eq_self_of_le reached

def chunkCount (size : Nat) : Nat := (size + chunkSize - 1) / chunkSize

theorem lt_chunkCount_iff {i size : Nat} : i < chunkCount size ↔ i * chunkSize < size := by
  simp only [chunkCount, chunkSize]
  omega

theorem succ_lt_chunkCount_iff {i size : Nat} :
    i < chunkCount size - 1 ↔ (i + 1) * chunkSize < size := by
  simp only [chunkCount, chunkSize]
  omega

section Chunks

variable (content : ByteArray)

def chunkAt (i : Nat) : ByteArray :=
  content.extract (i * chunkSize) (i * chunkSize + chunkSize)

theorem chunks_eq :
    chunks content = (List.range (chunkCount content.size)).map (chunkAt content) := rfl

theorem size_chunkAt (i : Nat) :
    (chunkAt content i).size = min (i * chunkSize + chunkSize) content.size - i * chunkSize :=
  ByteArray.size_extract

theorem joined_chunksBelow (n : Nat) :
    ((List.range n).map (chunkAt content)).foldl (· ++ ·) .empty =
      content.extract 0 (n * chunkSize) := by
  induction n with
  | zero => simp
  | succ n ih =>
      rw [List.range_succ, List.map_append, List.foldl_append, ih, List.map_singleton,
        List.foldl_cons, List.foldl_nil, chunkAt, ByteArray.extract_append_extract,
        Nat.min_eq_left (Nat.zero_le _), Nat.max_eq_right (Nat.le_add_right _ _), Nat.succ_mul]

theorem dropLast_chunks :
    (chunks content).dropLast =
      (List.range (chunkCount content.size - 1)).map (chunkAt content) := by
  rw [chunks_eq, List.dropLast_eq_take, List.length_map, List.length_range, ← List.map_take,
    List.take_range, Nat.min_eq_left (Nat.sub_le _ _)]

theorem divides_chunks : Divides (chunks content) content where
  joined := by
    rw [chunks_eq, joined_chunksBelow]
    apply extract_of_size_le
    exact Nat.not_lt.1 fun short => Nat.lt_irrefl _ (lt_chunkCount_iff.2 short)
  sized chunk member := by
    rw [chunks_eq] at member
    obtain ⟨i, listed, rfl⟩ := List.mem_map.1 member
    have begun := lt_chunkCount_iff.1 (List.mem_range.1 listed)
    rw [size_chunkAt]
    simp only [chunkSize] at begun ⊢
    omega
  full chunk member := by
    rw [dropLast_chunks] at member
    obtain ⟨i, listed, rfl⟩ := List.mem_map.1 member
    have passed := succ_lt_chunkCount_iff.1 (List.mem_range.1 listed)
    rw [size_chunkAt]
    simp only [chunkSize] at passed ⊢
    omega

theorem byteCount_eq_size_joined (pieces : List ByteArray) (start : ByteArray) :
    (pieces.foldl (· ++ ·) start).size = start.size + byteCount pieces := by
  induction pieces generalizing start with
  | nil => rfl
  | cons piece rest ih =>
      rw [List.foldl_cons, ih, ByteArray.size_append, byteCount_cons, Nat.add_assoc]

theorem byteCount_chunks : byteCount (chunks content) = content.size := by
  have joined := byteCount_eq_size_joined (chunks content) .empty
  rw [(divides_chunks content).joined, ByteArray.size_empty, Nat.zero_add] at joined
  exact joined.symm

end Chunks

/-! The two gates: one for the described file, one for the file that is read. -/

theorem limit_lt_of_accept {candidate : Candidate} {policy : AcceptPolicy} {limit : UInt64}
    {kind : DocumentKind} (accepted : Intake.accept candidate policy limit = .ok kind) :
    candidate.size < limit := by
  rw [Intake.accept] at accepted
  split at accepted
  · cases accepted
  · split at accepted
    · cases accepted
    · next small => exact UInt64.not_le.1 small

theorem file_of_inspect {storage : Storage} {path : String} {candidate : Candidate}
    (described : Client.inspect storage path = .ok candidate) :
    ∃ content, storage.look (Path.ofText path) = .ok (.file content) ∧
      candidate.path = path ∧ candidate.size = UInt64.ofNat content.size := by
  rw [Client.inspect] at described
  split at described
  · next content found =>
      obtain rfl := Except.ok.inj described
      exact ⟨content, found, rfl, rfl⟩
  · cases described
  · cases described

theorem read_of_look {storage : Storage} {path : Path} {content : ByteArray}
    (found : storage.look path = .ok (.file content)) : storage.read path = .ok content := by
  rw [Storage.read, found]
  rfl

theorem Reply.outcome_ne_intakeRejected (reply : Reply) (timeout : UInt64) (request : Request)
    (rejection : Rejection) :
    reply.outcome timeout request ≠ .error (.intakeRejected rejection) := by
  cases reply with
  | unanswered => simp [Reply.outcome]
  | late => simp [Reply.outcome]
  | cutShort status =>
      rw [Reply.outcome]
      split <;> simp
  | complete status body =>
      rw [Reply.outcome]
      split
      · cases Json.parse body <;> simp [Except.mapError]
      · simp

section Exchange

variable {settings : Settings} {candidate : Candidate} {kind : DocumentKind} {storage : Storage}
  {service : Service}

theorem exchange_of_sendable {content : ByteArray} {address : Web.Address}
    (read : storage.read (Path.ofText candidate.path) = .ok content)
    (small : content.size < settings.limit.toNat)
    (typed : Web.isMediaType candidate.mediaType = true)
    (found : Web.Address.ofText? (settings.endpoints.urlFor kind) = some address)
    (usable : address.isUsable = true) (service : Service) :
    let request : Request := ⟨settings.endpoints.urlFor kind, address, settings.fieldName,
      candidate.name, candidate.mediaType, chunks content⟩
    exchange settings candidate kind storage service =
      ⟨some request, signals request (service request),
        (service request).reply.outcome settings.timeout request⟩ :=
  exchange_of_prepare_ok (prepare_of_sendable settings kind candidate read small typed found usable)

theorem exchange_ne_intakeRejected {content : ByteArray}
    (read : storage.read (Path.ofText candidate.path) = .ok content)
    (small : content.size < settings.limit.toNat) (rejection : Rejection) :
    (exchange settings candidate kind storage service).outcome ≠
      .error (.intakeRejected rejection) := by
  rcases prepare_of_small settings kind read small with
    ⟨reason, unready⟩ | ⟨request, prepared, -⟩
  · rw [exchange_of_prepare_error unready]
    simp
  · rw [exchange_of_prepare_ok prepared]
    exact Reply.outcome_ne_intakeRejected _ _ _ _

/-- A file that passed the first gate passes the second as long as it stays as it was. -/
theorem exchange_of_unchanged {earlier : Storage} {path : String} {policy : AcceptPolicy}
    {accepted : DocumentKind}
    (described : Client.inspect earlier path = .ok candidate)
    (countable : ∀ content, earlier.read (Path.ofText path) = .ok content →
      content.size < UInt64.size)
    (passed : Intake.accept candidate policy settings.limit = .ok accepted)
    (unchanged : storage.look (Path.ofText path) = earlier.look (Path.ofText path))
    (rejection : Rejection) :
    (exchange settings candidate kind storage service).outcome ≠
      .error (.intakeRejected rejection) := by
  obtain ⟨content, found, rfl, measured⟩ := file_of_inspect described
  have small : content.size < settings.limit.toNat := by
    have below := UInt64.lt_iff_toNat_lt.1 (limit_lt_of_accept passed)
    rwa [measured, UInt64.toNat_ofNat_of_lt' (countable content (read_of_look found))] at below
  exact exchange_ne_intakeRejected (read_of_look (unchanged.trans found)) small rejection

end Exchange

/-- A file that cannot be read, or that has come to the limit, is not sent at all, whatever size it
was described with. Of any other file the service gets one request, at the address for its kind, in
which the part under the configured name has all its bytes in order and tells their number. A file
that passed the gate by its description and has not changed since is not refused as too large. -/
theorem exchange_sends_whole_file (settings : Settings) (candidate : Candidate)
    (kind : DocumentKind) (storage : Storage) (service : Service) :
    let url := settings.endpoints.urlFor kind
    let file := storage.read (Path.ofText candidate.path)
    let exchange := exchange settings candidate kind storage service
    (∀ problem, file = .error problem →
      exchange = ⟨none, [], .error (unreadable candidate.path url problem)⟩) ∧
    (∀ content, file = .ok content → settings.limit.toNat ≤ content.size →
      exchange = ⟨none, [],
        .error (.intakeRejected (.tooLarge candidate.name settings.limit settings.limit))⟩) ∧
    (∀ content address, file = .ok content → content.size < settings.limit.toNat →
      Web.isMediaType candidate.mediaType = true → Web.Address.ofText? url = some address →
      address.isUsable = true →
      ∃ request : Request,
        exchange = ⟨some request, signals request (service request),
          (service request).reply.outcome settings.timeout request⟩ ∧
        request.url = url ∧ request.address = address ∧
        request.fieldName = settings.fieldName ∧ request.fileName = candidate.name ∧
        request.mediaType = candidate.mediaType ∧ request.total.toNat = content.size ∧
        Divides request.chunks content) ∧
    ∀ (earlier : Storage) (path : String) (policy : AcceptPolicy) (accepted : DocumentKind),
      Client.inspect earlier path = .ok candidate →
      (∀ content, earlier.read (Path.ofText path) = .ok content → content.size < UInt64.size) →
      Intake.accept candidate policy settings.limit = .ok accepted →
      storage.look (Path.ofText path) = earlier.look (Path.ofText path) →
      ∀ rejection, exchange.outcome ≠ .error (.intakeRejected rejection) := by
  intro url file exchange
  refine ⟨fun problem unread => ?_, fun content read large => ?_, ?_, ?_⟩
  · exact exchange_of_prepare_error (prepare_of_unread settings kind unread) service
  · exact exchange_of_prepare_error (prepare_of_large settings kind read large) service
  · intro content address read small typed found usable
    refine ⟨_, exchange_of_sendable read small typed found usable service, rfl, rfl, rfl, rfl, rfl,
      ?_, divides_chunks content⟩
    rw [Request.total, byteCount_chunks]
    exact UInt64.toNat_ofNat_of_lt' (Nat.lt_trans small settings.limit.toNat_lt)
  · intro earlier path policy accepted described countable passed unchanged rejection
    exact exchange_of_unchanged described countable passed unchanged rejection

/-- A file of two bytes is described, passes the gate, and is sent as it is. -/
theorem exchange_sends_whole_file_described :
    let settings : Settings := { Settings.standard with endpoints := .single "http://[::1]/" }
    let content : ByteArray := ⟨#[120, 121]⟩
    let storage : Storage := { home := [], entries := [(["a.tex"], .file content)] }
    let candidate : Candidate := ⟨"a.tex", "application/x-tex", 2, "tex", "/a.tex"⟩
    let service : Service := fun _ => ⟨1, .unanswered, []⟩
    let exchange := exchange settings candidate .latex storage service
    Client.inspect storage "/a.tex" = .ok candidate ∧
    Intake.accept candidate .both settings.limit = .ok .latex ∧
    (∀ rejection, exchange.outcome ≠ .error (.intakeRejected rejection)) ∧
    ∃ request, exchange.request = some request ∧ request.url = "http://[::1]/" ∧
      request.fieldName = "file" ∧ request.total.toNat = 2 ∧ Divides request.chunks content := by
  intro settings content storage candidate service exchange
  have found : storage.look (Path.ofText "/a.tex") = .ok (.file content) := by cbv
  have guessed : Candidate.guessMediaType "/a.tex" = "application/x-tex" := by cbv
  have described : Client.inspect storage "/a.tex" = .ok candidate := by
    rw [Client.inspect, found, guessed]
    cbv
  have kind : candidate.kind? = some .latex := by decide
  have accepted : Intake.accept candidate .both settings.limit = .ok .latex := by
    rw [Intake.accept, kind]
    rfl
  have read : storage.read (Path.ofText "/a.tex") = .ok content := read_of_look found
  have typed : Web.isMediaType "application/x-tex" = true := by cbv
  have sendable : (Web.Address.ofText? "http://[::1]/").any Web.Address.isUsable = true := by cbv
  have countable (other : ByteArray) (again : storage.read (Path.ofText "/a.tex") = .ok other) :
      other.size < UInt64.size := by
    obtain rfl := Except.ok.inj (read.symm.trans again)
    decide
  obtain ⟨address, parsed, usable⟩ := (Option.any_eq_true _ _).1 sendable
  obtain ⟨-, -, whole, passed⟩ :=
    exchange_sends_whole_file settings candidate .latex storage service
  obtain ⟨request, made, url, -, name, -, -, total, divides⟩ :=
    whole content address read (by decide) typed parsed usable
  exact ⟨described, accepted, passed storage "/a.tex" .both .latex described countable accepted rfl,
    request, congrArg Exchange.request made, url, name, total, divides⟩

end FormatReview.Upload
