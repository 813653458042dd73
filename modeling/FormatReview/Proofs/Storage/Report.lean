import FormatReview.Proofs.Storage.Replacing

namespace FormatReview

/-! A report file comes to its place whole, and one that could not be written leaves what is there. -/

namespace Export

open Storage (Moment)

variable {storage : Storage}

theorem Untouched.file? {late : Storage} {path : Path} (untouched : Untouched storage path late) :
    late.file? (storage.place path) = storage.file? (storage.place path) := by
  rw [Storage.file?, Storage.file?]
  rcases untouched with same | ⟨-, free, folder⟩
  · rw [same]
  · rw [free, folder]

theorem write_of_fontless {report : ReportSettings} {fault : Fault}
    (fontless : Font.choose storage report.font = .error fault) (review : Review) (path : String) :
    write storage review report path = ⟨[], .error fault⟩ := by
  have unprinted : print storage review report = .error fault := by
    rw [print, fontless]
    rfl
  rw [write, unprinted]

/-- A report that is not written leaves the file at its place as it was, at all times. -/
theorem file?_of_write_failed (tree : storage.IsTree) {review : Review} {report : ReportSettings}
    {path : String} {fault : Fault}
    (failed : (write storage review report path).outcome = .error fault) {late : Storage}
    (moment : Moment storage (write storage review report path).changes late) :
    late.file? (storage.place (.ofText path)) = storage.file? (storage.place (.ofText path)) := by
  rw [write] at failed moment
  cases printing : print storage review report with
  | error unprinted =>
      simp only [printing] at moment
      rw [moment.of_nil]
  | ok printed =>
      simp only [printing] at failed moment
      cases replaced : replacing storage (.ofText path) printed.file with
      | mk changes stopped =>
          simp only [replaced] at failed moment
          cases stopped with
          | none => cases failed
          | some problem => exact (untouched_of_replacing_failed tree replaced moment).file?

/-! A storage with nothing but a small font, and a review without findings. -/

/-- A font of five tables. Each character from the space up to the Cyrillic ones is half as wide as
it is high. -/
def plainFont : ByteArray :=
  let directory : List UInt8 := [0, 1, 0, 0, 0, 5, 0, 0, 0, 0, 0, 0,
    0x63, 0x6d, 0x61, 0x70, 0, 0, 0, 0, 0, 0, 0, 92, 0, 0, 0, 40,
    0x68, 0x65, 0x61, 0x64, 0, 0, 0, 0, 0, 0, 0, 132, 0, 0, 0, 54,
    0x68, 0x68, 0x65, 0x61, 0, 0, 0, 0, 0, 0, 0, 186, 0, 0, 0, 36,
    0x68, 0x6d, 0x74, 0x78, 0, 0, 0, 0, 0, 0, 0, 222, 0, 0, 0, 4,
    0x6d, 0x61, 0x78, 0x70, 0, 0, 0, 0, 0, 0, 0, 226, 0, 0, 0, 6]
  let characters : List UInt8 := [0, 0, 0, 1, 0, 3, 0, 10, 0, 0, 0, 12,
    0, 12, 0, 0, 0, 0, 0, 28, 0, 0, 0, 0, 0, 0, 0, 1, 0, 0, 0, 0x20, 0, 0, 4, 0xff, 0, 0, 0, 1]
  let head : List UInt8 := [0, 1, 0, 0, 0, 0, 0, 0, 0, 0, 0, 0, 0x5f, 0x0f, 0x3c, 0xf5, 0, 0, 0x03,
    0xe8] ++ List.replicate 34 0
  let header : List UInt8 := [0, 1, 0, 0, 0x03, 0x20, 0xff, 0x38] ++ List.replicate 27 0 ++ [1]
  let widths : List UInt8 := [0x01, 0xf4, 0, 0]
  let profile : List UInt8 := [0, 0, 0x50, 0, 0x04, 0xe1]
  ⟨(directory ++ characters ++ head ++ header ++ widths ++ profile).toArray⟩

def storageOf (font : ByteArray) : Storage := { home := [], entries := [(["f.ttf"], .file font)] }

def plainStorage : Storage := storageOf plainFont

def plainSettings : ReportSettings := { ReportSettings.standard with font := some "f.ttf" }

theorem isTree_plainStorage : plainStorage.IsTree :=
  .of_flat rfl (by simp [plainStorage, storageOf])

theorem load_ok {path name : String} {content : ByteArray} {face : Font.TrueType}
    (read : storage.read (.ofText path) = .ok content)
    (named : (Path.ofText path).stem? = some name)
    (parsed : Font.TrueType.parse content = .ok face) :
    Font.load storage path = .ok ⟨name, content, face⟩ := by
  simp only [Font.load, read, named, Font.ofBytes, parsed, bind, Except.bind, Except.mapError, pure,
    Except.pure, Option.getD_some]

/-- No file of a document is shorter than its mark. -/
theorem lt_size_bytes (document : Paper.Document Float32) : 8 < document.bytes.size := by
  have longer (objects : List (ByteArray × Nat)) (assembly : Paper.Document.Assembly)
      (begun : 8 < assembly.file.size) :
      8 < (objects.foldl Paper.Document.appendObject assembly).file.size := by
    induction objects generalizing assembly with
    | nil => exact begun
    | cons object rest ih =>
        refine ih _ ?_
        simp only [Paper.Document.appendObject, ByteArray.size_append]
        omega
  have body := longer document.objects.zipIdx ⟨"%PDF-1.4\n".toUTF8, []⟩ (by decide)
  simp only [Paper.Document.bytes, ByteArray.size_append]
  omega

theorem print_ok {font : Font} {review : Review} {report : ReportSettings}
    {extent : Paper.Extent} (chosen : Font.choose storage report.font = .ok font)
    (drawn : ((Paper.drawReport Paper.Document.canvas font.typeface report.title report.fontSize
      review.findings).run.run (.empty report.title font)).1 = .ok extent) :
    ∃ file, 8 < file.size ∧ print storage review report = .ok ⟨extent, file⟩ := by
  cases ran : (Paper.drawReport Paper.Document.canvas font.typeface report.title report.fontSize
      review.findings).run.run (.empty report.title font) with
  | mk result document =>
      rw [ran] at drawn
      obtain rfl : result = .ok extent := drawn
      refine ⟨document.bytes, lt_size_bytes document, ?_⟩
      simp only [print, chosen, bind, Except.bind, ran, pure, Except.pure]

set_option maxRecDepth 100000 in
theorem print_of_plainFont (read : storage.read (.ofText "f.ttf") = .ok plainFont) :
    ∃ file, 8 < file.size ∧
      print storage (.ofFindings []) plainSettings = .ok ⟨⟨1, 0⟩, file⟩ := by
  have named : (Path.ofText "f.ttf").stem? = some "f" := by cbv
  have drawn : (Font.TrueType.parse plainFont).toOption.bind (fun face =>
      ((Paper.drawReport Paper.Document.canvas (Font.typeface ⟨"f", plainFont, face⟩)
        plainSettings.title plainSettings.fontSize []).run.run
        (.empty plainSettings.title ⟨"f", plainFont, face⟩)).1.toOption) = some ⟨1, 0⟩ := by
    decide +kernel
  cases parsed : Font.TrueType.parse plainFont with
  | error flaw =>
      rw [parsed] at drawn
      cases drawn
  | ok face =>
      rw [parsed] at drawn
      have chosen : Font.choose storage plainSettings.font = .ok ⟨"f", plainFont, face⟩ :=
        load_ok read named parsed
      refine print_ok chosen ?_
      cases result : ((Paper.drawReport Paper.Document.canvas (Font.typeface ⟨"f", plainFont, face⟩)
          plainSettings.title plainSettings.fontSize []).run.run
          (.empty plainSettings.title ⟨"f", plainFont, face⟩)).1 with
      | error fault =>
          simp only [Except.toOption, Option.bind_some, result] at drawn
          cases drawn
      | ok extent =>
          simp only [Except.toOption, Option.bind_some, result] at drawn
          rw [← Option.some.inj drawn]
          exact result

theorem print_plain :
    ∃ file, print plainStorage (.ofFindings []) plainSettings = .ok ⟨⟨1, 0⟩, file⟩ := by
  have read (font : ByteArray) : (storageOf font).read (.ofText "f.ttf") = .ok font := by cbv
  obtain ⟨file, -, printed⟩ := print_of_plainFont (read plainFont)
  exact ⟨file, printed⟩

/-! The report file at every moment. -/

/-- At every moment the place of a report holds what it held before, or the whole report. It holds
what it held up to the last change, which brings the report there; a report that is not written
leaves its place untouched, and one that cannot be drawn changes nothing at all. -/
theorem report_replaced_whole (tree : storage.IsTree) (review : Review) (report : ReportSettings)
    (path : String) :
    let written := write storage review report path
    let place := storage.place (.ofText path)
    (∀ location part, .write location part ∈ written.changes → location ≠ place) ∧
    match written.outcome with
    | .ok extent =>
        ∃ file before source, print storage review report = .ok ⟨extent, file⟩ ∧
          written.changes = before ++ [.move source place] ∧
          (∀ late, Moment storage before late → late.get? place = storage.get? place) ∧
          (∀ late, Moment storage written.changes late →
            late.get? place = storage.get? place ∨ late.get? place = some (.file file)) ∧
          (storage.makeAll written.changes).get? place = some (.file file) ∧
          (storage.makeAll written.changes).read (.ofText path) = .ok file
    | .error fault =>
        print storage review report = .error fault ∧ written.changes = [] ∨
          ∃ printed problem, print storage review report = .ok printed ∧
            fault = .reportWriteFailed path (Storage.Problem.text problem) ∧
            ∀ late, Moment storage written.changes late →
              Untouched storage (.ofText path) late := by
  intro written place
  cases printing : print storage review report with
  | error fault =>
      have unwritten : written = ⟨[], .error fault⟩ := by simp only [written, write, printing]
      rw [unwritten]
      exact ⟨fun location part member => absurd member List.not_mem_nil, .inl ⟨rfl, rfl⟩⟩
  | ok printed =>
      have elsewhere (location : Location) (part : ByteArray)
          (member : .write location part ∈ (replacing storage (.ofText path) printed.file).1) :
          location ≠ storage.place (.ofText path) := writes_elsewhere tree member
      cases replaced : replacing storage (.ofText path) printed.file with
      | mk changes stopped =>
          rw [replaced] at elsewhere
          cases stopped with
          | some problem =>
              have failed : written =
                  ⟨changes, .error (.reportWriteFailed path problem.text)⟩ := by
                simp only [written, write, printing, replaced]
              rw [failed]
              exact ⟨elsewhere, .inr ⟨printed, problem, rfl, rfl, fun late moment =>
                untouched_of_replacing_failed tree replaced moment⟩⟩
          | none =>
              have done : written = ⟨changes, .ok printed.extent⟩ := by
                simp only [written, write, printing, replaced]
              obtain ⟨before, source, split, unmoved, final⟩ :=
                replaced_of_replacing_ok tree replaced
              rw [done]
              refine ⟨elsewhere, printed.file, before, source, rfl, split, unmoved, ?_, final⟩
              intro late moment
              rw [split] at moment
              rcases moment.of_last_move with earlier | rfl
              · exact .inl (unmoved late earlier)
              · rw [← split]
                exact .inr final.1

/-- The path goes through its own end: on the way to the report the folder `x` is made, and a file
cannot be moved there. -/
theorem folder_at_place_of_report :
    plainStorage.IsTree ∧
      plainStorage.get? (plainStorage.place (.ofText "x/../x")) = none ∧
      let written := write plainStorage (.ofFindings []) plainSettings "x/../x"
      written.outcome = .error (.reportWriteFailed "x/../x" "Is a directory (os error 21)") ∧
        (plainStorage.makeAll written.changes).get? (plainStorage.place (.ofText "x/../x")) =
          some .folder := by
  have replaced (content : ByteArray) : replacing plainStorage (.ofText "x/../x") content =
      ([.makeFolder ["x"], .write ["x.pdf.tmp"] .empty, .write ["x.pdf.tmp"] content],
        some .isFolder) := by
    rw [plainStorage]
    generalize plainFont = font
    cbv
  have place : plainStorage.place (.ofText "x/../x") = ["x"] := by cbv
  obtain ⟨file, printed⟩ := print_plain
  have written : write plainStorage (.ofFindings []) plainSettings "x/../x" =
      ⟨[.makeFolder ["x"], .write ["x.pdf.tmp"] .empty, .write ["x.pdf.tmp"] file],
        .error (.reportWriteFailed "x/../x" "Is a directory (os error 21)")⟩ := by
    simp only [write, printed, replaced, Storage.Problem.text]
  rw [written, place]
  exact ⟨isTree_plainStorage, rfl, rfl, rfl⟩

/-- In a new folder beside the font the report appears as a whole. -/
theorem report_replaced_in_new_folder :
    plainStorage.IsTree ∧
      ∃ file, print plainStorage (.ofFindings []) plainSettings = .ok ⟨⟨1, 0⟩, file⟩ ∧
        let written := write plainStorage (.ofFindings []) plainSettings "out/r.pdf"
        (∀ late, Moment plainStorage written.changes late →
          late.get? ["out", "r.pdf"] = none ∨ late.get? ["out", "r.pdf"] = some (.file file)) ∧
        (plainStorage.makeAll written.changes).read (.ofText "out/r.pdf") = .ok file := by
  have replaced (content : ByteArray) :
      (replacing plainStorage (.ofText "out/r.pdf") content).2 = none := by
    rw [plainStorage]
    generalize plainFont = font
    cbv
  have place : plainStorage.place (.ofText "out/r.pdf") = ["out", "r.pdf"] := by cbv
  obtain ⟨file, printed⟩ := print_plain
  have done : (write plainStorage (.ofFindings []) plainSettings "out/r.pdf").outcome =
      .ok ⟨1, 0⟩ := by
    have finished := replaced file
    cases result : replacing plainStorage (.ofText "out/r.pdf") file with
    | mk changes stopped =>
        rw [result] at finished
        obtain rfl : stopped = none := finished
        simp only [write, printed, result]
  have whole := (report_replaced_whole isTree_plainStorage (.ofFindings []) plainSettings
    "out/r.pdf").2
  rw [done, place] at whole
  obtain ⟨same, before, source, again, -, -, moments, -, read⟩ := whole
  obtain rfl : same = file := by simpa [printed] using again.symm
  exact ⟨isTree_plainStorage, same, printed, moments, read⟩

end Export

end FormatReview
