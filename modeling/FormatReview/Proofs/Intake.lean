import FormatReview.Intake
import FormatReview.Proofs.Path.Names
import FormatReview.Proofs.Text.Lower

namespace FormatReview

/-! The gate before an upload. What it answers follows from the media type, the name that the path
leads to, the size, and what the policy and the limit allow. -/

namespace Candidate

/-- The media type of Word documents, letter by letter but for their case. -/
def IsWordType (mediaType : String) : Prop :=
  List.Forall₂ (fun c d => c.toLower = d.toLower) mediaType.toList wordType.toList

/-- The path leads to a name that has, past its last dot and something before it, the extension of
LaTeX sources. -/
def IsLatexPath (path : String) : Prop :=
  ∃ stem extension : String, Path.LeadsTo path (stem ++ "." ++ extension) ∧ stem ≠ "" ∧
    '.' ∉ extension.toList ∧ Text.lower extension = "tex"

/-- The path does not count where the media type is Word's. -/
def IsOfKind (path mediaType : String) : DocumentKind → Prop
  | .word => IsWordType mediaType
  | .latex => ¬IsWordType mediaType ∧ IsLatexPath path

theorem isWordType_iff {mediaType : String} :
    IsWordType mediaType ↔ lowerAscii mediaType = lowerAscii wordType := by
  rw [IsWordType, lowerAscii, lowerAscii, ← List.forall₂_eq_eq_eq, List.forall₂_map_left_iff,
    List.forall₂_map_right_iff]

/-- No letter outside ASCII is lower-cased to one of this extension. -/
theorem lower_eq_tex_iff {extension : String} :
    Text.lower extension = "tex" ↔ lowerAscii extension = "tex".toList := by
  have letters : "tex".toList = ['t', 'e', 'x'] := rfl
  rw [← String.toList_inj, Text.lower, String.toList_ofList, letters]
  exact Text.lowerAfter_eq_iff (by simp [Text.plainLetters])

theorem lowerExtension_eq_tex_iff {name : String} :
    lowerExtension name = "tex" ↔ ∃ stem extension : String, name = stem ++ "." ++ extension ∧
      stem ≠ "" ∧ '.' ∉ extension.toList ∧ Text.lower extension = "tex" := by
  rw [lowerExtension]
  cases found : Path.extensionOf? name with
  | none =>
      refine ⟨fun impossible => absurd impossible (by decide), ?_⟩
      rintro ⟨stem, extension, split, some, plain, -⟩
      have := Path.extensionOf?_eq_some_iff.2 ⟨stem, some, split, plain⟩
      rw [found] at this
      cases this
  | some extension =>
      constructor
      · intro tex
        obtain ⟨stem, some, split, plain⟩ := Path.extensionOf?_eq_some_iff.1 found
        exact ⟨stem, extension, split, some, plain, tex⟩
      · rintro ⟨stem, other, split, some, plain, tex⟩
        rw [Path.extensionOf?_eq_some_iff.2 ⟨stem, some, split, plain⟩] at found
        obtain rfl := Option.some.inj found
        exact tex

section Describe

variable {path mediaType : String} {size : UInt64}

theorem name_describe {name : String} (leads : Path.LeadsTo path name) :
    (describe path mediaType size).name = name := by
  rw [describe, Path.name?_eq_some_iff.2 leads, Option.getD_some]

theorem name_describe_of_nameless (nameless : ∀ name, ¬Path.LeadsTo path name) :
    (describe path mediaType size).name = "" := by
  have none : (Path.ofText path).name? = none := by
    rw [Option.eq_none_iff_forall_ne_some]
    exact fun name named => nameless name (Path.name?_eq_some_iff.1 named)
  rw [describe, none, Option.getD_none]

theorem extension_describe :
    (describe path mediaType size).extension = "tex" ↔ IsLatexPath path := by
  change lowerExtension ((Path.ofText path).name?.getD "") = "tex" ↔ _
  rw [lowerExtension_eq_tex_iff]
  constructor
  · rintro ⟨stem, extension, split, some, plain, tex⟩
    refine ⟨stem, extension, ?_, some, plain, tex⟩
    cases named : (Path.ofText path).name? with
    | none =>
        rw [named, Option.getD_none, eq_comm] at split
        exact absurd (String.append_eq_empty_iff.1 (String.append_eq_empty_iff.1 split).1).1 some
    | some name =>
        rw [named, Option.getD_some] at split
        exact split ▸ Path.name?_eq_some_iff.1 named
  · rintro ⟨stem, extension, leads, some, plain, tex⟩
    have named := Path.name?_eq_some_iff.2 leads
    exact ⟨stem, extension, by rw [named, Option.getD_some], some, plain, tex⟩

theorem kind?_describe_eq_some_iff {kind : DocumentKind} :
    (describe path mediaType size).kind? = some kind ↔ IsOfKind path mediaType kind := by
  change (if lowerAscii mediaType = lowerAscii wordType then some .word
    else if (describe path mediaType size).extension = "tex" then some .latex else none) =
      some kind ↔ _
  by_cases isWord : IsWordType mediaType
  · rw [if_pos (isWordType_iff.1 isWord)]
    cases kind <;> simp [IsOfKind, isWord]
  · rw [if_neg (mt isWordType_iff.2 isWord)]
    by_cases isLatex : IsLatexPath path
    · rw [if_pos (extension_describe.2 isLatex)]
      cases kind <;> simp [IsOfKind, isWord, isLatex]
    · rw [if_neg (mt extension_describe.1 isLatex)]
      cases kind <;> simp [IsOfKind, isWord, isLatex]

end Describe

end Candidate

namespace Intake

variable {candidate : Candidate} {policy wider : AcceptPolicy} {limit higher : UInt64}
  {kind : DocumentKind}

/-- The type of a candidate is known and wanted. -/
def Wanted (candidate : Candidate) (policy : AcceptPolicy) (kind : DocumentKind) : Prop :=
  candidate.kind? = some kind ∧ policy.allows kind = true

theorem filter_eq_some_iff :
    candidate.kind?.filter policy.allows = some kind ↔ Wanted candidate policy kind :=
  Option.filter_eq_some_iff

theorem accept_of_wanted (wanted : Wanted candidate policy kind) :
    accept candidate policy limit =
      if limit ≤ candidate.size then .error (.tooLarge candidate.name candidate.size limit)
      else .ok kind := by
  rw [accept, filter_eq_some_iff.2 wanted]

theorem accept_of_unwanted (unwanted : ∀ kind, ¬Wanted candidate policy kind) :
    accept candidate policy limit =
      .error (.unsupportedType candidate.name policy.describe) := by
  have none : candidate.kind?.filter policy.allows = none := by
    rw [Option.eq_none_iff_forall_ne_some]
    exact fun kind found => unwanted kind (filter_eq_some_iff.1 found)
  rw [accept, none]

theorem Wanted.kind_eq {other : DocumentKind} (wanted : Wanted candidate policy kind)
    (again : Wanted candidate policy other) : kind = other :=
  Option.some.inj (wanted.1.symm.trans again.1)

theorem accept_eq_ok_iff :
    accept candidate policy limit = .ok kind ↔
      Wanted candidate policy kind ∧ candidate.size < limit := by
  by_cases known : ∃ other, Wanted candidate policy other
  · obtain ⟨other, wanted⟩ := known
    rw [accept_of_wanted wanted]
    split
    · next large => simp [UInt64.not_lt.2 large]
    · next small =>
        rw [Except.ok.injEq]
        constructor
        · rintro rfl
          exact ⟨wanted, UInt64.not_le.1 small⟩
        · exact fun accepted => wanted.kind_eq accepted.1
  · rw [accept_of_unwanted (not_exists.1 known)]
    simpa using fun wanted => absurd ⟨kind, wanted⟩ known

theorem accept_eq_tooLarge_iff :
    accept candidate policy limit =
        .error (.tooLarge candidate.name candidate.size limit) ↔
      (∃ kind, Wanted candidate policy kind) ∧ limit ≤ candidate.size := by
  by_cases known : ∃ kind, Wanted candidate policy kind
  · obtain ⟨kind, wanted⟩ := known
    rw [accept_of_wanted wanted]
    split
    · next large => simpa [large] using ⟨kind, wanted⟩
    · next small => simp [small]
  · rw [accept_of_unwanted (not_exists.1 known)]
    simp [known]

theorem accept_eq_unsupportedType_iff :
    accept candidate policy limit =
        .error (.unsupportedType candidate.name policy.describe) ↔
      ¬∃ kind, Wanted candidate policy kind := by
  by_cases known : ∃ kind, Wanted candidate policy kind
  · obtain ⟨kind, wanted⟩ := known
    have some : ∃ kind, Wanted candidate policy kind := ⟨kind, wanted⟩
    rw [accept_of_wanted wanted]
    split <;> simp [some]
  · rw [accept_of_unwanted (not_exists.1 known)]
    simp [known]

/-- What is accepted stays accepted, as what it is, where more is allowed. -/
theorem accept_mono (accepted : accept candidate policy limit = .ok kind)
    (widens : ∀ kind, policy.allows kind = true → wider.allows kind = true)
    (raises : limit ≤ higher) : accept candidate wider higher = .ok kind := by
  obtain ⟨⟨known, allowed⟩, small⟩ := accept_eq_ok_iff.1 accepted
  exact accept_eq_ok_iff.2 ⟨⟨known, widens kind allowed⟩, UInt64.lt_of_lt_of_le small raises⟩

theorem wanted_describe_iff {path mediaType : String} {size : UInt64} :
    Wanted (.describe path mediaType size) policy kind ↔
      Candidate.IsOfKind path mediaType kind ∧ policy.allows kind = true := by
  rw [Wanted, Candidate.kind?_describe_eq_some_iff]

/-- The gate is exact for files described by a path: the type is told by the media type before the
name at the end of the path, and it counts before the size. -/
theorem accept_exact (path mediaType : String) (size : UInt64) (policy : AcceptPolicy)
    (limit : UInt64) :
    let candidate := Candidate.describe path mediaType size
    let answer := accept candidate policy limit
    let typed := fun kind => Candidate.IsOfKind path mediaType kind ∧ policy.allows kind = true
    (∀ kind, answer = .ok kind ↔ typed kind ∧ size < limit) ∧
      (answer = .error (.tooLarge candidate.name size limit) ↔
        (∃ kind, typed kind) ∧ limit ≤ size) ∧
      (answer = .error (.unsupportedType candidate.name policy.describe) ↔ ∀ kind, ¬typed kind) ∧
      (∀ name, Path.LeadsTo path name → candidate.name = name) ∧
      ((∀ name, ¬Path.LeadsTo path name) → candidate.name = "") ∧
      (∀ extension, Text.lower extension = "tex" ↔
        Candidate.lowerAscii extension = "tex".toList) ∧
      ∀ kind higher, answer = .ok kind → limit ≤ higher →
        accept candidate policy higher = .ok kind ∧ accept candidate .both higher = .ok kind := by
  intro candidate answer typed
  have wanted : ∀ kind, Wanted candidate policy kind ↔ typed kind := fun kind => wanted_describe_iff
  refine ⟨fun kind => ?ok, ?tooLarge, ?unsupportedType, fun name => Candidate.name_describe,
    Candidate.name_describe_of_nameless, fun extension => Candidate.lower_eq_tex_iff,
    fun kind higher accepted raises => ⟨?raised, ?widened⟩⟩
  case ok =>
    rw [← wanted kind]
    exact accept_eq_ok_iff
  case tooLarge =>
    rw [← exists_congr wanted]
    exact accept_eq_tooLarge_iff
  case unsupportedType =>
    rw [← not_exists, ← exists_congr wanted]
    exact accept_eq_unsupportedType_iff
  case raised => exact accept_mono accepted (fun _ allowed => allowed) raises
  case widened => exact accept_mono accepted (fun _ _ => AcceptPolicy.allows_both _) raises

end Intake

end FormatReview
