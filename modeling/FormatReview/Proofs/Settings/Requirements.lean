import FormatReview.Proofs.Settings.Latest

namespace FormatReview.Settings

/-! The check of settings. There are requirements in a fixed order, and the first of them that is not
met is the flaw. -/

structure Requirement where
  met : Prop
  flaw : Flaw
  [decidable : Decidable met]

namespace Requirement

instance (requirement : Requirement) : Decidable requirement.met := requirement.decidable

def flaw? (requirement : Requirement) : Option Flaw :=
  if requirement.met then none else some requirement.flaw

theorem flaw?_of_met {requirement : Requirement} (met : requirement.met) :
    requirement.flaw? = none :=
  if_pos met

theorem flaw?_of_not_met {requirement : Requirement} (unmet : ¬requirement.met) :
    requirement.flaw? = some requirement.flaw :=
  if_neg unmet

theorem flaw?_eq_none_iff {requirement : Requirement} :
    requirement.flaw? = none ↔ requirement.met := by
  simp [flaw?]

theorem flaw?_eq_some_iff {requirement : Requirement} {flaw : Flaw} :
    requirement.flaw? = some flaw ↔ ¬requirement.met ∧ requirement.flaw = flaw := by
  simp [flaw?]

/-- A check that finds the flaw exactly where the requirement is not met. -/
theorem eq_flaw? {requirement : Requirement} {found : Option Flaw}
    (sound : requirement.met → found = none)
    (flawed : ¬requirement.met → found = some requirement.flaw) : found = requirement.flaw? := by
  by_cases met : requirement.met
  · rw [sound met, flaw?_of_met met]
  · rw [flawed met, flaw?_of_not_met met]

def limit (bytes : UInt64) : Requirement := { met := 0 < bytes, flaw := .noRoom }

def fieldName (name : String) : Requirement :=
  { met := ∃ c ∈ name.toList, Text.isBlank c = false
    flaw := .noFieldName
    decidable := List.decidableBEx _ _ }

def endpoint (url : String) : Requirement :=
  { met := "http://".toList <+: url.toList ∨ "https://".toList <+: url.toList
    flaw := .endpoint url }

def pageSize (rows : Nat) : Requirement :=
  { met := rows = 5 ∨ rows = 10 ∨ rows = 20 ∨ rows = 50, flaw := .pageSize rows }

/-- What is no number is not refused. -/
def fontSize (points : Float32) : Requirement := { met := ¬points ≤ 0, flaw := .fontSize points }

end Requirement

variable (settings : Settings)

/-- Of two addresses the one for Word documents comes first. -/
def requirements : List Requirement :=
  [.limit settings.limit, .fieldName settings.fieldName] ++
    settings.endpoints.urls.map .endpoint ++
    [.pageSize settings.report.pageSize, .fontSize settings.report.fontSize]

theorem limitFlaw?_eq : settings.limitFlaw? = (Requirement.limit settings.limit).flaw? := by
  apply Requirement.eq_flaw?
  · intro room
    exact if_neg (UInt64.pos_iff_ne_zero.1 room)
  · intro noRoom
    exact if_pos (by simpa [Requirement.limit] using noRoom)

theorem hasWord_iff {name : String} :
    Text.hasWord name = true ↔ (Requirement.fieldName name).met := by
  simp [Text.hasWord, Requirement.fieldName]

theorem fieldFlaw?_eq :
    settings.fieldFlaw? = (Requirement.fieldName settings.fieldName).flaw? :=
  Requirement.eq_flaw? (fun named => if_pos (hasWord_iff.2 named))
    fun unnamed => if_neg fun named => unnamed (hasWord_iff.1 named)

theorem isWebAddress_iff {url : String} :
    isWebAddress url = true ↔ (Requirement.endpoint url).met := by
  simp [isWebAddress, Requirement.endpoint]

theorem endpointFlaw?_eq :
    settings.endpointFlaw? =
      (settings.endpoints.urls.map Requirement.endpoint).findSome? Requirement.flaw? := by
  rw [endpointFlaw?]
  induction settings.endpoints.urls with
  | nil => rfl
  | cons url urls ih =>
      rw [List.map_cons, List.findSome?_cons, ← ih]
      cases web : isWebAddress url with
      | true =>
          rw [Requirement.flaw?_of_met (isWebAddress_iff.1 web), List.find?_cons_of_neg (by simp [web])]
      | false =>
          have unmet : ¬(Requirement.endpoint url).met := by
            rw [← isWebAddress_iff, web]
            exact Bool.false_ne_true
          rw [Requirement.flaw?_of_not_met unmet, List.find?_cons_of_pos (by simp [web])]
          rfl

theorem pageFlaw?_eq :
    settings.pageFlaw? = (Requirement.pageSize settings.report.pageSize).flaw? := by
  have offered : settings.report.pageSize ∈ ReportSettings.pageSizes ↔
      (Requirement.pageSize settings.report.pageSize).met := by
    simp [ReportSettings.pageSizes, Requirement.pageSize]
  exact Requirement.eq_flaw? (fun met => if_pos (offered.2 met))
    fun unmet => if_neg fun listed => unmet (offered.1 listed)

theorem fontFlaw?_eq :
    settings.fontFlaw? = (Requirement.fontSize settings.report.fontSize).flaw? :=
  Requirement.eq_flaw? (fun met => if_neg met) fun unmet => if_pos (Decidable.not_not.1 unmet)

theorem findSome?_cons_or (first : Requirement) (rest : List Requirement) :
    (first :: rest).findSome? Requirement.flaw? =
      first.flaw?.or (rest.findSome? Requirement.flaw?) := by
  rw [List.findSome?_cons]
  cases first.flaw? <;> rfl

theorem flaw?_eq : settings.flaw? = settings.requirements.findSome? Requirement.flaw? := by
  simp only [flaw?, limitFlaw?_eq, fieldFlaw?_eq, endpointFlaw?_eq, pageFlaw?_eq, fontFlaw?_eq,
    requirements, List.findSome?_append, findSome?_cons_or, List.findSome?_nil, Option.or_none,
    Option.or_assoc, Option.orElse_eq_orElse, Option.orElse_eq_or]

variable {settings}

theorem flaw?_eq_none_iff :
    settings.flaw? = none ↔ ∀ requirement ∈ settings.requirements, requirement.met := by
  rw [flaw?_eq, List.findSome?_eq_none_iff]
  exact forall₂_congr fun requirement _ => Requirement.flaw?_eq_none_iff

/-- The flaw is that of the first requirement that is not met. -/
theorem flaw?_eq_some_iff {flaw : Flaw} :
    settings.flaw? = some flaw ↔
      ∃ before first after, settings.requirements = before ++ first :: after ∧
        (∀ requirement ∈ before, requirement.met) ∧ ¬first.met ∧ first.flaw = flaw := by
  rw [flaw?_eq, List.findSome?_eq_some_iff]
  constructor
  · rintro ⟨before, first, after, split, found, passed⟩
    obtain ⟨unmet, same⟩ := Requirement.flaw?_eq_some_iff.1 found
    exact ⟨before, first, after, split,
      fun requirement member => Requirement.flaw?_eq_none_iff.1 (passed requirement member), unmet,
      same⟩
  · rintro ⟨before, first, after, split, passed, unmet, same⟩
    exact ⟨before, first, after, split, Requirement.flaw?_eq_some_iff.2 ⟨unmet, same⟩,
      fun requirement member => Requirement.flaw?_of_met (passed requirement member)⟩

variable {changes others : List Setting}

theorem build_congr (same : ∀ part : Part, part.latest? changes = part.latest? others) :
    build changes = build others := by
  rw [build, build, setAll_congr same]

theorem build_ok_iff :
    build changes = .ok settings ↔
      (∀ part : Part, part.held settings = part.latest changes) ∧
        ∀ requirement ∈ settings.requirements, requirement.met := by
  rw [← eq_setAll_iff, build, checked]
  constructor
  · intro built
    split at built
    · cases built
    · next sound =>
        obtain rfl := Except.ok.inj built
        exact ⟨rfl, flaw?_eq_none_iff.1 sound⟩
  · rintro ⟨rfl, met⟩
    rw [flaw?_eq_none_iff.2 met]

theorem build_error_iff {flaw : Flaw} :
    build changes = .error flaw ↔
      ∃ settings : Settings, (∀ part : Part, part.held settings = part.latest changes) ∧
        settings.flaw? = some flaw := by
  simp only [← eq_setAll_iff]
  rw [build, checked]
  constructor
  · intro refused
    split at refused
    · next found =>
        obtain rfl := Except.error.inj refused
        exact ⟨_, rfl, found⟩
    · cases refused
  · rintro ⟨settings, rfl, found⟩
    rw [found]

/-- What settings are built from changes depends on the value that each part was given last, so it
does not depend on the order of changes that are apart. They are built, with those values and with the
standard ones where none was given, if they meet all requirements. Otherwise their flaw is that
of the first requirement that they do not meet. -/
theorem build_of_latest (changes : List Setting) :
    (∀ others : List Setting, (∀ part : Part, part.latest? others = part.latest? changes) →
      build others = build changes) ∧
    (∀ others : List Setting, Setting.Reordered changes others → build others = build changes) ∧
    (∀ others : List Setting, changes.Perm others → changes.Pairwise Setting.Apart →
      build others = build changes) ∧
    (∀ settings : Settings, build changes = .ok settings ↔
      (∀ part : Part, part.held settings = part.latest changes) ∧
        ∀ requirement ∈ settings.requirements, requirement.met) ∧
    ∀ flaw : Flaw, build changes = .error flaw ↔
      ∃ settings : Settings, (∀ part : Part, part.held settings = part.latest changes) ∧
        ∃ before first after, settings.requirements = before ++ first :: after ∧
          (∀ requirement ∈ before, requirement.met) ∧ ¬first.met ∧ first.flaw = flaw := by
  refine ⟨fun others same => build_congr same, fun others reordered => ?_,
    fun others permuted apart => ?_, fun settings => build_ok_iff, fun flaw => ?_⟩
  · exact (build_congr reordered.latest?_eq).symm
  · exact (build_congr (Setting.Reordered.of_perm permuted apart).latest?_eq).symm
  · simp only [build_error_iff, flaw?_eq_some_iff]

end FormatReview.Settings
