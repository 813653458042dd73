import FormatReview.Settings

namespace FormatReview

/-! What a list of changes makes of the settings. Every part of them keeps the value that it was
given last; a change of the whole report gives a value to each of the report's parts. -/

inductive Part where
  | endpoints
  | accept
  | limit
  | fieldName
  | timeout
  | observer
  | title
  | filename
  | font
  | fontSize
  | contextWidth
  | pageSize
  deriving DecidableEq, Repr

namespace Part

def Value : Part → Type
  | .endpoints => Endpoints
  | .accept => AcceptPolicy
  | .limit => UInt64
  | .fieldName => String
  | .timeout => UInt64
  | .observer => Option Observer
  | .title => String
  | .filename => String
  | .font => Option String
  | .fontSize => Float32
  | .contextWidth => Nat
  | .pageSize => Nat

def held : (part : Part) → Settings → part.Value
  | .endpoints, settings => settings.endpoints
  | .accept, settings => settings.accept
  | .limit, settings => settings.limit
  | .fieldName, settings => settings.fieldName
  | .timeout, settings => settings.timeout
  | .observer, settings => settings.observer
  | .title, settings => settings.report.title
  | .filename, settings => settings.report.filename
  | .font, settings => settings.report.font
  | .fontSize, settings => settings.report.fontSize
  | .contextWidth, settings => settings.report.contextWidth
  | .pageSize, settings => settings.report.pageSize

/-- The value that a report gives to a part, if it is one of a report's. -/
def ofReport? : (part : Part) → ReportSettings → Option part.Value
  | .title, report => some report.title
  | .filename, report => some report.filename
  | .font, report => some report.font
  | .fontSize, report => some report.fontSize
  | .contextWidth, report => some report.contextWidth
  | .pageSize, report => some report.pageSize
  | _, _ => none

/-- The value that a change gives to a part. No upload is given less than a second. -/
def given? : (part : Part) → Setting → Option part.Value
  | .endpoints, .endpoints urls => some urls
  | .accept, .accept policy => some policy
  | .limit, .limit bytes => some bytes
  | .fieldName, .fieldName name => some name
  | .timeout, .timeout seconds => some (max seconds 1 : UInt64)
  | .observer, .observer told => some (some told)
  | .title, .title text => some text
  | .filename, .filename path => some path
  | .font, .font path => some (some path)
  | .pageSize, .pageSize rows => some rows
  | part, .report report => part.ofReport? report
  | _, _ => none

/-- The value that a part was given last. -/
def latest? (part : Part) (changes : List Setting) : Option part.Value :=
  (changes.filterMap part.given?).getLast?

/-- The value that a part has in the end: its first one, if it was given no other. -/
def latest (part : Part) (changes : List Setting) : part.Value :=
  (part.latest? changes).getD (part.held .standard)

theorem held_set (part : Part) (settings : Settings) (change : Setting) :
    part.held (settings.set change) = (part.given? change).getD (part.held settings) := by
  cases part <;> cases change <;> rfl

theorem held_setAll (part : Part) (settings : Settings) (changes : List Setting) :
    part.held (settings.setAll changes) = (part.latest? changes).getD (part.held settings) := by
  induction changes generalizing settings with
  | nil => rfl
  | cons change changes ih =>
      rw [Settings.setAll_cons, ih, held_set, latest?, latest?]
      cases given : part.given? change with
      | none => rw [List.filterMap_cons_none given, Option.getD_none]
      | some value =>
          rw [List.filterMap_cons_some given, List.getLast?_cons, Option.getD_some,
            Option.getD_some]

/-- Settings are made of their parts. -/
theorem eq_of_held {settings other : Settings}
    (same : ∀ part : Part, part.held settings = part.held other) : settings = other := by
  obtain ⟨_, _, _, _, _, _, report⟩ := settings
  obtain ⟨_, _, _, _, _, _, otherReport⟩ := other
  obtain ⟨_, _, _, _, _, _⟩ := report
  obtain ⟨_, _, _, _, _, _⟩ := otherReport
  simp only [Settings.mk.injEq, ReportSettings.mk.injEq]
  exact ⟨same .endpoints, same .accept, same .limit, same .fieldName, same .timeout, same .observer,
    same .title, same .filename, same .font, same .fontSize, same .contextWidth, same .pageSize⟩

end Part

namespace Settings

variable {changes others : List Setting}

theorem setAll_congr (same : ∀ part : Part, part.latest? changes = part.latest? others)
    (settings : Settings) : settings.setAll changes = settings.setAll others := by
  apply Part.eq_of_held
  intro part
  rw [part.held_setAll, part.held_setAll, same]

theorem eq_setAll_iff {settings : Settings} :
    settings = standard.setAll changes ↔
      ∀ part : Part, part.held settings = part.latest changes := by
  constructor
  · rintro rfl part
    exact part.held_setAll standard changes
  · intro held
    apply Part.eq_of_held
    intro part
    rw [held, part.held_setAll, Part.latest]

end Settings

namespace Setting

/-- No part is given a value by both changes. -/
def Apart (change other : Setting) : Prop :=
  ∀ part : Part, part.given? change = none ∨ part.given? other = none

theorem Apart.symm {change other : Setting} (apart : change.Apart other) : other.Apart change :=
  fun part => (apart part).symm

/-- The same changes in another order, in which only those that are apart have passed each other. -/
inductive Reordered : List Setting → List Setting → Prop
  | nil : Reordered [] []
  | cons (change : Setting) {changes others : List Setting} (rest : Reordered changes others) :
      Reordered (change :: changes) (change :: others)
  | swap {change other : Setting} (apart : change.Apart other) (changes : List Setting) :
      Reordered (change :: other :: changes) (other :: change :: changes)
  | trans {changes between others : List Setting} (first : Reordered changes between)
      (second : Reordered between others) : Reordered changes others

namespace Reordered

variable {changes others : List Setting}

/-- Each part is given the same values in the same order. -/
theorem filterMap_given? (reordered : Reordered changes others) (part : Part) :
    changes.filterMap part.given? = others.filterMap part.given? := by
  induction reordered with
  | nil => rfl
  | cons change rest ih => rw [List.filterMap_cons, List.filterMap_cons, ih]
  | swap apart changes =>
      rcases apart part with none | none
      · simp only [List.filterMap_cons, none]
      · simp only [List.filterMap_cons, none]
  | trans first second ihFirst ihSecond => exact ihFirst.trans ihSecond

theorem latest?_eq (reordered : Reordered changes others) (part : Part) :
    part.latest? changes = part.latest? others := by
  rw [Part.latest?, Part.latest?, reordered.filterMap_given?]

/-- Changes of which no two meet in a part may come in any order. -/
theorem of_perm (permuted : changes.Perm others) (apart : changes.Pairwise Apart) :
    Reordered changes others := by
  induction permuted with
  | nil => exact .nil
  | cons change permuted ih => exact .cons change (ih (List.pairwise_cons.1 apart).2)
  | swap change other changes =>
      have first := (List.pairwise_cons.1 apart).1 change List.mem_cons_self
      exact .swap first changes
  | trans first second ihFirst ihSecond =>
      have still := (first.pairwise_iff Apart.symm).1 apart
      exact .trans (ihFirst apart) (ihSecond still)

end Reordered

end Setting

end FormatReview
