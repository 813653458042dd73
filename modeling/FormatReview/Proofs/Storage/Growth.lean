import Mathlib
import FormatReview.Proofs.Json.Decoder
import FormatReview.Storage

namespace FormatReview.Storage

/-! What making folders leaves of a storage: everything that was there, and folders where there was
nothing. Where a path leads is told by the path alone. -/

open Json (bind_ok_iff)

variable {storage late : Storage} {location other : Location}

def file? (storage : Storage) (location : Location) : Option ByteArray :=
  match storage.get? location with
  | some (.file content) => some content
  | _ => none

theorem lookup_filter_ne (entries : List (Location × Entry)) (distinct : other ≠ location) :
    (entries.filter (·.1 != location)).lookup other = entries.lookup other := by
  induction entries with
  | nil => rfl
  | cons first rest ih =>
      obtain ⟨key, entry⟩ := first
      by_cases dropped : key = location
      · have missed : (other == key) = false := by simpa [dropped] using distinct
        rw [List.filter_cons_of_neg (by simpa using dropped), ih]
        simp only [List.lookup_cons, missed]
      · rw [List.filter_cons_of_pos (by simpa using dropped), List.lookup_cons, List.lookup_cons,
          ih]

theorem get?_put_of_ne (storage : Storage) (entry : Entry) (distinct : other ≠ location) :
    (storage.put location entry).get? other = storage.get? other := by
  have missed : (other == location) = false := by simpa using distinct
  simp only [get?, put, erase, List.lookup_cons, missed, lookup_filter_ne _ distinct]

theorem get?_put_self (storage : Storage) (entry : Entry) (below : location ≠ []) :
    (storage.put location entry).get? location = some entry := by
  simp [get?, put, below]

@[simp] theorem get?_root (storage : Storage) : storage.get? [] = some .folder := rfl

theorem ne_root_of_get? (free : storage.get? location = none) : location ≠ [] := by
  rintro rfl
  cases free

/-! Histories. -/

theorem mem_history_self (storage : Storage) (changes : List Change) :
    storage ∈ storage.history changes := by
  cases changes <;> simp

theorem makeAll_mem_history (storage : Storage) (changes : List Change) :
    storage.makeAll changes ∈ storage.history changes := by
  induction changes generalizing storage with
  | nil => simp
  | cons change rest ih => simp [ih]

theorem mem_history_append {changes more : List Change}
    (member : late ∈ storage.history (changes ++ more)) :
    late ∈ storage.history changes ∨ late ∈ (storage.makeAll changes).history more := by
  induction changes generalizing storage with
  | nil => exact .inr member
  | cons change rest ih =>
      simp only [List.cons_append, history_cons, List.mem_cons] at member ⊢
      rcases member with rfl | later
      · exact .inl (.inl rfl)
      · exact (ih later).imp .inr id

/-! Where paths lead. -/

/-- The end of a path, whatever there is on the way. -/
def place (storage : Storage) (path : Path) : Location :=
  path.steps.foldl Location.step (storage.start path)

theorem place_of_home (same : late.home = storage.home) (path : Path) :
    late.place path = storage.place path := by
  simp only [place, start, same]

theorem enter_ok {name : String} (entered : storage.enter location name = .ok other) :
    storage.get? location = some .folder ∧ other = location.step name := by
  rw [enter] at entered
  split at entered
  · cases entered
  · cases entered
  · cases entered
  · split at entered
    · cases entered
    · exact ⟨by assumption, (Except.ok.inj entered).symm⟩

theorem foldlM_enter_ok {names : List String}
    (entered : names.foldlM storage.enter location = .ok other) :
    other = names.foldl Location.step location := by
  induction names generalizing location with
  | nil => exact (Except.ok.inj entered).symm
  | cons name rest ih =>
      rw [List.foldlM_cons] at entered
      cases first : storage.enter location name with
      | error problem => rw [first] at entered; cases entered
      | ok next =>
          rw [first] at entered
          obtain ⟨-, rfl⟩ := enter_ok first
          exact ih entered

theorem follow_ok {path : Path} (followed : storage.follow path = .ok location) :
    path.steps.foldlM storage.enter (storage.start path) = .ok location := by
  rw [follow] at followed
  split at followed
  · cases followed
  · exact followed

theorem place_of_follow {path : Path} (followed : storage.follow path = .ok location) :
    location = storage.place path :=
  foldlM_enter_ok (follow_ok followed)

/-- Every entry is in a folder, and relative paths start in one. -/
structure IsTree (storage : Storage) : Prop where
  home : storage.get? storage.home = some .folder
  above : ∀ location, (storage.get? location).isSome = true →
    storage.get? location.dropLast = some .folder

/-- A storage without folders below its root. -/
theorem IsTree.of_flat (home : storage.home = [])
    (flat : ∀ entry ∈ storage.entries, entry.1.dropLast = []) : storage.IsTree where
  home := by rw [home, get?_root]
  above location there := by
    by_cases root : location = []
    · rw [root]
      rfl
    · rw [get?, if_neg root] at there
      obtain ⟨entry, member, same⟩ := List.lookup_isSome_iff.1 there
      rw [eq_of_beq same, flat entry member, get?_root]

/-- A path without a name at its end leads to a folder, if it leads anywhere. -/
theorem IsTree.folder_of_unnamed (tree : storage.IsTree) {path : Path}
    (unnamed : path.name? = none) (followed : storage.follow path = .ok location) :
    storage.get? location = some .folder := by
  have walked := follow_ok followed
  rcases path.steps.eq_nil_or_concat with none | ⟨before, last, split⟩
  · rw [none] at walked
    obtain rfl := Except.ok.inj walked
    rw [start]
    split
    · rfl
    · exact tree.home
  · have leadsUp : last = Path.up := by
      simpa [Path.name?, split, Option.filter_eq_none_iff] using unnamed
    rw [split, List.concat_eq_append, List.foldlM_append] at walked
    cases there : before.foldlM storage.enter (storage.start path) with
    | error problem => rw [there] at walked; cases walked
    | ok folder =>
        rw [there] at walked
        have entered : [last].foldlM storage.enter folder = .ok location := walked
        simp only [List.foldlM_cons, List.foldlM_nil, bind_pure] at entered
        obtain ⟨folded, rfl⟩ := enter_ok entered
        rw [leadsUp, Location.step, if_pos rfl]
        exact tree.above folder (by rw [folded]; rfl)

/-! Growth. -/

/-- Everything is still there, and where there was nothing there may be a folder. -/
structure Grown (storage late : Storage) : Prop where
  home : late.home = storage.home
  kept : ∀ location, (storage.get? location).isSome = true →
    late.get? location = storage.get? location
  added : ∀ location, storage.get? location = none →
    late.get? location = none ∨ late.get? location = some .folder
  tree : storage.IsTree → late.IsTree

namespace Grown

theorem refl (storage : Storage) : storage.Grown storage where
  home := rfl
  kept _ _ := rfl
  added _ free := .inl free
  tree := id

theorem trans {middle : Storage} (first : storage.Grown middle) (second : middle.Grown late) :
    storage.Grown late where
  home := second.home.trans first.home
  kept location there := by
    have same := first.kept location there
    rw [← same] at there ⊢
    exact second.kept location there
  added location free := by
    rcases first.added location free with still | folder
    · exact second.added location still
    · exact .inr ((second.kept location (by rw [folder]; rfl)).trans folder)
  tree := second.tree ∘ first.tree

theorem file? (grown : storage.Grown late) (location : Location) :
    late.file? location = storage.file? location := by
  rw [Storage.file?, Storage.file?]
  cases there : storage.get? location with
  | some entry => rw [grown.kept location (by rw [there]; rfl), there]
  | none =>
      rcases grown.added location there with free | folder
      · rw [free]
      · rw [folder]

theorem place (grown : storage.Grown late) (path : Path) : late.place path = storage.place path :=
  place_of_home grown.home path

end Grown

theorem IsTree.makeFolder (tree : storage.IsTree) (free : storage.get? location = none)
    (room : storage.get? location.dropLast = some .folder) :
    (storage.make (.makeFolder location)).IsTree := by
  have kept (other : Location) (there : (storage.get? other).isSome = true) :
      (storage.make (.makeFolder location)).get? other = storage.get? other :=
    get?_put_of_ne storage .folder (by rintro rfl; simp [free] at there)
  have home : (storage.get? storage.home).isSome = true := by rw [tree.home]; rfl
  refine ⟨(kept _ home).trans tree.home, fun other there => ?_⟩
  by_cases same : other = location
  · rw [same, kept _ (by rw [room]; rfl), room]
  · rw [make, get?_put_of_ne storage .folder same] at there
    have folder := tree.above other there
    rw [kept _ (by rw [folder]; rfl), folder]

theorem grown_makeFolder (free : storage.get? location = none)
    (room : storage.get? location.dropLast = some .folder) :
    storage.Grown (storage.make (.makeFolder location)) where
  home := rfl
  kept other there := get?_put_of_ne storage .folder (by rintro rfl; simp [free] at there)
  added other empty := by
    by_cases same : other = location
    · rw [same]
      exact .inr (get?_put_self storage .folder (ne_root_of_get? free))
    · rw [make, get?_put_of_ne storage .folder same]
      exact .inl empty
  tree tree := tree.makeFolder free room

theorem room_ok {result : Unit} (room : storage.room location = .ok result) :
    storage.get? location.dropLast = some .folder := by
  rw [Storage.room] at room
  split at room
  · cases room
  · cases room
  · cases room
  · assumption

theorem allow_ok {asked change : Change} (allowed : storage.allow asked = .ok change) :
    change = asked := by
  rw [allow] at allowed
  split at allowed
  · exact (Except.ok.inj allowed).symm
  · cases allowed

theorem makingFolder_ok {path : Path} {change : Change}
    (making : storage.makingFolder path = .ok change) :
    ∃ location, storage.follow path = .ok location ∧ change = .makeFolder location ∧
      storage.get? location = none ∧ storage.get? location.dropLast = some .folder := by
  obtain ⟨location, followed, checked⟩ := bind_ok_iff.1 making
  cases there : storage.contains location with
  | true => rw [if_pos there] at checked; cases checked
  | false =>
      rw [if_neg (by simp [there])] at checked
      obtain ⟨_, room, allowed⟩ := bind_ok_iff.1 checked
      exact ⟨location, followed, allow_ok allowed, by simpa [contains] using there, room_ok room⟩

theorem grown_makingFolder {path : Path} {change : Change}
    (making : storage.makingFolder path = .ok change) :
    ∀ late ∈ storage.history [change], storage.Grown late := by
  obtain ⟨location, -, rfl, free, room⟩ := makingFolder_ok making
  intro late member
  simp only [history_cons, history_nil, List.mem_cons, List.not_mem_nil, or_false] at member
  rcases member with rfl | rfl
  · exact .refl _
  · exact grown_makeFolder free room

/-- After each step of making folders the storage has grown. -/
theorem grown_makingFolders (storage : Storage) (paths : List Path) :
    ∀ late ∈ storage.history (storage.makingFolders paths).1, storage.Grown late := by
  have still : ∀ late ∈ storage.history [], storage.Grown late := by
    simpa using Grown.refl storage
  induction paths with
  | nil => exact still
  | cons path above ih =>
      rw [makingFolders]
      split
      case h_1 change making => exact grown_makingFolder making
      case h_2 =>
        cases folders : storage.makingFolders above with
        | mk changes problem =>
            rw [folders] at ih
            cases problem with
            | some problem => exact ih
            | none =>
                cases making : (storage.makeAll changes).makingFolder path with
                | error problem =>
                    simp only [making]
                    split <;> exact ih
                | ok change =>
                    simp only [making]
                    intro late member
                    rcases mem_history_append member with earlier | later
                    · exact ih late earlier
                    · have made := ih _ (storage.makeAll_mem_history changes)
                      exact made.trans (grown_makingFolder making late later)
      case h_3 => split <;> exact still

end FormatReview.Storage
