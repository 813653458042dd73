import FormatReview.Proofs.Storage.Growth

namespace FormatReview.Storage

/-! The moments of a run of changes, those in the midst of a write among them, and what the changes
leave alone at each of them. -/

open Json (bind_ok_iff)

variable {storage late : Storage} {location : Location} {path : Path} {changes more : List Change}

/-- The storage at a moment of the changes. Folders are made and files moved at once, but a file
that is being written holds any first part of its content. -/
inductive Moment : Storage → List Change → Storage → Prop
  | now {storage : Storage} {changes : List Change} : Moment storage changes storage
  | amid {storage : Storage} {location : Location} {content : ByteArray} {rest : List Change}
      (written : Nat) :
      Moment storage (.write location content :: rest)
        (storage.put location (.file (content.extract 0 written)))
  | later {storage late : Storage} {change : Change} {rest : List Change} :
      Moment (storage.make change) rest late → Moment storage (change :: rest) late

theorem moment_of_mem_history (member : late ∈ storage.history changes) :
    Moment storage changes late := by
  induction changes generalizing storage with
  | nil =>
      obtain rfl := List.mem_singleton.1 member
      exact .now
  | cons change rest ih =>
      rcases List.mem_cons.1 member with rfl | after
      · exact .now
      · exact .later (ih after)

theorem moment_last (storage : Storage) (changes : List Change) :
    Moment storage changes (storage.makeAll changes) :=
  moment_of_mem_history (storage.makeAll_mem_history changes)

theorem makeAll_append (storage : Storage) (changes more : List Change) :
    storage.makeAll (changes ++ more) = (storage.makeAll changes).makeAll more :=
  List.foldl_append

namespace Moment

theorem of_nil (moment : Moment storage [] late) : late = storage := by
  cases moment
  rfl

theorem of_append (moment : Moment storage (changes ++ more) late) :
    Moment storage changes late ∨ Moment (storage.makeAll changes) more late := by
  induction changes generalizing storage with
  | nil => exact .inr moment
  | cons change rest ih =>
      cases moment with
      | now => exact .inl .now
      | amid written => exact .inl (.amid written)
      | later after => exact (ih after).imp .later id

/-- A move is made at once. -/
theorem of_last_move {source target : Location}
    (moment : Moment storage (changes ++ [.move source target]) late) :
    Moment storage changes late ∨ late = storage.makeAll (changes ++ [.move source target]) := by
  rcases moment.of_append with before | last
  · exact .inl before
  · cases last with
    | now => exact .inl (storage.moment_last changes)
    | later after =>
        rw [after.of_nil, makeAll_append]
        exact .inr rfl

end Moment

/-! Locations that no change touches. -/

def Change.touched : Change → List Location
  | .makeFolder location => [location]
  | .write location _ => [location]
  | .move source target => [source, target]

theorem get?_erase_of_ne (storage : Storage) {other : Location} (distinct : other ≠ location) :
    (storage.erase location).get? other = storage.get? other := by
  simp only [get?, erase, lookup_filter_ne _ distinct]

theorem get?_make_of_untouched {change : Change} (untouched : location ∉ change.touched) :
    (storage.make change).get? location = storage.get? location := by
  cases change with
  | makeFolder made => exact get?_put_of_ne _ _ (by simpa [Change.touched] using untouched)
  | write written content => exact get?_put_of_ne _ _ (by simpa [Change.touched] using untouched)
  | move source target =>
      simp only [Change.touched, List.mem_cons, List.not_mem_nil, or_false, not_or] at untouched
      rw [make]
      split
      · rfl
      · rw [get?_put_of_ne _ _ untouched.2, get?_erase_of_ne _ untouched.1]

/-- What no change touches is there at every moment as it was. -/
theorem Moment.get?_of_untouched (moment : Moment storage changes late)
    (untouched : ∀ change ∈ changes, location ∉ change.touched) :
    late.get? location = storage.get? location := by
  induction moment with
  | now => rfl
  | amid written =>
      have elsewhere := untouched _ List.mem_cons_self
      exact get?_put_of_ne _ _ (by simpa [Change.touched] using elsewhere)
  | later _ ih =>
      rw [ih fun change member => untouched change (List.mem_cons_of_mem _ member)]
      exact get?_make_of_untouched (untouched _ List.mem_cons_self)

/-! Making folders. -/

def MakesFolders (changes : List Change) : Prop :=
  ∀ change ∈ changes, ∃ location, change = .makeFolder location

namespace MakesFolders

theorem tail {change : Change} (folders : MakesFolders (change :: changes)) :
    MakesFolders changes :=
  (List.forall_mem_cons.1 folders).2

theorem head {change : Change} (folders : MakesFolders (change :: changes)) :
    ∃ location, change = .makeFolder location :=
  (List.forall_mem_cons.1 folders).1

/-- A folder is made at once, so there are no moments but those of the history. -/
theorem mem_history (folders : MakesFolders changes) (moment : Moment storage changes late) :
    late ∈ storage.history changes := by
  induction moment with
  | now => exact mem_history_self _ _
  | amid written =>
      obtain ⟨_, impossible⟩ := folders.head
      cases impossible
  | later _ ih => exact List.mem_cons_of_mem _ (ih folders.tail)

theorem folder_makeAll (folders : MakesFolders changes)
    (folder : storage.get? location = some .folder) :
    (storage.makeAll changes).get? location = some .folder := by
  induction changes generalizing storage with
  | nil => exact folder
  | cons change rest ih =>
      obtain ⟨made, rfl⟩ := folders.head
      refine ih folders.tail ?_
      by_cases same : location = made
      · by_cases root : made = []
        · rw [same, root, get?_root]
        · rw [same]
          exact get?_put_self storage .folder root
      · rw [make, get?_put_of_ne _ _ same, folder]

theorem folder_stays (folders : MakesFolders changes) (moment : Moment storage changes late)
    (folder : late.get? location = some .folder) :
    (storage.makeAll changes).get? location = some .folder := by
  induction moment with
  | now => exact folders.folder_makeAll folder
  | amid written =>
      obtain ⟨_, impossible⟩ := folders.head
      cases impossible
  | later _ ih => exact ih folders.tail folder

end MakesFolders

theorem makingFolder_place {change : Change} (making : storage.makingFolder path = .ok change) :
    change = .makeFolder (storage.place path) := by
  obtain ⟨location, followed, made, -⟩ := makingFolder_ok making
  rw [← place_of_follow followed, made]

theorem mem_makingFolders {paths : List Path} {change : Change}
    (member : change ∈ (storage.makingFolders paths).1) :
    ∃ path ∈ paths, change = .makeFolder (storage.place path) := by
  induction paths with
  | nil => cases member
  | cons path above ih =>
      have earlier (member : change ∈ (storage.makingFolders above).1) :
          ∃ other ∈ path :: above, change = .makeFolder (storage.place other) := by
        obtain ⟨other, inside, same⟩ := ih member
        exact ⟨other, List.mem_cons_of_mem _ inside, same⟩
      have grown := storage.grown_makingFolders above
      rw [makingFolders] at member
      split at member
      case h_1 made making =>
        obtain rfl := List.mem_singleton.1 member
        exact ⟨path, List.mem_cons_self, makingFolder_place making⟩
      case h_2 =>
        cases folders : storage.makingFolders above with
        | mk changes problem =>
            rw [folders] at earlier grown
            simp only [folders] at member
            cases problem with
            | some problem => exact earlier member
            | none =>
                cases making : (storage.makeAll changes).makingFolder path with
                | error problem =>
                    simp only [making] at member
                    split at member <;> exact earlier member
                | ok made =>
                    simp only [making, List.mem_append, List.mem_singleton] at member
                    rcases member with member | rfl
                    · exact earlier member
                    · refine ⟨path, List.mem_cons_self, ?_⟩
                      rw [makingFolder_place making,
                        (grown _ (storage.makeAll_mem_history changes)).place]
      case h_3 => split at member <;> cases member

theorem makesFolders_makingFolders (storage : Storage) (paths : List Path) :
    MakesFolders (storage.makingFolders paths).1 := by
  intro change member
  obtain ⟨path, -, same⟩ := mem_makingFolders member
  exact ⟨_, same⟩

/-- The path leads through its own end, as `x/../x` does. -/
def Returns (storage : Storage) (path : Path) : Prop :=
  ∃ folder ∈ path.folders, storage.place folder = storage.place path

/-- While the folders of a path are made, its end is only made if the path goes through it. -/
theorem get?_of_moment_makingFolders
    (moment : Moment storage (storage.makingFolders path.folders).1 late) :
    late.get? (storage.place path) = storage.get? (storage.place path) ∨
      storage.Returns path ∧ storage.get? (storage.place path) = none ∧
        late.get? (storage.place path) = some .folder := by
  have folders := storage.makesFolders_makingFolders path.folders
  have grown := storage.grown_makingFolders path.folders late (folders.mem_history moment)
  by_cases returns : storage.Returns path
  · cases there : storage.get? (storage.place path) with
    | some entry =>
        left
        rw [grown.kept _ (by rw [there]; rfl), there]
    | none => exact (grown.added _ there).imp id fun folder => ⟨returns, rfl, folder⟩
  · left
    refine moment.get?_of_untouched fun change member => ?_
    obtain ⟨folder, inside, rfl⟩ := mem_makingFolders member
    intro touched
    exact returns ⟨folder, inside, (List.mem_singleton.1 touched).symm⟩

/-! Walking on after a change. -/

/-- Where all folders are kept, every path leads where it led. -/
theorem follow_of_folders (home : late.home = storage.home)
    (kept : ∀ location, storage.get? location = some .folder → late.get? location = some .folder)
    (followed : storage.follow path = .ok location) : late.follow path = .ok location := by
  have walks (names : List String) (first : Location)
      (walked : names.foldlM storage.enter first = .ok location) :
      names.foldlM late.enter first = .ok location := by
    induction names generalizing first with
    | nil => exact walked
    | cons name rest ih =>
        rw [List.foldlM_cons] at walked ⊢
        obtain ⟨next, entered, walked⟩ := bind_ok_iff.1 walked
        have folder := (enter_ok entered).1
        have again : late.enter first name = .ok next := by
          rw [enter, folder] at entered
          rw [enter, kept _ folder]
          exact entered
        rw [again]
        exact ih next walked
  have walked := walks _ _ (follow_ok followed)
  rw [follow] at followed ⊢
  cases flawed : flaw? path with
  | some problem =>
      rw [flawed] at followed
      cases followed
  | none =>
      rw [start, home]
      exact walked

end FormatReview.Storage
