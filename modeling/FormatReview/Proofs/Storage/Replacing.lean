import FormatReview.Export
import FormatReview.Proofs.Path
import FormatReview.Proofs.Storage.Moments

namespace FormatReview

/-! Replacing a file: what is at its place at each moment, and what the steps leave there. -/

open Json (bind_ok_iff)

namespace Storage

variable {storage late : Storage} {location : Location} {path temporary : Path}

theorem place_append {above : List String} {name : String} (storage : Storage)
    (walked : path.steps = above ++ [name]) (down : name ≠ Path.up) :
    storage.place path = above.foldl Location.step (storage.start path) ++ [name] := by
  rw [place, walked, List.foldl_append, List.foldl_cons, List.foldl_nil, Location.step, if_neg down]

theorem place_ne_of_beside {above : List String} {name next : String} (storage : Storage)
    (beside : path.Beside temporary above name next) :
    storage.place temporary ≠ storage.place path := by
  have together : storage.start temporary = storage.start path := by
    rw [start, start, beside.rooted]
  rw [place_append storage beside.steps beside.name_ne_up,
    place_append storage beside.otherSteps beside.next_ne_up, together]
  intro same
  exact beside.next_ne_name (List.singleton_injective (List.append_cancel_left same))

/-- A file at the end of the path was opened for writing, which no folder is. -/
structure Opened (storage : Storage) (path : Path) : Prop where
  followed : storage.follow path = .ok (storage.place path)
  file : storage.get? (storage.place path) ≠ some .folder

theorem Opened.place_ne_root (opened : storage.Opened path) : storage.place path ≠ [] := by
  intro root
  exact opened.file (root ▸ storage.get?_root)

theorem opened_of_writable (writable : storage.writable path = .ok location) :
    location = storage.place path ∧ storage.Opened path := by
  obtain ⟨reached, followed, checked⟩ := bind_ok_iff.1 writable
  obtain rfl := place_of_follow followed
  cases there : storage.get? (storage.place path) with
  | none =>
      simp only [there] at checked
      obtain ⟨_, -, same⟩ := bind_ok_iff.1 checked
      split at same
      · exact ⟨(Except.ok.inj same).symm, followed, by simp [there]⟩
      · cases same
  | some entry =>
      cases entry with
      | folder => simp only [there] at checked; cases checked
      | closed => simp only [there] at checked; cases checked
      | file old =>
          simp only [there] at checked
          split at checked
          · exact ⟨(Except.ok.inj checked).symm, followed, by simp [there]⟩
          · cases checked

theorem opening_ok (opening : storage.opening path = .ok location) :
    location = storage.place path ∧ storage.Opened path := by
  obtain ⟨reached, writable, allowed⟩ := bind_ok_iff.1 opening
  obtain ⟨_, -, same⟩ := bind_ok_iff.1 allowed
  obtain rfl := Except.ok.inj same
  exact opened_of_writable writable

/-- What writing a file comes to. The device may break it off once the file was opened. -/
inductive Wrote (storage : Storage) (path : Path) (content : ByteArray) :
    List Change × Option Problem → Prop
  | unopened {problem : Problem} : Wrote storage path content ([], some problem)
  | broken {trouble : Trouble} (opened : storage.Opened path)
      (refused : storage.trouble (.write (storage.place path) content) = some trouble)
      (short : trouble.written < content.size) :
      Wrote storage path content
        ([.write (storage.place path) .empty,
          .write (storage.place path) (content.extract 0 trouble.written)], some trouble.problem)
  | whole (opened : storage.Opened path) :
      Wrote storage path content
        ([.write (storage.place path) .empty, .write (storage.place path) content], none)

theorem wrote_writing (storage : Storage) (path : Path) (content : ByteArray) :
    storage.Wrote path content (storage.writing path content) := by
  rw [writing]
  cases opening : storage.opening path with
  | error problem => exact .unopened
  | ok location =>
      obtain ⟨rfl, opened⟩ := opening_ok opening
      simp only [filling]
      split
      · exact .whole opened
      · next trouble counts =>
          obtain ⟨refused, short⟩ := Option.filter_eq_some_iff.1 counts
          exact .broken opened refused (of_decide_eq_true short)

namespace Wrote

variable {content : ByteArray} {changes : List Change} {stopped : Option Problem}

/-- All that is written goes to the end of the path. -/
theorem writes (wrote : storage.Wrote path content (changes, stopped)) {change : Change}
    (member : change ∈ changes) :
    storage.Opened path ∧ ∃ part, change = .write (storage.place path) part := by
  cases wrote with
  | unopened => cases member
  | broken opened | whole opened =>
      refine ⟨opened, ?_⟩
      simp only [List.mem_cons, List.not_mem_nil, or_false] at member
      rcases member with rfl | rfl <;> exact ⟨_, rfl⟩

theorem get?_of_whole (wrote : storage.Wrote path content (changes, none)) :
    storage.Opened path ∧
      (storage.makeAll changes).get? (storage.place path) = some (.file content) := by
  cases wrote with
  | whole opened => exact ⟨opened, get?_put_self _ _ opened.place_ne_root⟩

end Wrote

theorem obstacle?_none {target : Path} {found : Option Entry}
    (clear : obstacle? target found = none) :
    target.ending = .plain ∧ found ≠ some .folder := by
  unfold obstacle? at clear
  by_cases unnamed : target.name?.isNone
  · rw [if_pos unnamed] at clear
    cases clear
  · rw [if_neg unnamed] at clear
    cases ending : target.ending with
    | plain =>
        refine ⟨rfl, ?_⟩
        rintro rfl
        simp [ending] at clear
    | slash => simp [ending] at clear
    | dot =>
        rcases found with - | - | content | -
        all_goals simp [ending] at clear

theorem moving_ok {source target : Path} {changes : List Change}
    (moving : storage.moving source target = .ok changes) :
    storage.follow target = .ok (storage.place target) ∧ target.ending = .plain ∧
      storage.get? (storage.place target) ≠ some .folder ∧
      changes = [.move (storage.place source) (storage.place target)] := by
  obtain ⟨origin, followed, rest⟩ := bind_ok_iff.1 moving
  obtain ⟨destination, led, rest⟩ := bind_ok_iff.1 rest
  rw [← place_of_follow followed, ← place_of_follow led]
  cases present : storage.contains origin with
  | false =>
      rw [present] at rest
      cases rest
  | true =>
      rw [present] at rest
      cases clear : obstacle? target (storage.get? destination) with
      | some problem =>
          simp only [clear] at rest
          cases rest
      | none =>
          simp only [clear] at rest
          obtain ⟨plain, free⟩ := obstacle?_none clear
          obtain ⟨change, allowed, listed⟩ := bind_ok_iff.1 rest
          obtain rfl := allow_ok allowed
          exact ⟨led, plain, free, (Except.ok.inj listed).symm⟩

/-- A file that was moved is read at the end of the path that it was moved to. -/
theorem read_of_moved {source target : Path} {changes : List Change} {content : ByteArray}
    (moving : storage.moving source target = .ok changes)
    (file : storage.get? (storage.place source) = some (.file content)) :
    (storage.makeAll changes).get? (storage.place target) = some (.file content) ∧
      (storage.makeAll changes).read target = .ok content := by
  obtain ⟨led, plain, free, rfl⟩ := moving_ok moving
  have made : storage.makeAll [.move (storage.place source) (storage.place target)] =
      (storage.erase (storage.place source)).put (storage.place target) (.file content) := by
    rw [makeAll_cons, makeAll_nil, make, file]
  have below : storage.place target ≠ [] := by
    intro root
    exact free (root ▸ storage.get?_root)
  have there : (storage.makeAll [.move (storage.place source) (storage.place target)]).get?
      (storage.place target) = some (.file content) := by
    rw [made]
    exact get?_put_self _ _ below
  refine ⟨there, ?_⟩
  have followed : (storage.makeAll [.move (storage.place source) (storage.place target)]).follow
      target = .ok (storage.place target) := by
    refine follow_of_folders (by rw [made]; rfl) (fun location folder => ?_) led
    -- Neither end of the move is a folder, so that no folder is touched.
    have start : location ≠ storage.place source := by
      rintro rfl
      rw [file] at folder
      cases folder
    have finish : location ≠ storage.place target := by
      rintro rfl
      exact free folder
    rw [made, get?_put_of_ne _ _ finish, get?_erase_of_ne _ start, folder]
  rw [read, look, followed]
  simp only [bind, Except.bind, there, plain, if_pos, pure, Except.pure]

theorem home_make (storage : Storage) (change : Change) :
    (storage.make change).home = storage.home := by
  cases change with
  | makeFolder | write => rfl
  | move source target =>
      rw [make]
      split <;> rfl

theorem Moment.home {changes : List Change} (moment : Moment storage changes late) :
    late.home = storage.home := by
  induction moment with
  | now => rfl
  | amid written => rfl
  | later _ ih => rw [ih, home_make]

end Storage

namespace Export

open Storage (Change Problem Moment)

variable {storage late : Storage} {path : Path} {content : ByteArray}

/-- The ways in which a file comes to its place, or does not. -/
inductive Replaced (storage : Storage) (path : Path) (content : ByteArray) :
    List Change × Option Problem → Prop
  | unreached {folders problem} :
      storage.makingFolders path.folders = (folders, some problem) →
      Replaced storage path content (folders, some problem)
  | unwritten {folders writes problem} :
      storage.makingFolders path.folders = (folders, none) →
      (storage.makeAll folders).Wrote (path.withExtension temporaryExtension) content
        (writes, some problem) →
      Replaced storage path content (folders ++ writes, some problem)
  | unmoved {folders writes problem} :
      storage.makingFolders path.folders = (folders, none) →
      (storage.makeAll folders).Wrote (path.withExtension temporaryExtension) content
        (writes, none) →
      (storage.makeAll (folders ++ writes)).moving (path.withExtension temporaryExtension) path =
        .error problem →
      Replaced storage path content (folders ++ writes, some problem)
  | moved {folders writes moves} :
      storage.makingFolders path.folders = (folders, none) →
      (storage.makeAll folders).Wrote (path.withExtension temporaryExtension) content
        (writes, none) →
      (storage.makeAll (folders ++ writes)).moving (path.withExtension temporaryExtension) path =
        .ok moves →
      Replaced storage path content (folders ++ writes ++ moves, none)

theorem replaced_replacing (storage : Storage) (path : Path) (content : ByteArray) :
    Replaced storage path content (replacing storage path content) := by
  rw [replacing]
  cases making : storage.makingFolders path.folders with
  | mk folders stopped =>
      cases stopped with
      | some problem => exact .unreached making
      | none =>
          have wrote := (storage.makeAll folders).wrote_writing
            (path.withExtension temporaryExtension) content
          cases writing : (storage.makeAll folders).writing
              (path.withExtension temporaryExtension) content with
          | mk writes broken =>
              rw [writing] at wrote
              cases broken with
              | some problem =>
                  simp only [writing]
                  exact .unwritten making wrote
              | none =>
                  cases moving : (storage.makeAll (folders ++ writes)).moving
                      (path.withExtension temporaryExtension) path with
                  | error problem =>
                      simp only [writing, moving]
                      exact .unmoved making wrote moving
                  | ok moves =>
                      simp only [writing, moving]
                      exact .moved making wrote moving

/-- The file that is written first is never at the place of the report. -/
theorem place_temporary_ne (tree : storage.IsTree)
    (opened : storage.Opened (path.withExtension temporaryExtension)) :
    storage.place (path.withExtension temporaryExtension) ≠ storage.place path := by
  rcases path.withExtension_cases (by decide : '.' ∈ temporaryExtension.toList) with
    unnamed | ⟨above, name, next, beside⟩
  · -- Without a name the path leads to a folder, where no file is written.
    exact absurd (tree.folder_of_unnamed unnamed opened.followed) opened.file
  · exact Storage.place_ne_of_beside _ beside

/-- Until a file is moved to its place, that is left alone, or is a folder that the path itself
goes through. -/
def Untouched (storage : Storage) (path : Path) (late : Storage) : Prop :=
  late.get? (storage.place path) = storage.get? (storage.place path) ∨
    storage.Returns path ∧ storage.get? (storage.place path) = none ∧
      late.get? (storage.place path) = some .folder

variable {folders writes moves : List Change}

theorem untouched_of_folders {stopped : Option Problem}
    (making : storage.makingFolders path.folders = (folders, stopped))
    (moment : Moment storage folders late) : Untouched storage path late := by
  have same : (storage.makingFolders path.folders).1 = folders := by rw [making]
  exact Storage.get?_of_moment_makingFolders (same ▸ moment)

theorem writes_beside (tree : storage.IsTree)
    (making : storage.makingFolders path.folders = (folders, none)) {stopped : Option Problem}
    (wrote : (storage.makeAll folders).Wrote (path.withExtension temporaryExtension) content
      (writes, stopped)) {change : Change} (member : change ∈ writes) :
    ∃ part, change = .write (storage.place (path.withExtension temporaryExtension)) part ∧
      storage.place (path.withExtension temporaryExtension) ≠ storage.place path := by
  have grown : storage.Grown (storage.makeAll folders) := by
    have after := storage.grown_makingFolders path.folders
    rw [making] at after
    exact after _ (storage.makeAll_mem_history folders)
  obtain ⟨opened, part, rfl⟩ := wrote.writes member
  have elsewhere := place_temporary_ne (grown.tree tree) opened
  rw [grown.place, grown.place] at elsewhere
  exact ⟨part, by rw [grown.place], elsewhere⟩

theorem get?_of_writes (tree : storage.IsTree)
    (making : storage.makingFolders path.folders = (folders, none)) {stopped : Option Problem}
    (wrote : (storage.makeAll folders).Wrote (path.withExtension temporaryExtension) content
      (writes, stopped))
    (moment : Moment (storage.makeAll folders) writes late) :
    late.get? (storage.place path) = (storage.makeAll folders).get? (storage.place path) := by
  refine moment.get?_of_untouched fun change member => ?_
  obtain ⟨part, rfl, elsewhere⟩ := writes_beside tree making wrote member
  simpa [Change.touched] using elsewhere.symm

theorem untouched_of_writes (tree : storage.IsTree)
    (making : storage.makingFolders path.folders = (folders, none)) {stopped : Option Problem}
    (wrote : (storage.makeAll folders).Wrote (path.withExtension temporaryExtension) content
      (writes, stopped))
    (moment : Moment storage (folders ++ writes) late) : Untouched storage path late := by
  rcases moment.of_append with early | after
  · exact untouched_of_folders making early
  · have folded := untouched_of_folders making (storage.moment_last folders)
    rw [Untouched, get?_of_writes tree making wrote after]
    exact folded

/-- Whatever stops the replacing of a file, its place is not touched before. -/
theorem untouched_of_replacing_failed (tree : storage.IsTree) {changes : List Change}
    {problem : Problem} (failed : replacing storage path content = (changes, some problem))
    (moment : Moment storage changes late) : Untouched storage path late := by
  have course := replaced_replacing storage path content
  rw [failed] at course
  cases course with
  | unreached making => exact untouched_of_folders making moment
  | unwritten making wrote => exact untouched_of_writes tree making wrote moment
  | unmoved making wrote _ => exact untouched_of_writes tree making wrote moment

theorem folder_of_writes (tree : storage.IsTree)
    (making : storage.makingFolders path.folders = (folders, none))
    (wrote : (storage.makeAll folders).Wrote (path.withExtension temporaryExtension) content
      (writes, none))
    (moment : Moment storage (folders ++ writes) late)
    (folder : late.get? (storage.place path) = some .folder) :
    (storage.makeAll (folders ++ writes)).get? (storage.place path) = some .folder := by
  have last := get?_of_writes tree making wrote (Storage.moment_last _ writes)
  rw [Storage.makeAll_append, last]
  rcases moment.of_append with early | after
  · have made := storage.makesFolders_makingFolders path.folders
    rw [making] at made
    exact made.folder_stays early folder
  · rwa [get?_of_writes tree making wrote after] at folder

/-- A folder at the place of the file would still be there at the move, and stop it. -/
theorem unchanged_of_moving (tree : storage.IsTree)
    (making : storage.makingFolders path.folders = (folders, none))
    (wrote : (storage.makeAll folders).Wrote (path.withExtension temporaryExtension) content
      (writes, none))
    (moving : (storage.makeAll (folders ++ writes)).moving (path.withExtension temporaryExtension)
      path = .ok moves)
    (moment : Moment storage (folders ++ writes) late) :
    late.get? (storage.place path) = storage.get? (storage.place path) := by
  rcases untouched_of_writes tree making wrote moment with same | ⟨-, -, folder⟩
  · exact same
  · obtain ⟨-, -, free, -⟩ := Storage.moving_ok moving
    rw [Storage.place_of_home (storage.moment_last (folders ++ writes)).home] at free
    exact absurd (folder_of_writes tree making wrote moment folder) free

/-- A file that is replaced is there as it was until one last move puts the new one there. -/
theorem replaced_of_replacing_ok (tree : storage.IsTree) {changes : List Change}
    (done : replacing storage path content = (changes, none)) :
    ∃ before source, changes = before ++ [.move source (storage.place path)] ∧
      (∀ late, Moment storage before late →
        late.get? (storage.place path) = storage.get? (storage.place path)) ∧
      (storage.makeAll changes).get? (storage.place path) = some (.file content) ∧
      (storage.makeAll changes).read path = .ok content := by
  have course := replaced_replacing storage path content
  rw [done] at course
  cases course with
  | @moved folders writes moves making wrote moving =>
      have early := (storage.moment_last folders).home
      have middle := (storage.moment_last (folders ++ writes)).home
      have written := wrote.get?_of_whole.2
      rw [Storage.place_of_home early, ← Storage.place_of_home middle,
        ← Storage.makeAll_append] at written
      have final := Storage.read_of_moved moving written
      have last := (Storage.moving_ok moving).2.2.2
      rw [← Storage.makeAll_append, Storage.place_of_home middle] at final
      rw [Storage.place_of_home middle path] at last
      exact ⟨folders ++ writes, _, by rw [last],
        fun late moment => unchanged_of_moving tree making wrote moving moment, final⟩

/-- No write ever goes to the place of the file itself. -/
theorem writes_elsewhere (tree : storage.IsTree) {location : Location} {part : ByteArray}
    (member : .write location part ∈ (replacing storage path content).1) :
    location ≠ storage.place path := by
  have folderless {folders : List Change} {stopped : Option Problem}
      (making : storage.makingFolders path.folders = (folders, stopped)) :
      .write location part ∉ folders := by
    intro member
    have made := storage.makesFolders_makingFolders path.folders
    rw [making] at made
    obtain ⟨_, impossible⟩ := made _ member
    cases impossible
  have beside {folders writes : List Change} {stopped : Option Problem}
      (making : storage.makingFolders path.folders = (folders, none))
      (wrote : (storage.makeAll folders).Wrote (path.withExtension temporaryExtension) content
        (writes, stopped)) (member : .write location part ∈ folders ++ writes) :
      location ≠ storage.place path := by
    have inside := (List.mem_append.1 member).resolve_left (folderless making)
    obtain ⟨_, same, elsewhere⟩ := writes_beside tree making wrote inside
    rw [(Change.write.inj same).1]
    exact elsewhere
  have course := replaced_replacing storage path content
  cases result : replacing storage path content with
  | mk changes stopped =>
      rw [result] at course member
      cases course with
      | unreached making => exact absurd member (folderless making)
      | unwritten making wrote => exact beside making wrote member
      | unmoved making wrote _ => exact beside making wrote member
      | moved making wrote moving =>
          obtain ⟨-, -, -, rfl⟩ := Storage.moving_ok moving
          exact beside making wrote ((List.mem_append.1 member).resolve_right (by simp))

end Export

end FormatReview
