import FormatReview.Path

namespace FormatReview

/-! Files in nested folders, as far as reading them and writing a report needs them. -/

abbrev Location := List String

def Location.step (location : Location) (name : String) : Location :=
  if name = Path.up then location.dropLast else location ++ [name]

def Location.along (location : Location) : List String → List Location
  | [] => [location]
  | name :: rest => location :: (location.step name).along rest

/-- A closed folder may not be gone through, so that nothing in it is known. -/
inductive Entry where
  | folder
  | file (content : ByteArray)
  | closed

namespace Storage

inductive Problem where
  | missing
  | denied
  | exists
  | notFolder
  | isFolder
  | busy
  | tooLong
  | nul
  | full
  | readOnly
  | broken
  deriving DecidableEq, Repr

def Problem.text : Problem → String
  | .missing => "No such file or directory (os error 2)"
  | .broken => "Input/output error (os error 5)"
  | .denied => "Permission denied (os error 13)"
  | .busy => "Device or resource busy (os error 16)"
  | .exists => "File exists (os error 17)"
  | .notFolder => "Not a directory (os error 20)"
  | .isFolder => "Is a directory (os error 21)"
  | .full => "No space left on device (os error 28)"
  | .readOnly => "Read-only file system (os error 30)"
  | .tooLong => "File name too long (os error 36)"
  | .nul => "file name contained an unexpected NUL byte"

/-! A single step of writing. Of several steps each leaves a storage of its own. -/

inductive Change where
  | makeFolder (location : Location)
  | write (location : Location) (content : ByteArray)
  | move (source target : Location)

/-- What keeps a device from making a change. If that is to fill a file, then a first part of it is
there when the trouble comes. -/
structure Trouble where
  problem : Problem
  written : Nat

end Storage

/-- What there is at each location. Relative paths start from the folder `home`. The root itself is
always a folder. No entry is a link, so that two locations are never one file. The device may refuse
any change for reasons of its own. -/
structure Storage where
  home : Location
  entries : List (Location × Entry)
  trouble : Storage.Change → Option Storage.Trouble := fun _ => none

namespace Storage

def get? (storage : Storage) (location : Location) : Option Entry :=
  if location = [] then some .folder else storage.entries.lookup location

def contains (storage : Storage) (location : Location) : Bool := (storage.get? location).isSome

def erase (storage : Storage) (location : Location) : Storage :=
  { storage with entries := storage.entries.filter (·.1 != location) }

def put (storage : Storage) (location : Location) (entry : Entry) : Storage :=
  { storage with entries := (location, entry) :: (storage.erase location).entries }

/-- A move puts the file in place of what was at the target, at once. -/
def make (storage : Storage) : Change → Storage
  | .makeFolder location => storage.put location .folder
  | .write location content => storage.put location (.file content)
  | .move source target =>
      match storage.get? source with
      | none => storage
      | some entry => (storage.erase source).put target entry

def makeAll (storage : Storage) (changes : List Change) : Storage := changes.foldl make storage

/-- The storages after no change, after the first, and so on to the last. -/
def history (storage : Storage) : List Change → List Storage
  | [] => [storage]
  | change :: rest => storage :: (storage.make change).history rest

@[simp] theorem makeAll_nil (storage : Storage) : storage.makeAll [] = storage := rfl

@[simp] theorem makeAll_cons (storage : Storage) (change : Change) (rest : List Change) :
    storage.makeAll (change :: rest) = (storage.make change).makeAll rest := rfl

@[simp] theorem history_nil (storage : Storage) : storage.history [] = [storage] := rfl

@[simp] theorem history_cons (storage : Storage) (change : Change) (rest : List Change) :
    storage.history (change :: rest) = storage :: (storage.make change).history rest := rfl

/-! Following a path. Every name but the last has to be that of a folder. Names and whole paths
are bounded. -/

def longestName : Nat := 255

def longestPath : Nat := 4095

def enter (storage : Storage) (folder : Location) (name : String) : Except Problem Location :=
  match storage.get? folder with
  | none => .error .missing
  | some (.file _) => .error .notFolder
  | some .closed => .error .denied
  | some .folder =>
      if longestName < name.utf8ByteSize then .error .tooLong else .ok (folder.step name)

def start (storage : Storage) (path : Path) : Location := if path.rooted then [] else storage.home

/-- What no path may be, wherever it leads. -/
def flaw? (path : Path) : Option Problem :=
  if path.text.contains '\x00' then some .nul
  else if path.text.isEmpty then some .missing
  else if longestPath < path.text.utf8ByteSize then some .tooLong
  else none

def follow (storage : Storage) (path : Path) : Except Problem Location :=
  match flaw? path with
  | some problem => .error problem
  | none => path.steps.foldlM storage.enter (storage.start path)

/-- What is at the end of a path. A slash behind the last name asks for a folder. -/
def look (storage : Storage) (path : Path) : Except Problem Entry := do
  let location ← storage.follow path
  match storage.get? location with
  | none => .error .missing
  | some .folder => return .folder
  | some .closed => if path.ending = .dot then .error .denied else return .closed
  | some (.file content) => if path.ending = .plain then return .file content else .error .notFolder

def read (storage : Storage) (path : Path) : Except Problem ByteArray := do
  match ← storage.look path with
  | .folder => .error .isFolder
  | .closed => .error .denied
  | .file content => return content

def isFile (storage : Storage) (path : Path) : Bool :=
  match storage.look path with
  | .ok (.file _) => true
  | _ => false

def isFolder (storage : Storage) (path : Path) : Bool :=
  match storage.look path with
  | .ok .folder => true
  | .ok .closed => true
  | _ => false

/-- Where the parent of a location is no folder, nothing can be made there. -/
def room (storage : Storage) (location : Location) : Except Problem Unit :=
  match storage.get? location.dropLast with
  | none => .error .missing
  | some (.file _) => .error .notFolder
  | some .closed => .error .denied
  | some .folder => .ok ()

/-- A change, unless the device refuses it. -/
def allow (storage : Storage) (change : Change) : Except Problem Change :=
  match storage.trouble change with
  | none => .ok change
  | some trouble => .error trouble.problem

/-- Where a file can be written. -/
def writable (storage : Storage) (path : Path) : Except Problem Location := do
  let location ← storage.follow path
  match storage.get? location with
  | some .folder => .error .isFolder
  | some .closed => .error .isFolder
  | some (.file _) => if path.ending = .plain then return location else .error .isFolder
  | none => do
      storage.room location
      if path.ending = .plain then return location else .error .isFolder

/-- Opening a file to write it creates it, or leaves nothing of what it held. -/
def opening (storage : Storage) (path : Path) : Except Problem Location := do
  let location ← storage.writable path
  let _ ← storage.allow (.write location .empty)
  return location

/-- What fills an opened file. Where that breaks off, what was written by then is left. -/
def filling (storage : Storage) (location : Location) (content : ByteArray) :
    Change × Option Problem :=
  match (storage.trouble (.write location content)).filter (·.written < content.size) with
  | none => (.write location content, none)
  | some trouble =>
      (.write location (content.extract 0 trouble.written), some trouble.problem)

/-- Writing opens a file and then fills it. -/
def writing (storage : Storage) (path : Path) (content : ByteArray) :
    List Change × Option Problem :=
  match storage.opening path with
  | .error problem => ([], some problem)
  | .ok location =>
      let (filled, problem) := storage.filling location content
      ([.write location .empty, filled], problem)

/-- What keeps a file from being moved to the end of a path: a folder is there, or the path ends as
only that of a folder can. -/
def obstacle? (target : Path) (found : Option Entry) : Option Problem :=
  if target.name?.isNone then some .busy
  else
    match target.ending, found with
    | .plain, some .folder => some .isFolder
    | .plain, some .closed => some .isFolder
    | .plain, _ => none
    | .slash, _ => some .notFolder
    | .dot, none => some .missing
    | .dot, some (.file _) => some .notFolder
    | .dot, some .folder => some .busy
    | .dot, some .closed => some .denied

def moving (storage : Storage) (source target : Path) : Except Problem (List Change) := do
  let origin ← storage.follow source
  let destination ← storage.follow target
  if !storage.contains origin then .error .missing
  match obstacle? target (storage.get? destination) with
  | some problem => .error problem
  | none => return [← storage.allow (.move origin destination)]

/-! Making a folder with all the folders above it. -/

def makingFolder (storage : Storage) (path : Path) : Except Problem Change := do
  let location ← storage.follow path
  if storage.contains location then .error .exists
  storage.room location
  storage.allow (.makeFolder location)

/-- The folders to make, of some that are given from the lowest, and the problem that stops it. -/
def makingFolders (storage : Storage) : List Path → List Change × Option Problem
  | [] => ([], none)
  | path :: above =>
      match storage.makingFolder path with
      | .ok change => ([change], none)
      | .error .missing =>
          let (changes, problem) := makingFolders storage above
          match problem with
          | some problem => (changes, some problem)
          | none =>
              match (storage.makeAll changes).makingFolder path with
              | .ok change => (changes ++ [change], none)
              | .error problem =>
                  if (storage.makeAll changes).isFolder path then (changes, none)
                  else (changes, some problem)
      | .error problem =>
          if storage.isFolder path then ([], none) else ([], some problem)

end Storage

end FormatReview
