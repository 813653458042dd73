namespace FormatReview

/-! Slash-separated paths: the names on the way, the name at the end, and its parts. -/

/-- What follows the last name of a path. -/
inductive Path.Ending where
  | plain
  | slash
  | dot
  deriving DecidableEq, Repr

/-- A path as the texts between its slashes, of which one of no slashes has a single one. -/
structure Path where
  pieces : List String
  deriving DecidableEq, Repr

namespace Path

def splitSlash : List Char → List (List Char)
  | [] => [[]]
  | c :: rest =>
      if c = '/' then [] :: splitSlash rest
      else
        match splitSlash rest with
        | [] => [[c]]
        | first :: more => (c :: first) :: more

def ofText (text : String) : Path := ⟨(splitSlash text.toList).map String.ofList⟩

def text (path : Path) : String := "/".intercalate path.pieces

theorem splitSlash_ne_nil (text : List Char) : splitSlash text ≠ [] := by
  cases text with
  | nil => simp [splitSlash]
  | cons c rest =>
    unfold splitSlash
    split
    · simp
    · split <;> simp

theorem intercalate_splitSlash (text : List Char) : ['/'].intercalate (splitSlash text) = text := by
  induction text with
  | nil => rfl
  | cons c rest ih =>
    rw [splitSlash]
    cases pieces : splitSlash rest with
    | nil => exact absurd pieces (splitSlash_ne_nil rest)
    | cons first more =>
      rw [pieces] at ih
      by_cases slash : c = '/'
      · simp [slash, ih]
      · cases more with
        | nil => simpa [slash] using ih
        | cons second more => simpa [slash] using ih

/-- Nothing of a path's text is lost. -/
@[simp] theorem text_ofText (text : String) : (ofText text).text = text := by
  apply String.toList_injective
  simp [Path.text, ofText, String.toList_intercalate, Function.comp_def, intercalate_splitSlash]

/-- Neither a repeated slash nor a dot of its own is a step. -/
def isStep (piece : String) : Bool := piece != "" && piece != "."

def steps (path : Path) : List String := path.pieces.filter isStep

def rooted (path : Path) : Bool := 1 < path.pieces.length && path.pieces.head? == some ""

def ending (path : Path) : Ending :=
  if (path.pieces.filter (· != "")).getLast? = some "." then .dot
  else if 1 < path.pieces.length ∧ path.pieces.getLast? = some "" then .slash
  else .plain

/-- The pieces down to the last name, and that name. -/
def split (path : Path) : List String × Option String :=
  match path.pieces.reverse.dropWhile fun piece => !isStep piece with
  | [] => ([], none)
  | name :: above => (above.reverse, some name)

def up : String := ".."

/-- The last name on the path, unless that leads back up. -/
def name? (path : Path) : Option String := path.steps.getLast?.filter (· != up)

/-- What stands behind the last dot, provided that something stands before it. -/
def extensionChars? (name : List Char) : Option (List Char) :=
  let tail := (name.reverse.takeWhile (· != '.')).reverse
  if name.length ≤ tail.length + 1 then none else some tail

def stemChars (name : List Char) : List Char :=
  match extensionChars? name with
  | none => name
  | some tail => name.take (name.length - tail.length - 1)

def extensionOf? (name : String) : Option String :=
  (extensionChars? name.toList).map String.ofList

def stemOf (name : String) : String := String.ofList (stemChars name.toList)

def stem? (path : Path) : Option String := path.name?.map stemOf

def extension? (path : Path) : Option String := path.name?.bind extensionOf?

/-- The paths down to each name, from the last to the first. Pieces are given last first. -/
def upwards : List String → List Path
  | [] => []
  | piece :: above =>
      if isStep piece then ⟨(piece :: above).reverse⟩ :: upwards above else upwards above

/-- The folders on the way to the last name, from the lowest. -/
def folders (path : Path) : List Path := (upwards path.pieces.reverse).drop 1

/-- Puts `extension` in the place of the last name's own; a path without a name stays. Of a single
dot and an extension at the end only two dots are left, which lead up. -/
def withExtension (path : Path) (extension : String) : Path :=
  match path.stem? with
  | none => path
  | some stem =>
      if stem = "." ∧ path.ending = .plain then ⟨path.split.1 ++ [up]⟩
      else ⟨path.split.1 ++ [stem ++ "." ++ extension]⟩

end Path

end FormatReview
