import FormatReview.Text.Printable
import FormatReview.Web.Domain.Direction
import FormatReview.Web.Domain.Joining
import FormatReview.Web.Domain.Mapping
import FormatReview.Web.Punycode

namespace FormatReview.Web.Domain

open Text

/-! Domain names, which may be given in any script, in the ASCII form that they are looked up by. -/

def labels : List Char → List (List Char)
  | [] => [[]]
  | c :: rest =>
      if c = '.' then [] :: labels rest
      else
        match labels rest with
        | [] => [[c]]
        | first :: more => (c :: first) :: more

/-- What a label starts with that is the ASCII form of another. -/
def asciiMark : List Char := ['x', 'n', '-', '-']

def longestCode : Nat := 2000

def longestLabel : Nat := 1000

/-- A character that a label may show: one that nothing else stands in the place of. -/
def isShown (c : Char) : Bool :=
  c = joiner || c = nonJoiner ||
    (!unprintables.contains c && !barred.contains c && mapped c == [c])

/-- The label that an ASCII form is of, and any other label itself. -/
def shown? (label : List Char) : Option (List Char) :=
  if asciiMark.isPrefixOf label then
    let code := label.drop asciiMark.length
    if label.getLast? = some '-' ∨ longestCode < code.length then none
    else (Punycode.decode? code).filter fun text => normal text == text
  else some label

def isPlain (label : List Char) : Bool := label.all Punycode.isAscii

def isWellFormed (label : List Char) : Bool :=
  label.all isShown && !label.head?.any isMark && joinersFit label &&
    (isPlain label || decide (label.length ≤ longestLabel))

def asciiLabel (label : List Char) : List Char :=
  if isPlain label then label else asciiMark ++ Punycode.encode label

def ascii? (name : List Char) : Option (List Char) := do
  let written := labels (normal (name.flatMap mapped))
  let shown ← written.mapM shown?
  if shown.all isWellFormed && directionsFit shown then
    return ['.'].intercalate (written.map asciiLabel)
  else none

end FormatReview.Web.Domain
