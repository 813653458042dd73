import FormatReview.Decimal.Form
import FormatReview.SortedMap

namespace FormatReview

/-! JSON values. An object keeps its fields as written; where a name occurs twice, the later
field counts. -/

/-- Whole numbers from `-2 ^ 63` up to below `2 ^ 64` are exact, all others are floating point
values. -/
inductive Number where
  | int (n : Int)
  | real (x : Float)

inductive Json where
  | null
  | bool (b : Bool)
  | number (n : Number)
  | string (s : String)
  | array (items : List Json)
  | object (fields : List (String × Json))
  deriving Inhabited

namespace Json

def nat (n : Nat) : Json := .number (.int n)

def word (n : UInt64) : Json := .nat n.toNat

def optional (encode : α → Json) : Option α → Json
  | none => .null
  | some a => encode a

@[simp] theorem optional_none (encode : α → Json) : optional encode none = .null := rfl

@[simp] theorem optional_some (encode : α → Json) (a : α) :
    optional encode (some a) = encode a := rfl

/-- The fields of an object by name, in the order of the names. -/
def members (fields : List (String × Json)) : SortedMap Json := SortedMap.ofList fields

def field? (name : String) : Json → Option Json
  | .object fields => (members fields).get? name
  | _ => none

def text? : Json → Option String
  | .string s => some s
  | _ => none

end Json

/-- The fewest digits, positional from five zeros after the point up to sixteen digits before it. -/
def Number.realForm : Decimal.Form := ⟨some (-5), some 15, true, true, .even⟩

def Number.text : Number → String
  | .int n => toString n
  | .real x => realForm.write (Decimal.ofDouble x)

end FormatReview
