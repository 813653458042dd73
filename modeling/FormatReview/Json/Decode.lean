import FormatReview.Json.Value
import FormatReview.Text.Quoted

namespace FormatReview.Json

/-! Reading typed data out of a JSON value, with the reason when the value does not fit. -/

inductive Found where
  | null
  | bool (b : Bool)
  | number (n : Number)
  | string (s : String)
  | sequence
  | map
  | bareVariant

def Found.text : Found → String
  | .null => "null"
  | .bool b => "boolean `" ++ (if b then "true" else "false") ++ "`"
  | .number (.int n) => "integer `" ++ toString n ++ "`"
  | .number (.real x) => "floating point `" ++ (Number.real x).text ++ "`"
  | .string s => "string " ++ Text.quoted s
  | .sequence => "sequence"
  | .map => "map"
  | .bareVariant => "unit variant"

def found : Json → Found
  | .null => .null
  | .bool b => .bool b
  | .number n => .number n
  | .string s => .string s
  | .array _ => .sequence
  | .object _ => .map

inductive Mismatch where
  | type (found : Found) (expected : String)
  | value (found : Found) (expected : String)
  | length (n : Nat) (expected : String)
  | missingField (name : String)
  | duplicateField (name : String)
  | unknownVariant (name : String) (known : List String)

def ticked (name : String) : String := "`" ++ name ++ "`"

def variantChoice : List String → String
  | [one] => ticked one
  | [one, other] => ticked one ++ " or " ++ ticked other
  | many => "one of " ++ String.intercalate ", " (many.map ticked)

def Mismatch.text : Mismatch → String
  | .type found expected => "invalid type: " ++ found.text ++ ", expected " ++ expected
  | .value found expected => "invalid value: " ++ found.text ++ ", expected " ++ expected
  | .length n expected => "invalid length " ++ toString n ++ ", expected " ++ expected
  | .missingField name => "missing field " ++ ticked name
  | .duplicateField name => "duplicate field " ++ ticked name
  | .unknownVariant name known =>
      "unknown variant " ++ ticked name ++ ", expected " ++ variantChoice known

abbrev Decoder (α : Type u) := Json → Except Mismatch α

namespace Decoder

def misfit (expected : String) (v : Json) : Except Mismatch α := .error (.type v.found expected)

def string : Decoder String
  | .string s => .ok s
  | v => misfit "a string" v

def path : Decoder String
  | .string s => .ok s
  | v => misfit "path string" v

def natBelow (bound : Nat) (expected : String) : Decoder Nat
  | .number (.int n) =>
      if 0 ≤ n ∧ n < bound then .ok n.toNat
      else .error (.value (.number (.int n)) expected)
  | v => misfit expected v

def word : Decoder UInt64 := fun v => (natBelow UInt64.size "u64" v).map UInt64.ofNat

def halfWord : Decoder UInt16 := fun v => (natBelow UInt16.size "u16" v).map UInt16.ofNat

def size : Decoder Nat := natBelow UInt64.size "usize"

def single : Decoder Float32
  | .number (.int n) => .ok (Float32.ofInt n)
  | .number (.real x) => .ok x.toFloat32
  | v => misfit "f32" v

def optional (decode : Decoder α) : Decoder (Option α)
  | .null => .ok none
  | v => (decode v).map some

def list (decode : Decoder α) : Decoder (List α)
  | .array items => items.mapM decode
  | v => misfit "a sequence" v

/-- Values are read in the order of their keys. -/
def entries (decode : Decoder α) : List (String × Json) → Except Mismatch (List (String × α))
  | [] => .ok []
  | (key, v) :: rest => do
      let a ← decode v
      let more ← entries decode rest
      return (key, a) :: more

def map (decode : Decoder α) : Decoder (SortedMap α)
  | .object fields => (entries decode (members fields).entries).map SortedMap.ofList
  | v => misfit "a map" v

end Decoder

/-! Records. A record is written as an object, whose unknown fields do not matter, or as an array
of its fields in order. -/

/-- A field with the names that it goes by, and its values where the object, or the end of the
array, leaves it out. -/
structure Field (α : Type) where
  name : String
  aliases : List String
  decode : Decoder α
  absent : Option α
  beyond : Option α

/-- What must be known of a field to check an object. -/
structure Slot where
  name : String
  aliases : List String
  check : Json → Except Mismatch Unit

def Slot.answers (slot : Slot) (key : String) : Bool :=
  key == slot.name || slot.aliases.contains key

/-- Goes through the fields in the order of their keys. A field that comes under two of its names,
or does not fit, is an error. -/
def scan (slots : List Slot) (seen : List String) : List (String × Json) → Except Mismatch Unit
  | [] => .ok ()
  | (key, v) :: rest =>
      match slots.find? (·.answers key) with
      | none => scan slots seen rest
      | some slot =>
          if seen.contains slot.name then .error (.duplicateField slot.name)
          else do
            slot.check v
            scan slots (slot.name :: seen) rest

namespace Field

def required (name : String) (decode : Decoder α) : Field α := ⟨name, [], decode, none, none⟩

/-- An optional field that an array must still spell out. -/
def nullable (name : String) (decode : Decoder α) : Field (Option α) :=
  ⟨name, [], decode.optional, some none, none⟩

def defaulting (name : String) (decode : Decoder α) (value : α) : Field α :=
  ⟨name, [], decode, some value, some value⟩

/-- A field that may be left out, be null, or be missing at the end of an array. -/
def loose (name : String) (decode : Decoder α) : Field (Option α) :=
  .defaulting name decode.optional none

def withAliases (field : Field α) (aliases : List String) : Field α :=
  { field with aliases := aliases }

def slot (field : Field α) : Slot :=
  ⟨field.name, field.aliases, fun v => (field.decode v).map fun _ => ()⟩

def names (field : Field α) : List String := field.name :: field.aliases

def ofMembers (field : Field α) (members : SortedMap Json) : Except Mismatch α :=
  match field.names.findSome? members.get?, field.absent with
  | some v, _ => field.decode v
  | none, some a => .ok a
  | none, none => .error (.missingField field.name)

def ofItem (field : Field α) (record : String) (index : Nat) (items : List Json) :
    Except Mismatch α :=
  match items[index]?, field.beyond with
  | some v, _ => field.decode v
  | none, some a => .ok a
  | none, none => .error (.length index record)

end Field

/-- How the fields of a record are found: in the members of an object, or in an array. -/
inductive Source where
  | members (fields : SortedMap Json)
  | items (record : String) (values : List Json)

def Field.read (field : Field α) (index : Nat) : Source → Except Mismatch α
  | .members fields => field.ofMembers fields
  | .items record values => field.ofItem record index values

def plural (n : Nat) : String := toString n ++ if n = 1 then " element" else " elements"

/-- A record named `name` with the fields that `slots` lists; `build` takes them by position. -/
def record (name : String) (slots : List Slot) (build : Source → Except Mismatch α) : Decoder α
  | .object fields => do
      scan slots [] (members fields).entries
      build (.members (members fields))
  | .array values => do
      let expected := "struct " ++ name ++ " with " ++ plural slots.length
      let a ← build (.items expected values)
      if values.length ≤ slots.length then return a
      else .error (.length values.length "fewer elements in array")
  | v => Decoder.misfit ("struct " ++ name) v

/-! Variants. A variant is its name alone, or an object with the name as its only key. -/

def variant : Decoder (String × Option Json)
  | .string name => .ok (name, none)
  | .object fields =>
      match (members fields).entries with
      | [(name, content)] => .ok (name, some content)
      | _ => .error (.value .map "map with a single key")
  | v => Decoder.misfit "string or map" v

def bareContent : Option Json → Except Mismatch Unit
  | none => .ok ()
  | some .null => .ok ()
  | some v => Decoder.misfit "unit" v

def wrappedContent (decode : Decoder α) : Option Json → Except Mismatch α
  | none => .error (.type .bareVariant "newtype variant")
  | some v => decode v

/-- The content of a variant with named fields, which is an object. -/
def recordContent (slots : List Slot) (build : Source → Except Mismatch α) :
    Option Json → Except Mismatch α
  | none => .error (.type .bareVariant "struct variant")
  | some (.object fields) => do
      scan slots [] (members fields).entries
      build (.members (members fields))
  | some v => Decoder.misfit "struct variant" v

end FormatReview.Json
