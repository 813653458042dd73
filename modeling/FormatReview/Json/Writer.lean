import FormatReview.Json.Value

namespace FormatReview.Json

/-! The text of a JSON value, on one line or with an indent of two spaces a level. -/

def hexByte (n : Nat) : List Char :=
  [Nat.digitChar (n / 16 % 16), Nat.digitChar (n % 16)]

def escapedChar (c : Char) : List Char :=
  if c = '"' then ['\\', '"']
  else if c = '\\' then ['\\', '\\']
  else if c = '\x08' then ['\\', 'b']
  else if c = '\t' then ['\\', 't']
  else if c = '\n' then ['\\', 'n']
  else if c = '\x0c' then ['\\', 'f']
  else if c = '\r' then ['\\', 'r']
  else if c.toNat < 0x20 then ['\\', 'u', '0', '0'] ++ hexByte c.toNat
  else [c]

def stringText (s : String) : String :=
  String.ofList ('"' :: s.toList.flatMap escapedChar ++ ['"'])

mutual
def compact : Json → String
  | .null => "null"
  | .bool b => if b then "true" else "false"
  | .number n => n.text
  | .string s => stringText s
  | .array items => "[" ++ compactItems items ++ "]"
  | .object fields => "\x7b" ++ compactFields fields ++ "\x7d"

def compactItems : List Json → String
  | [] => ""
  | [item] => item.compact
  | item :: next :: rest => item.compact ++ "," ++ compactItems (next :: rest)

def compactFields : List (String × Json) → String
  | [] => ""
  | [(name, value)] => stringText name ++ ":" ++ value.compact
  | (name, value) :: next :: rest =>
      stringText name ++ ":" ++ value.compact ++ "," ++ compactFields (next :: rest)
end

def indent (level : Nat) : String := String.ofList ('\n' :: List.replicate (2 * level) ' ')

mutual
def prettyAt (level : Nat) : Json → String
  | .null => "null"
  | .bool b => if b then "true" else "false"
  | .number n => n.text
  | .string s => stringText s
  | .array [] => "[]"
  | .array (item :: rest) =>
      "[" ++ prettyItems (level + 1) (item :: rest) ++ indent level ++ "]"
  | .object [] => "\x7b\x7d"
  | .object (field :: rest) =>
      "\x7b" ++ prettyFields (level + 1) (field :: rest) ++ indent level ++ "\x7d"

def prettyItems (level : Nat) : List Json → String
  | [] => ""
  | [item] => indent level ++ item.prettyAt level
  | item :: next :: rest =>
      indent level ++ item.prettyAt level ++ "," ++ prettyItems level (next :: rest)

def prettyFields (level : Nat) : List (String × Json) → String
  | [] => ""
  | [(name, value)] => indent level ++ stringText name ++ ": " ++ value.prettyAt level
  | (name, value) :: next :: rest =>
      indent level ++ stringText name ++ ": " ++ value.prettyAt level ++ "," ++
        prettyFields level (next :: rest)
end

def pretty (v : Json) : String := v.prettyAt 0

end FormatReview.Json
