namespace FormatReview.Web

/-! Media types, read from left to right: a type, a subtype that may be empty, and parameters. -/

/-- Where a reader of a media type stands. The parts that need a character tell whether they have
one yet. -/
inductive MediaPlace where
  | type (filled : Bool)
  | subtype (filled : Bool)
  | parameter
  | parameterName
  | value (filled : Bool)
  | quote (filled : Bool)
  | behindQuote
  deriving DecidableEq, Repr

def isTokenChar (c : Char) : Bool :=
  c.isAlphanum ||
    ['!', '#', '$', '%', '&', '\'', '*', '+', '-', '.', '^', '_', '\x60', '|', '~'].contains c

def isQuotableChar (c : Char) : Bool := 0x20 ≤ c.toNat && c.toNat != 0x7f

namespace MediaPlace

def next? : MediaPlace → Char → Option MediaPlace
  | .type filled, c =>
      if isTokenChar c then some (.type true)
      else if c = '/' && filled then some (.subtype false)
      else none
  | .subtype filled, c =>
      if isTokenChar c then some (.subtype true)
      else if c = ';' && filled then some .parameter
      else none
  | .parameter, c =>
      if c = ' ' then some .parameter
      else if isTokenChar c then some .parameterName
      else none
  | .parameterName, c =>
      if isTokenChar c then some .parameterName
      else if c = '=' then some (.value false)
      else none
  | .value filled, c =>
      if c = '"' && !filled then some (.quote false)
      else if isTokenChar c then some (.value true)
      else if c = ';' && filled then some .parameter
      else none
  | .quote filled, c =>
      if c = '"' && filled then some .behindQuote
      else if isQuotableChar c then some (.quote true)
      else none
  | .behindQuote, c =>
      if c = ';' then some .parameter
      else if c = ' ' then some .behindQuote
      else none

def mayEnd : MediaPlace → Bool
  | .type _ => false
  | .subtype _ => true
  | .parameter => true
  | .parameterName => false
  | .value _ => true
  | .quote _ => false
  | .behindQuote => true

end MediaPlace

def isMediaType (text : String) : Bool :=
  (text.toList.foldlM MediaPlace.next? (.type false)).any MediaPlace.mayEnd

end FormatReview.Web
