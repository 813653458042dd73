import FormatReview.Settings

namespace FormatReview.CommandLine

/-! Options, as given on the command line or else in the environment. -/

inductive Switch where
  | all
  | noPdf
  | noChart
  | json
  | noProgress
  | verbose
  | quiet
  deriving DecidableEq, Repr

inductive Key where
  | endpoint
  | wordEndpoint
  | latexEndpoint
  | accept
  | maxSize
  | timeout
  | pageSize
  | page
  | report
  | font
  | title
  deriving DecidableEq, Repr

namespace Switch

def options : List Switch := [.all, .noPdf, .noChart, .json, .noProgress, .verbose, .quiet]

def name : Switch → String
  | .all => "all"
  | .noPdf => "no-pdf"
  | .noChart => "no-chart"
  | .json => "json"
  | .noProgress => "no-progress"
  | .verbose => "verbose"
  | .quiet => "quiet"

def letter? : Switch → Option Char
  | .verbose => some 'v'
  | .quiet => some 'q'
  | _ => none

def ofName? (name : String) : Option Switch := options.find? (·.name = name)

def ofLetter? (letter : Char) : Option Switch := options.find? (·.letter? = some letter)

end Switch

namespace Key

def options : List Key :=
  [.endpoint, .wordEndpoint, .latexEndpoint, .accept, .maxSize, .timeout, .pageSize, .page, .report,
    .font, .title]

def name : Key → String
  | .endpoint => "endpoint"
  | .wordEndpoint => "word-endpoint"
  | .latexEndpoint => "latex-endpoint"
  | .accept => "accept"
  | .maxSize => "max-size"
  | .timeout => "timeout"
  | .pageSize => "page-size"
  | .page => "page"
  | .report => "report"
  | .font => "font"
  | .title => "title"

def ofName? (name : String) : Option Key := options.find? (·.name = name)

end Key

/-- The variable of the environment that stands in for an option. -/
def variableName (name : String) : String :=
  "THESIS_CHECK_" ++ (name.map fun c => if c = '-' then '_' else c.toUpper)

/-! Values. -/

def digitsValue (digits : List Char) : Nat :=
  digits.foldl (fun n c => 10 * n + (c.toNat - '0'.toNat)) 0

/-- A number below `2 ^ 64`, which may have a plus before it. -/
def count? (text : String) : Option Nat :=
  let digits := match text.toList with
    | '+' :: rest => rest
    | all => all
  if digits ≠ [] ∧ digits.all Char.isDigit ∧ digitsValue digits < UInt64.size then
    some (digitsValue digits)
  else none

def policy? : String → Option AcceptPolicy
  | "word" => some .wordOnly
  | "latex" => some .latexOnly
  | "both" => some .both
  | _ => none

def pageSize? (text : String) : Option Nat :=
  ReportSettings.pageSizes.find? fun size => toString size = text

/-- Whether a text will do as the value of an option. -/
def Key.admits : Key → String → Bool
  | .accept, text => (policy? text).isSome
  | .maxSize, text => (count? text).isSome
  | .timeout, text => (count? text).isSome
  | .pageSize, text => (pageSize? text).isSome
  | .page, text => (count? text).isSome
  | .report, text => text ≠ ""
  | .font, text => text ≠ ""
  | _, _ => true

/-! What the arguments say. -/

structure Given where
  file : Option String
  values : List (Key × String)
  switches : List (Switch × Bool)

inductive Misuse where
  | unexpected (argument : String)
  | repeated (option : String)
  | valueMissing (option : String)
  | valueUnexpected (option : String)
  | invalidValue (option value : String)
  | conflict
  | fileMissing
  deriving DecidableEq, Repr

def Misuse.text : Misuse → String
  | .unexpected argument => "unexpected argument '" ++ argument ++ "' found"
  | .repeated option => "the argument '" ++ option ++ "' cannot be used multiple times"
  | .valueMissing option =>
      "a value is required for '" ++ option ++ "' but none was supplied"
  | .valueUnexpected option => "unexpected value for '" ++ option ++ "' found"
  | .invalidValue option value => "invalid value '" ++ value ++ "' for '" ++ option ++ "'"
  | .conflict =>
      "the argument '--endpoint' cannot be used with '--word-endpoint' or '--latex-endpoint'"
  | .fileMissing => "the following required arguments were not provided:\n  <FILE>"

inductive Halt where
  | version
  | help
  | nothingGiven
  | misuse (misuse : Misuse)
  deriving DecidableEq, Repr

namespace Given

def empty : Given := ⟨none, [], []⟩

def value? (given : Given) (key : Key) : Option String := given.values.lookup key

def switch? (given : Given) (switch : Switch) : Option Bool := given.switches.lookup switch

def isOn (given : Given) (switch : Switch) : Bool := (given.switch? switch).getD false

def addFile (given : Given) (file : String) : Except Halt Given :=
  if given.file.isSome then .error (.misuse (.unexpected file))
  else if file = "" then .error (.misuse (.valueMissing "<FILE>"))
  else .ok { given with file := some file }

def addValue (given : Given) (key : Key) (text : String) : Except Halt Given :=
  let option := "--" ++ key.name
  if (given.value? key).isSome then .error (.misuse (.repeated option))
  else if key.admits text then .ok { given with values := (key, text) :: given.values }
  else .error (.misuse (.invalidValue option text))

def addSwitch (given : Given) (switch : Switch) : Except Halt Given :=
  if (given.switch? switch).isSome then .error (.misuse (.repeated ("--" ++ switch.name)))
  else .ok { given with switches := (switch, true) :: given.switches }

def addLetters (given : Given) : List Char → Except Halt Given
  | [] => .ok given
  | 'V' :: _ => .error .version
  | 'h' :: _ => .error .help
  | letter :: rest =>
      match Switch.ofLetter? letter with
      | none => .error (.misuse (.unexpected (String.ofList ['-', letter])))
      | some switch => (given.addSwitch switch).bind fun next => next.addLetters rest

def addPlain (given : Given) (name : String) (attached : Bool) : Except Halt Given :=
  if attached then
    if name = "version" ∨ name = "help" ∨ (Switch.ofName? name).isSome then
      .error (.misuse (.valueUnexpected ("--" ++ name)))
    else .error (.misuse (.unexpected ("--" ++ name)))
  else if name = "version" then .error .version
  else if name = "help" then .error .help
  else
    match Switch.ofName? name with
    | some switch => given.addSwitch switch
    | none => .error (.misuse (.unexpected ("--" ++ name)))

def addFiles (given : Given) (files : List String) : Except Halt Given :=
  files.foldlM addFile given

end Given

inductive Argument where
  | ending
  | long (name : String) (attached : Option String)
  | letters (chars : List Char)
  | plain (text : String)
  deriving DecidableEq, Repr

def Argument.ofText (text : String) : Argument :=
  match text.toList with
  | ['-', '-'] => .ending
  | '-' :: '-' :: rest =>
      let name := rest.takeWhile (· ≠ '=')
      .long (String.ofList name)
        (if name.length = rest.length then none
        else some (String.ofList (rest.drop (name.length + 1))))
  | ['-'] => .plain text
  | '-' :: chars => .letters chars
  | _ => .plain text

def Argument.isPlain : Argument → Bool
  | .plain _ => true
  | _ => false

/-- Reads arguments from left to right. A value that starts with a dash has to be attached. -/
def Given.add (given : Given) : List String → Except Halt Given
  | [] => .ok given
  | argument :: rest =>
      match Argument.ofText argument with
      | .ending => given.addFiles rest
      | .plain file => (given.addFile file).bind fun next => next.add rest
      | .letters chars => (given.addLetters chars).bind fun next => next.add rest
      | .long name attached =>
          match Key.ofName? name, attached with
          | none, _ => (given.addPlain name attached.isSome).bind fun next => next.add rest
          | some key, some text => (given.addValue key text).bind fun next => next.add rest
          | some key, none =>
              match rest with
              | [] => .error (.misuse (.valueMissing ("--" ++ key.name)))
              | text :: more =>
                  if (Argument.ofText text).isPlain then
                    (given.addValue key text).bind fun next => next.add more
                  else .error (.misuse (.valueMissing ("--" ++ key.name)))

/-! The environment, and defaults. -/

abbrev Environment := List (String × String)

namespace Given

def completeValue (environment : Environment) (given : Given) (key : Key) : Except Halt Given :=
  if (given.value? key).isSome then .ok given
  else
    match environment.lookup (variableName key.name) with
    | none => .ok given
    | some text => given.addValue key text

def completeSwitch (environment : Environment) (given : Given) (switch : Switch) :
    Except Halt Given :=
  if (given.switch? switch).isSome then .ok given
  else
    match environment.lookup (variableName switch.name) with
    | none => .ok given
    | some "true" => .ok { given with switches := (switch, true) :: given.switches }
    | some "false" => .ok { given with switches := (switch, false) :: given.switches }
    | some text => .error (.misuse (.invalidValue ("--" ++ switch.name) text))

def complete (given : Given) (environment : Environment) : Except Halt Given := do
  let given ← Key.options.foldlM (completeValue environment) given
  Switch.options.foldlM (completeSwitch environment) given

def isEmpty (given : Given) : Bool :=
  given.file.isNone && given.values.isEmpty && given.switches.isEmpty

def conflicting (given : Given) : Bool :=
  (given.value? .endpoint).isSome &&
    ((given.value? .wordEndpoint).isSome || (given.value? .latexEndpoint).isSome)

end Given

structure Options where
  file : String
  endpoint : Option String
  wordEndpoint : String
  latexEndpoint : String
  accept : AcceptPolicy
  limit : UInt64
  timeout : UInt64
  pageSize : Nat
  page : Nat
  report : String
  font : Option String
  title : Option String
  all : Bool
  noPdf : Bool
  noChart : Bool
  json : Bool
  noProgress : Bool
  quiet : Bool

namespace Options

def ofGiven (given : Given) (file : String) : Options where
  file := file
  endpoint := given.value? .endpoint
  wordEndpoint := (given.value? .wordEndpoint).getD Endpoints.standardWord
  latexEndpoint := (given.value? .latexEndpoint).getD Endpoints.standardLatex
  accept := ((given.value? .accept).bind policy?).getD .both
  limit := (((given.value? .maxSize).bind count?).map UInt64.ofNat).getD Settings.standardLimit
  timeout := (((given.value? .timeout).bind count?).map UInt64.ofNat).getD Settings.standardTimeout
  pageSize := ((given.value? .pageSize).bind pageSize?).getD ReportSettings.smallestPage
  page := ((given.value? .page).bind count?).getD 1
  report := (given.value? .report).getD ReportSettings.standard.filename
  font := given.value? .font
  title := given.value? .title
  all := given.isOn .all
  noPdf := given.isOn .noPdf
  noChart := given.isOn .noChart
  json := given.isOn .json
  noProgress := given.isOn .noProgress
  quiet := given.isOn .quiet

def parse (arguments : List String) (environment : Environment) : Except Halt Options := do
  let given ← (← Given.empty.add arguments).complete environment
  if given.isEmpty then .error .nothingGiven
  else if given.conflicting then .error (.misuse .conflict)
  else
    match given.file with
    | none => .error (.misuse .fileMissing)
    | some file => return ofGiven given file

/-- Progress is shown unless the output is to be quiet or read by programs. -/
def showsProgress (options : Options) : Bool :=
  !options.quiet && !options.noProgress && !options.json

def endpoints (options : Options) : Endpoints :=
  match options.endpoint with
  | some url => .single url
  | none => .routed options.wordEndpoint options.latexEndpoint

/-- The progress of an upload is written to the terminal. -/
def terminal : Observer := ⟨"terminal"⟩

def changes (options : Options) : List Setting :=
  [.endpoints options.endpoints, .accept options.accept, .limit options.limit,
    .timeout options.timeout, .pageSize options.pageSize, .filename options.report] ++
  (options.font.map Setting.font).toList ++ (options.title.map Setting.title).toList ++
  if options.showsProgress then [.observer terminal] else []

end Options

end FormatReview.CommandLine
