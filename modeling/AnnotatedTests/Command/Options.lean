import AnnotatedTests.Settings.Given
import AnnotatedTests.Text.Numeral

/-! The options of the command line. Options and sources may be mixed, long options may be cut
short while they stay unambiguous, and short ones may be run together. -/
namespace AnnotatedTests

/-- Two rules of which there are an older and a newer form. -/
structure OptionRules where
  /-- Whether two dashes that an option has in its own argument are its value. Otherwise they leave
  it with an empty list. -/
  dashesAreValue : Bool
  /-- Whether short options that are run together end at an equals sign, behind which a value comes,
  and at a letter that is no option, which nothing takes. Otherwise the sign is part of what comes
  behind it, and the letter is an error. -/
  lettersEnd : Bool
  deriving DecidableEq, Repr

def OptionRules.older : OptionRules := ⟨false, false⟩

def OptionRules.newer : OptionRules := ⟨true, true⟩

inductive Flag where
  | help
  | output
  | manifest
  | config
  | marker
  | timeout
  | jobs
  | manifestFormat
  | include
  | verbose
  deriving DecidableEq, Repr

/-- The spellings of options, in the order in which usage lists them. -/
def flagSpellings : List (String × Flag) :=
  [("-h", .help), ("--help", .help), ("-o", .output), ("--output", .output),
    ("-m", .manifest), ("--manifest", .manifest), ("-c", .config), ("--config", .config),
    ("--marker", .marker), ("--timeout", .timeout), ("--jobs", .jobs),
    ("--manifest-format", .manifestFormat), ("--include", .include), ("-v", .verbose),
    ("--verbose", .verbose)]

def flagOf? (spelling : String) : Option Flag :=
  (flagSpellings.find? fun entry => entry.1 == spelling).map Prod.snd

def Flag.label (flag : Flag) : String :=
  "/".intercalate ((flagSpellings.filter fun entry => entry.2 == flag).map Prod.fst)

def Flag.takesValue : Flag → Bool
  | .help => false
  | .verbose => false
  | _ => true

structure Options where
  sources : List String
  output : Option (Given String)
  manifest : Option (Given String)
  config : Option (Given String)
  marker : Option (Given String)
  timeout : Option (Given Int)
  jobs : Option (Given Int)
  manifestFormat : Option (Given String)
  includes : Option (List (Given String))
  verbosity : Nat
  deriving DecidableEq, Repr

def Options.empty : Options := ⟨[], none, none, none, none, none, none, none, none, 0⟩

inductive UsageError where
  | ambiguous (given : String) (spellings : List String)
  | valueExpected (flag : Flag)
  | valueIgnored (flag : Flag) (value : String)
  | notInteger (flag : Flag) (value : String)
  | notAFormat (value : String)
  | sourcesMissing
  | unrecognized (arguments : List String)
  deriving DecidableEq, Repr

def UsageError.message : UsageError → String
  | .ambiguous given spellings =>
    s!"ambiguous option: {given} could match " ++ ", ".intercalate spellings
  | .valueExpected flag => s!"argument {flag.label}: expected one argument"
  | .valueIgnored flag value => s!"argument {flag.label}: ignored explicit argument {quoted value}"
  | .notInteger flag value => s!"argument {flag.label}: invalid int value: {quoted value}"
  | .notAFormat value =>
    s!"argument {Flag.manifestFormat.label}: invalid choice: {quoted value} (choose from 'json', 'text')"
  | .sourcesMissing => "the following arguments are required: sources"
  | .unrecognized arguments => "unrecognized arguments: " ++ " ".intercalate arguments

inductive Argument where
  | plain (text : String)
  | dashes
  | long (flag : Flag) (value : Option String)
  | short (flag : Flag) (value : Option String)
  /-- A short option, run together with what comes behind it. -/
  | letters (flag : Flag) (behind : String)
  /-- Written like an option, and none. -/
  | unknown (text : String)
  deriving DecidableEq, Repr

def cutAtEquals? (text : List Char) : Option (String × String) :=
  if text.contains '=' then
    some (String.ofList (text.takeWhile (· ≠ '=')),
      String.ofList ((text.dropWhile (· ≠ '=')).drop 1))
  else none

/-- The option of a spelling, with what an equals sign parts from it in the same argument. -/
def Argument.ofSpelling? (spelling : String) (value : Option String) : Option Argument :=
  (flagOf? spelling).map fun flag =>
    if "--".toList.isPrefixOf spelling.toList then .long flag value else .short flag value

/-- What a cut or run-together spelling can mean, each with the full spelling of its option. -/
def candidates (text : List Char) : List (String × Argument) :=
  match text with
  | '-' :: '-' :: _ =>
    let (start, value) := match cutAtEquals? text with
      | some (start, value) => (start, some value)
      | none => (String.ofList text, none)
    (flagSpellings.filter fun entry => start.toList.isPrefixOf entry.1.toList).map
      fun entry => (entry.1, .long entry.2 value)
  | _ =>
    (flagSpellings.filter fun entry => entry.1 == String.ofList (text.take 2)).map
      fun entry => (entry.1, .letters entry.2 (String.ofList (text.drop 2)))

def allDigits (text : List Char) : Bool :=
  !text.isEmpty && text.all fun c => (digitValue? c).isSome

/-- Whether an argument is a negative number, so that it is no option: a minus and digits, with
a point before the last of them or without. One line end may follow. -/
def looksNegative (text : List Char) : Bool :=
  let line := if text.getLast? == some '\n' then text.dropLast else text
  match line with
  | '-' :: number =>
    allDigits number ||
      (match number.dropWhile fun c => (digitValue? c).isSome with
        | '.' :: fraction => allDigits fraction
        | _ => false)
  | _ => false

/-- What an argument is, where options have not been ended. -/
def classify (argument : String) : Except UsageError Argument :=
  let text := argument.toList
  if text.head? != some '-' then .ok (.plain argument)
  else
    match Argument.ofSpelling? argument none with
    | some option => .ok option
    | none =>
      if text.length = 1 then .ok (.plain argument)
      else
        let exact := (cutAtEquals? text).bind fun (spelling, value) =>
          Argument.ofSpelling? spelling (some value)
        match exact with
        | some option => .ok option
        | none =>
          match candidates text with
          | [(_, meant)] => .ok meant
          | [] =>
            if looksNegative text || text.contains ' ' then .ok (.plain argument)
            else .ok (.unknown argument)
          | several => .error (.ambiguous argument (several.map Prod.fst))

/-- What the arguments are. Behind the one that ends the options none is an option. -/
def classifyAll : List String → Except UsageError (List Argument)
  | [] => .ok []
  | argument :: rest =>
    if argument = "--" then .ok (.dashes :: rest.map Argument.plain)
    else do
      let first ← classify argument
      let others ← classifyAll rest
      return first :: others

inductive Parsed where
  | options (options : Options)
  | help
  | error (e : UsageError)
  deriving DecidableEq, Repr

def Flag.integer (flag : Flag) : Given String → Except UsageError (Given Int)
  | .emptied => .ok .emptied
  | .value text =>
    match integer? text.toList with
    | some n => .ok (.value n)
    | none => .error (.notInteger flag text)

def Options.assign (options : Options) (flag : Flag) (given : Given String) :
    Except UsageError Options :=
  match flag with
  | .output => .ok { options with output := some given }
  | .manifest => .ok { options with manifest := some given }
  | .config => .ok { options with config := some given }
  | .marker => .ok { options with marker := some given }
  | .timeout => (Flag.timeout.integer given).map fun n => { options with timeout := some n }
  | .jobs => (Flag.jobs.integer given).map fun n => { options with jobs := some n }
  | .manifestFormat =>
    match given with
    | .emptied => .ok { options with manifestFormat := some .emptied }
    | .value word =>
      if word = "json" ∨ word = "text" then
        .ok { options with manifestFormat := some (.value word) }
      else .error (.notAFormat word)
  | .include => .ok { options with includes := some (options.includes.getD [] ++ [given]) }
  | .help => .ok options
  | .verbose => .ok options

def Argument.plain? : Argument → Option String
  | .plain text => some text
  | _ => none

def Argument.positional? : Argument → Option String
  | .plain text => some text
  | .dashes => some "--"
  | _ => none

/-- What one argument with an option asks for. -/
inductive Request where
  /-- Other options, whether the next argument is used up for them, and letters of this one that
  nothing takes. -/
  | changed (options : Options) (tookNext : Bool) (left : Option String)
  | help
  | error (e : UsageError)
  deriving DecidableEq, Repr

def Options.request (options : Options) (flag : Flag) (given : Given String) (tookNext : Bool) :
    Request :=
  match options.assign flag given with
  | .ok changed => .changed changed tookNext none
  | .error e => .error e

def Options.raise (options : Options) (flag : Flag) : Options :=
  if flag = .verbose then { options with verbosity := options.verbosity + 1 } else options

/-- The request of an option without a value of its own: it takes the next argument, if it needs
one and the next is no option. -/
def Options.requestNext (options : Options) (flag : Flag) (next : Option String) : Request :=
  if flag.takesValue then
    match next with
    | some value => options.request flag (.value value) true
    | none => .error (.valueExpected flag)
  else if flag = .help then .help
  else .changed (options.raise flag) false none

/-- A request that comes after a call for help in the same argument. Errors come before the
help, anything else behind it. -/
def Request.afterHelp (helpAsked : Bool) (request : Request) : Request :=
  match helpAsked, request with
  | true, .changed _ _ _ => .help
  | _, other => other

section Rules
variable (rules : OptionRules)

/-- The request of an option with a value in its own argument. -/
def Options.requestValue (options : Options) (flag : Flag) (value : String) : Request :=
  if flag.takesValue then options.request flag (.ofText rules.dashesAreValue value) false
  else .error (.valueIgnored flag value)

/-- The request of a short option and of what is run together with it: its value if it takes
one, and further short options otherwise. -/
def Options.requestLetters (options : Options) (helpAsked : Bool) (flag : Flag)
    (next : Option String) : List Char → Request
  | [] => (options.requestNext flag next).afterHelp helpAsked
  | letter :: rest =>
    let behind := String.ofList (letter :: rest)
    if flag.takesValue then (options.requestValue rules flag behind).afterHelp helpAsked
    else
      let helpAsked := helpAsked || flag == .help
      match flagOf? (String.ofList ['-', letter]) with
      | some other =>
        if rest.head? = some '=' ∧ rules.lettersEnd then
          ((options.raise flag).requestValue rules other (String.ofList rest.tail)).afterHelp
            helpAsked
        else (options.raise flag).requestLetters helpAsked other next rest
      | none =>
        if letter ≠ '-' ∧ rules.lettersEnd then
          (Request.changed (options.raise flag) false (some ("-" ++ behind))).afterHelp helpAsked
        else .error (.valueIgnored flag behind)

def Options.request? (options : Options) (next : Option String) : Argument → Option Request
  | .long flag none => some (options.requestNext flag next)
  | .long flag (some value) => some (options.requestValue rules flag value)
  | .short flag none => some (options.requestNext flag next)
  | .short flag (some value) =>
    some
      (if value = "" ∨ rules.lettersEnd then options.requestValue rules flag value
      else options.requestLetters rules false flag next value.toList)
  | .letters flag behind => some (options.requestLetters rules false flag next behind.toList)
  | _ => none

end Rules

/-- Whether some arguments in a row hold a source, so that they can be the sources. -/
def holdsSource (row : List Argument) : Bool :=
  row.any fun argument => argument.plain?.isSome

/-- The sources in a row of arguments: all but the one that ends the options. -/
def sourcesOf (row : List Argument) : List String :=
  (row.filterMap Argument.positional?).erase "--"

def frontRow (args : List Argument) : List Argument :=
  args.takeWhile fun argument => argument.positional?.isSome

def behindRow (args : List Argument) : List Argument :=
  args.dropWhile fun argument => argument.positional?.isSome

theorem length_behindRow_le (args : List Argument) : (behindRow args).length ≤ args.length :=
  (args.dropWhile_sublist _).length_le

/-- Reads arguments. The first row of them that holds a source is the sources; `extras` are the
arguments, or parts of them, that nothing takes. -/
def readArguments (rules : OptionRules) (options : Options) (extras : List String)
    (args : List Argument) : Parsed :=
  match args with
  | [] =>
    if options.sources.isEmpty then .error .sourcesMissing
    else if !extras.isEmpty then .error (.unrecognized extras)
    else .options options
  | .unknown text :: rest => readArguments rules options (extras ++ [text]) rest
  | first :: rest =>
    match options.request? rules (rest.head?.bind Argument.plain?) first with
    | some (.changed options tookNext left) =>
      readArguments rules options (extras ++ left.toList) (rest.drop tookNext.toNat)
    | some .help => .help
    | some (.error e) => .error e
    | none =>
      let row := first :: frontRow rest
      if options.sources.isEmpty && holdsSource row then
        readArguments rules { options with sources := sourcesOf row } extras (behindRow rest)
      else
        readArguments rules options (extras ++ row.filterMap Argument.positional?) (behindRow rest)
termination_by args.length
decreasing_by
  · exact Nat.lt_succ_self _
  · exact Nat.lt_succ_of_le ((rest.drop_sublist _).length_le)
  · exact Nat.lt_succ_of_le (length_behindRow_le rest)
  · exact Nat.lt_succ_of_le (length_behindRow_le rest)

def parseArguments (rules : OptionRules) (args : List String) : Parsed :=
  match classifyAll args with
  | .ok classified => readArguments rules .empty [] classified
  | .error e => .error e

end AnnotatedTests
