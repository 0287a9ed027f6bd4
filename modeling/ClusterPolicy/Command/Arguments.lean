import ClusterPolicy.Command.Authorization
import ClusterPolicy.Command.Conversion
import ClusterPolicy.SortedMap

/-! Command lines: a command, then options with their values. -/

namespace ClusterPolicy.Command

/-- Why a command line is not run. -/
inductive Refusal
  | help
  /-- Help in place of a command that is not there -/
  | helpForMissingCommand
  | version
  | unknownCommand
  | unknownArgument
  /-- An option twice that is to be given once -/
  | repeatedOption
  /-- An option without its value, or with one that it does not take -/
  | invalidValue
  /-- A value for an option that takes none -/
  | unwantedValue
  | missingOption
  deriving DecidableEq, Repr

/-- What an option does. -/
inductive OptionKind
  | stops (refusal : Refusal)
  | flag
  | single
  /-- One or more values, as often as one likes -/
  | many
  deriving DecidableEq, Repr

structure OptionSpec where
  name : String
  letter : Option Char
  kind : OptionKind
  accepts : String → Bool

namespace OptionSpec

def help : OptionSpec := ⟨"help", some 'h', .stops .help, fun _ => true⟩

def version : OptionSpec := ⟨"version", some 'V', .stops .version, fun _ => true⟩

def flag (name : String) : OptionSpec := ⟨name, none, .flag, fun _ => true⟩

/-- Paths are not empty. -/
def path (name : String) (letter : Option Char) (kind : OptionKind) : OptionSpec :=
  ⟨name, letter, kind, fun value => !value.isEmpty⟩

def takesValues (spec : OptionSpec) : Bool := spec.kind = .single || spec.kind = .many

end OptionSpec

inductive Argument
  /-- What follows is no option -/
  | separator
  | long (name : String) (value : Option String)
  | short (letter : Char) (rest : List Char)
  | plain (text : String)
  deriving DecidableEq, Repr

def Argument.of (text : String) : Argument :=
  match text.toList with
  | ['-', '-'] => .separator
  | '-' :: '-' :: rest =>
    match Text.cut? '=' rest with
    | some (name, value) => .long (String.ofList name) (some (String.ofList value))
    | none => .long (String.ofList rest) none
  | '-' :: letter :: rest => .short letter rest
  | _ => .plain text

/-- The value behind the letter of an option. -/
def attached? : List Char → Option String
  | [] => none
  | '=' :: value => some (String.ofList value)
  | value => some (String.ofList value)

/-- The option that an argument names, and the value that is attached to it. -/
def Argument.option? (specs : List OptionSpec) : Argument → Option (OptionSpec × Option String)
  | long name value => (specs.find? (·.name = name)).map fun spec => (spec, value)
  | short letter rest =>
    (specs.find? (·.letter = some letter)).map fun spec =>
      (spec, if spec.takesValues then attached? rest else none)
  | _ => none

/-- Options that were read, and the one that still waits for values. -/
structure Progress where
  found : SortedMap (List String)
  pending : Option (OptionSpec × List String)

namespace Progress

def start : Progress := ⟨.empty, none⟩

def put (p : Progress) (spec : OptionSpec) (values : List String) : Progress :=
  { p with found := p.found.insert spec.name ((p.found.find? spec.name).getD [] ++ values) }

def putValid (p : Progress) (spec : OptionSpec) (values : List String) : Except Refusal Progress :=
  if values.all spec.accepts then .ok (p.put spec values) else .error .invalidValue

/-- Takes down an option with all its values. -/
def record (p : Progress) (spec : OptionSpec) (values : List String) : Except Refusal Progress :=
  match spec.kind with
  | .stops refusal => .error refusal
  | .flag => if p.found.contains spec.name then .error .repeatedOption else .ok (p.put spec [])
  | .single => if values.isEmpty then .error .invalidValue
    else if p.found.contains spec.name then .error .repeatedOption
    else p.putValid spec values
  | .many => if values.isEmpty then .error .invalidValue else p.putValid spec values

/-- Takes down the option that waits. -/
def settle (p : Progress) : Except Refusal Progress :=
  match p.pending with
  | none => .ok p
  | some (spec, values) => { p with pending := none }.record spec values

def openOption (p : Progress) (spec : OptionSpec) (attached : Option String) : Except Refusal Progress :=
  if spec.takesValues then do
    let p ← p.settle
    match attached with
    | some value => p.record spec [value]
    | none => .ok { p with pending := some (spec, []) }
  else
    match attached with
    | some _ => .error .unwantedValue
    | none => do (← p.settle).record spec []

/-- A plain argument is a value of the option that waits. -/
def addValue (p : Progress) (value : String) : Except Refusal Progress :=
  match p.pending with
  | some (spec, values) =>
    if spec.kind = .many || values.isEmpty then .ok { p with pending := some (spec, values ++ [value]) }
    else .error .unknownArgument
  | none => .error .unknownArgument

/-- Reads options up to the end. Behind a separator nothing may follow. -/
def read (specs : List OptionSpec) (p : Progress) : List String → Except Refusal Progress
  | [] => p.settle
  | text :: rest =>
    match Argument.of text with
    | .separator => if rest.isEmpty then p.settle else .error .unknownArgument
    | .plain value => do read specs (← p.addValue value) rest
    | argument =>
      match argument.option? specs with
      | none => .error .unknownArgument
      | some (spec, attached) => do read specs (← p.openOption spec attached) rest

def values (p : Progress) (name : String) : List String := (p.found.find? name).getD []

def value? (p : Progress) (name : String) : Option String := (p.values name).head?

def isGiven (p : Progress) (name : String) : Bool := p.found.contains name

end Progress

inductive Invocation
  | convert (target : Target) (options : ConvertOptions)
  | authorize (options : AuthorizeOptions)
  deriving DecidableEq, Repr

namespace Invocation

def configOption : OptionSpec := .path "config" none .single

def convertSpecs : List OptionSpec :=
  [.help, .path "file" (some 'f') .many,
    ⟨"output", some 'o', .single, fun value => (OutputFormat.ofName? value).isSome⟩,
    configOption, ⟨"name", none, .single, fun _ => true⟩, .flag "strict"]

def authorizeSpecs : List OptionSpec :=
  [.help, .path "store" none .many, .path "request" none .single, .flag "json"]

/-- The configuration of the environment counts where the command line names none. -/
def parseConvert (config : Option String) (target : Target) (args : List String) :
    Except Refusal Invocation := do
  let p ← Progress.start.read convertSpecs args
  let p ← (match config with
    | some path => if p.isGiven "config" then .ok p else p.record configOption [path]
    | none => .ok p)
  if !p.isGiven "file" then .error .missingOption
  else
    return .convert target {
      files := p.values "file"
      output := ((p.value? "output").bind OutputFormat.ofName?).getD .cedar
      config := p.value? "config"
      name := p.value? "name"
      strict := p.isGiven "strict" }

def parseAuthorize (args : List String) : Except Refusal Invocation := do
  let p ← Progress.start.read authorizeSpecs args
  match p.values "store", p.value? "request" with
  | [], _ => .error .missingOption
  | _, none => .error .missingOption
  | stores, some request => return .authorize ⟨stores, request, p.isGiven "json"⟩

/-- A choice of commands. `helpPaths` are those that can be asked for behind `help`. -/
def choose {α : Type} (specs : List OptionSpec) (helpPaths : List (List String))
    (commands : List (String × (List String → Except Refusal α))) :
    List String → Except Refusal α
  | [] => .error .helpForMissingCommand
  | text :: rest =>
    if text = "help" then .error (if helpPaths.contains rest then .help else .unknownCommand)
    else
      match commands.lookup text with
      | some command => command rest
      | none =>
        match Argument.of text with
        | .plain _ => .error .unknownCommand
        | .separator =>
          match rest with
          | [] => .error .helpForMissingCommand
          | next :: _ =>
            .error (if next = "help" || (commands.lookup next).isSome then .unknownArgument
              else .unknownCommand)
        | argument =>
          match argument.option? specs with
          | none => .error .unknownArgument
          | some (⟨_, _, .stops refusal, _⟩, none) => .error refusal
          | some _ => .error .unwantedValue

def convertHelpPaths : List (List String) := [[], ["rbac"], ["admission"], ["help"]]

def helpPaths : List (List String) :=
  [[], ["authorize"], ["help"]] ++ convertHelpPaths.map ("convert" :: ·)

/-- Reads what follows the program's name. -/
def parse (config : Option String) (args : List String) : Except Refusal Invocation :=
  choose [.help, .version] helpPaths
    [("convert", choose [.help] convertHelpPaths
      [("rbac", parseConvert config .rbac), ("admission", parseConvert config .admission)]),
      ("authorize", parseAuthorize)]
    args

/-- The files that are read. -/
def paths : Invocation → List String
  | convert _ options => options.config.toList ++ options.files
  | authorize options => options.stores ++ [options.request]

/-- What is printed. -/
def run (readers : Manifest.Readers) (files : Files) : Invocation → Except Error String
  | convert target options => Command.convert readers files target options
  | authorize options => report files options

end Invocation

end ClusterPolicy.Command
