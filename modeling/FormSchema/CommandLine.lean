import FormSchema.Service.Launch
import FormSchema.Text.Digit

/-!
# FormSchema — the command line

Options are given by their name or by the beginning of it that no other option has, and their value
follows as the next argument or behind an equality sign. The whole line is sorted into options and
other arguments before any value is read.
-/

namespace FormSchema.CommandLine

inductive Opt
  | help
  | transport
  | host
  | port
  | constraints
  | validationMode
  deriving DecidableEq, Repr

namespace Opt

def all : List Opt := [.help, .transport, .host, .port, .constraints, .validationMode]

def name : Opt → String
  | .help => "--help"
  | .transport => "--transport"
  | .host => "--host"
  | .port => "--port"
  | .constraints => "--constraints"
  | .validationMode => "--validation-mode"

def label : Opt → String
  | .help => "-h/--help"
  | option => option.name

def ofName? (name : String) : Option Opt :=
  if name = "-h" then some .help else all.find? fun option => option.name == name

/-- The words among which a value has to be, if it has to. -/
def choices : Opt → Option (List String)
  | .transport => some ["stdio", "sse"]
  | .validationMode => some (Mode.all.map Mode.name)
  | _ => none

end Opt

inductive UsageError
  | help
  | ambiguous (argument : String) (candidates : List Opt)
  | noValue (option : Opt)
  | spareValue (option : Opt) (value : String)
  | notInteger (option : Opt) (value : String)
  | notAmong (option : Opt) (value : String) (words : List String)
  | unrecognized (arguments : List String)
  deriving DecidableEq, Repr

def UsageError.message : UsageError → String
  | .help => "usage: " ++ " ".intercalate (Opt.all.map fun option => s!"[{option.label}]")
  | .ambiguous argument candidates =>
    s!"ambiguous option: {argument} could match " ++ ", ".intercalate (candidates.map Opt.name)
  | .noValue option => s!"argument {option.label}: expected one argument"
  | .spareValue option value =>
    s!"argument {option.label}: ignored explicit argument {Text.quoted value}"
  | .notInteger option value =>
    s!"argument {option.label}: invalid int value: {Text.quoted value}"
  | .notAmong option value words =>
    s!"argument {option.label}: invalid choice: {Text.quoted value} (choose from "
      ++ ", ".intercalate (words.map Text.quoted) ++ ")"
  | .unrecognized arguments => "unrecognized arguments: " ++ " ".intercalate arguments

/-- The exit code of the program; asking for help is no mistake. -/
def UsageError.exitCode : UsageError → Nat
  | .help => 0
  | _ => 2

/-! ## Sorting arguments -/

inductive Word
  | option (option : Opt) (value : Option String)
  | unknownOption
  | divider
  | operand
  deriving DecidableEq, Repr

/-- Splits an argument at its first equality sign. -/
def splitValue (argument : String) : String × Option String :=
  let cs := argument.toList
  match cs.dropWhile (· != '=') with
  | '=' :: value => (String.ofList (cs.takeWhile (· != '=')), some (String.ofList value))
  | _ => (argument, none)

/-- Whether an argument is a negative number. A line break at its end does not count. -/
def isNegativeNumber (argument : String) : Bool :=
  let isDigit := fun c => (Text.digitValue? c).isSome
  match argument.toList with
  | '-' :: rest =>
    let body := if rest.getLast? = some '\n' then rest.dropLast else rest
    (!body.isEmpty && body.all isDigit)
      || match body.dropWhile isDigit with
        | '.' :: fraction => !fraction.isEmpty && fraction.all isDigit
        | _ => false
  | _ => false

/-- The options whose name an argument begins, each with the value behind an equality sign. -/
def candidates (argument : String) : List (Opt × Option String) :=
  if argument.startsWith "--" then
    let (start, value) := splitValue argument
    (Opt.all.filter fun option => option.name.startsWith start).map (·, value)
  else if argument.startsWith "-h" then [(.help, none)]
  else []

/-- Sorts an argument that stands in front of any divider. -/
def sort (argument : String) : Except UsageError Word :=
  let named := Opt.ofName? argument
  let (start, value) := splitValue argument
  if !argument.startsWith "-" || argument == "-" then .ok .operand
  else
    match named, Opt.ofName? start, value with
    | some option, _, _ => .ok (.option option none)
    | none, some option, some value => .ok (.option option (some value))
    | none, _, _ =>
      -- the beginning of a name will do, if it is the beginning of just one
      match candidates argument with
      | [(option, value)] => .ok (.option option value)
      | [] =>
        -- no option looks like a number, so a negative one can be a value
        if isNegativeNumber argument || argument.contains ' ' then .ok .operand
        else .ok .unknownOption
      | several => .error (.ambiguous argument (several.map (·.1)))

/-- Sorts all arguments; behind a divider they are operands. -/
def sortAll : List String → Except UsageError (List (String × Word))
  | [] => .ok []
  | "--" :: rest => .ok (("--", .divider) :: rest.map (·, .operand))
  | argument :: rest => do
    let word ← sort argument
    return (argument, word) :: (← sortAll rest)

/-! ## Reading values -/

/-- What a line has been read as so far: the values of the options given, the last one first, and
the arguments that belong to none. -/
structure Line where
  given : List (Opt × Json)
  spare : List String

def readValue (option : Opt) (value : String) : Except UsageError Json :=
  match option, option.choices with
  | .port, _ =>
    match Number.settingInteger? value with
    | some n => .ok (.int n)
    | none => .error (.notInteger option value)
  | _, some words =>
    if value ∈ words then .ok (.str value) else .error (.notAmong option value words)
  | _, none => .ok (.str value)

def readLine : List (String × Word) → Line → Except UsageError Line
  | [], line => .ok line
  | (_, .option .help none) :: _, _ => .error .help
  | (_, .option .help (some value)) :: _, _ => .error (.spareValue .help value)
  | (_, .option option (some value)) :: rest, line => do
    readLine rest { line with given := (option, ← readValue option value) :: line.given }
  | (_, .option option none) :: (value, .operand) :: rest, line => do
    readLine rest { line with given := (option, ← readValue option value) :: line.given }
  | (_, .option option none) :: _, _ => .error (.noValue option)
  | (argument, _) :: rest, line => readLine rest { line with spare := line.spare ++ [argument] }

structure Options where
  transport : Json
  host : Json
  port : Json
  constraints : Json
  validationMode : Json

/-- Reads a command line. The settings stand in for options that are not given, as they are; only a
port that they give as text is read like one from the line. -/
def parse (settings : Settings) (arguments : List String) : Except UsageError Options := do
  let line ← readLine (← sortAll arguments) ⟨[], []⟩
  let valueOr (option : Opt) (setting : Json) : Json := (line.given.lookup option).getD setting
  -- a setting is read after all options, so a mistake on the line is reported first
  let port ← match line.given.lookup .port, settings.port with
    | none, .str text => readValue .port text
    | none, setting => pure setting
    | some value, _ => pure value
  if !line.spare.isEmpty then throw (.unrecognized line.spare)
  return {
    transport := valueOr .transport settings.transport
    host := valueOr .host settings.host
    port
    constraints := valueOr .constraints settings.constraintsFile
    validationMode := valueOr .validationMode settings.validationMode }

namespace Options

def toJson (o : Options) : Json :=
  .obj [("transport", o.transport), ("host", o.host), ("port", o.port),
    ("constraints", o.constraints), ("validation_mode", o.validationMode)]

def apply (o : Options) (settings : Settings) : Settings :=
  { settings with constraintsFile := o.constraints, validationMode := o.validationMode }

/-- Prepares the server that the options ask for. -/
def launch (o : Options) (settings : Settings) (workspace : Workspace) :
    Logged Service.LaunchError (Service.Server × Service.Transport) :=
  Service.launch (o.apply settings) workspace o.transport o.host o.port

/-- Runs the program: the exit code, given how a server that is launched ends. -/
def run (o : Options) (settings : Settings) (workspace : Workspace) (served : Service.Ending) :
    Logged Service.LaunchError Nat :=
  let launched := o.launch settings workspace
  let ending : Except Service.LaunchError Service.Ending := match launched.outcome with
    | .ok _ => .ok served
    | .error e => e.ending
  match ending with
  | .ok ending => ⟨launched.log ++ ending.report.1, .ok ending.report.2⟩
  | .error e => ⟨launched.log, .error e⟩

end Options

end FormSchema.CommandLine
