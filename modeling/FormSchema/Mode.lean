import FormSchema.Form.Structure
import FormSchema.Json.Display
import FormSchema.Log
import FormSchema.Text.Blank
import FormSchema.Text.Case

/-!
# FormSchema — validation modes

What is done about the issues of a form: they are logged, or errors reject the form, or nothing is
checked at all. A mode is given by name or as a truth value.
-/

namespace FormSchema

inductive Mode
  | warn
  | throw
  | skip
  deriving DecidableEq, Repr

namespace Mode

/-- All modes, in the order in which they are listed to a user. -/
def all : List Mode := [.warn, .throw, .skip]

def name : Mode → String
  | .warn => "warn"
  | .throw => "throw"
  | .skip => "skip"

end Mode

inductive ModeError
  | notText (typeWord : String)
  | unknown (text : String)
  deriving DecidableEq, Repr

def ModeError.message : ModeError → String
  | .notText typeWord => s!"Validation mode must be a string or a boolean, got {typeWord}"
  | .unknown text =>
    s!"Unknown validation mode: {Text.quoted text}. Use one of: "
      ++ ", ".intercalate (Mode.all.map Mode.name)

/-- Reads a mode. True warns, false and null skip, and names are trimmed and may be in any case. -/
def Mode.ofJson : Json → Except ModeError Mode
  | .bool true => .ok .warn
  | .bool false => .ok .skip
  | .null => .ok .skip
  | .str s =>
    let text := Text.lower (Text.trim s)
    match Mode.all.find? fun mode => mode.name == text with
    | some mode => .ok mode
    | none => .error (.unknown text)
  | value => .error (.notText value.typeWord)

structure Rejection where
  formName : Option String
  errors : List String
  deriving DecidableEq, Repr

def Rejection.message (r : Rejection) : String :=
  let subject := match r.formName with
    | some name => s!"FormSpec \"{name}\""
    | none => "Form"
  s!"{subject} validation failed: " ++ "; ".intercalate r.errors

def Report.rejection (r : Report) (formName : Option String) : Rejection :=
  ⟨formName, r.errors.map (·.message)⟩

def Issue.logRecord (formName : Option String) (i : Issue) : LogRecord :=
  let subject := match formName with
    | some name => s!"FormSpec \"{name}\""
    | none => "FormSpec"
  let place := if i.path.isEmpty then "" else s!" at {i.path}"
  { level := if i.isError then .error else .warning
    source := .forms
    message := s!"{subject}: {i.message}{place}" }

/-- Applies a mode to a report: an invalid one is rejected where errors are thrown, and otherwise
the issues are logged unless they are skipped. -/
def Report.enforce (r : Report) (mode : Mode) (formName : Option String) :
    Logged Rejection Report :=
  match mode with
  | .skip => pure r
  | .warn => ⟨r.issues.map (Issue.logRecord formName), .ok r⟩
  | .throw =>
    if r.valid then ⟨r.issues.map (Issue.logRecord formName), .ok r⟩
    else .fail (r.rejection formName)

/-- Why a form could not be validated. -/
inductive ValidationError
  | mode (error : ModeError)
  | rejected (rejection : Rejection)
  deriving DecidableEq, Repr

def ValidationError.message : ValidationError → String
  | .mode error => error.message
  | .rejected rejection => rejection.message

/-- Checks the structure of a form as a mode asks for; there is no report when it is skipped. -/
def Form.validate (form : Form) (mode : Json) (formName : Option String) :
    Logged ValidationError (Option Report) := do
  let mode ← Logged.ofExcept ((Mode.ofJson mode).mapError .mode)
  match mode with
  | .skip => return none
  | mode =>
    let report ← (form.checkStructure.enforce mode formName).mapError .rejected
    return some report

end FormSchema
