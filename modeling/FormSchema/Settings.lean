import FormSchema.Json.Display
import FormSchema.Number.Literal
import FormSchema.Schema.Compile
import FormSchema.Text.Case

/-!
# FormSchema — settings

Settings come from the environment and may be overridden one by one. An override is taken as it is;
whether it makes sense shows only where the setting is used, so settings are kept as data.
-/

namespace FormSchema

structure Settings where
  schemaVersion : Json := .str Schema.draft07
  indent : Json := .int 2
  validationMode : Json := .str "warn"
  constraintsFile : Json := .null
  searchParents : Json := .bool true
  transport : Json := .str "stdio"
  host : Json := .str "0.0.0.0"
  port : Json := .int 8080
  logLevel : Json := .str "INFO"

/-- A setting that should be an integer and is not. -/
structure IntegerError where
  text : String
  deriving DecidableEq, Repr

def IntegerError.message (e : IntegerError) : String :=
  s!"invalid literal for int() with base 10: {Text.quoted e.text}"

def readSettingInteger (text : String) : Except IntegerError Int :=
  match Number.settingInteger? text with
  | some n => .ok n
  | none => .error ⟨text⟩

namespace Settings

/-- The settings that environment variables ask for. -/
def ofEnvironment (environment : Entries String) : Except IntegerError Settings := do
  let defaults : Settings := {}
  let textOr (name : String) (default : Json) : Json :=
    match environment.get? name with
    | some value => .str value
    | none => default
  let integerOr (name : String) (default : Json) : Except IntegerError Json :=
    match environment.get? name with
    | some value => (readSettingInteger value).map .int
    | none => .ok default
  let indent ← integerOr "FORMSPEC_INDENT_JSON" defaults.indent
  let port ← integerOr "MCP_PORT" defaults.port
  let file := (environment.get? "FORMSPEC_CONSTRAINTS_FILE").getD ""
  return {
    schemaVersion := textOr "FORMSPEC_JSON_SCHEMA_VERSION" defaults.schemaVersion
    indent
    validationMode := .str (Text.lower ((environment.get? "FORMSPEC_VALIDATION_MODE").getD "warn"))
    constraintsFile := if file.isEmpty then .null else .str file
    searchParents := .bool
      (Text.lower ((environment.get? "FORMSPEC_SEARCH_PARENT_DIRS").getD "true") == "true")
    transport := textOr "MCP_TRANSPORT" defaults.transport
    host := textOr "MCP_HOST" defaults.host
    port
    logLevel := .str (Text.upper ((environment.get? "FORMSPEC_LOG_LEVEL").getD "INFO")) }

/-- Overrides one setting by its name; other names are ignored. -/
def set (s : Settings) (name : String) (value : Json) : Settings :=
  match name with
  | "json_schema_version" => { s with schemaVersion := value }
  | "indent_json_output" => { s with indent := value }
  | "validation_mode" => { s with validationMode := value }
  | "constraints_file" => { s with constraintsFile := value }
  | "search_parent_dirs" => { s with searchParents := value }
  | "mcp_transport" => { s with transport := value }
  | "mcp_host" => { s with host := value }
  | "mcp_port" => { s with port := value }
  | "log_level" => { s with logLevel := value }
  | _ => s

def update (s : Settings) (changes : Entries Json) : Settings :=
  changes.foldl (fun s change => s.set change.1 change.2) s

def toJson (s : Settings) : Json :=
  .obj [("json_schema_version", s.schemaVersion), ("indent_json_output", s.indent),
    ("validation_mode", s.validationMode), ("constraints_file", s.constraintsFile),
    ("search_parent_dirs", s.searchParents), ("mcp_transport", s.transport),
    ("mcp_host", s.host), ("mcp_port", s.port), ("log_level", s.logLevel)]

end Settings

end FormSchema
