import FormSchema.Service.Server

/-!
# FormSchema — launching the server

A server is launched on one of two transports, once its log level is set and its policy is loaded.
How it ends decides what the program reports.
-/

namespace FormSchema.Service

inductive Transport
  | stdio
  | sse (host port : Json)

/-- Why a server was not launched. -/
inductive LaunchError
  | unknownLevel (name : String)
  | noLevel (shown : String)
  | policy (error : PolicyError)
  | transport (shown : String)

def LaunchError.message : LaunchError → String
  | .unknownLevel name => s!"Unknown level: {Text.quoted name}"
  | .noLevel shown => s!"Level not an integer or a valid string: {shown}"
  | .policy error => error.message
  | .transport shown => s!"Unknown transport: {shown}. Use 'stdio' or 'sse'."

def levelNames : List String :=
  ["CRITICAL", "FATAL", "ERROR", "WARN", "WARNING", "INFO", "DEBUG", "NOTSET"]

/-- Checks a log level: a number, a name, or nothing. -/
def checkLevel : Json → Except LaunchError Unit
  | .null => .ok ()
  | .int _ => .ok ()
  | .bool _ => .ok ()
  | .str name => if name ∈ levelNames then .ok () else .error (.unknownLevel name)
  | value => .error (.noLevel value.display)

def transportFor (name host port : Json) : Except LaunchError Transport :=
  match name with
  | .str "stdio" => .ok .stdio
  | .str "sse" => .ok (.sse host port)
  | other => .error (.transport other.plain)

/-- Prepares a server: the server, and the transport that it is to run on. -/
def launch (settings : Settings) (workspace : Workspace) (transport host port : Json) :
    Logged LaunchError (Server × Transport) := do
  Logged.ofExcept (checkLevel settings.logLevel)
  let server ← (Server.create settings workspace none).mapError .policy
  let transport ← Logged.ofExcept (transportFor transport host port)
  return (server, transport)

/-- How a launched server may end, as far as its program goes on. -/
inductive Ending
  | finished
  | interrupted
  | failed (reason : String)
  deriving DecidableEq, Repr

/-- The exit code for an ending, and what is logged about it. -/
def Ending.report : Ending → List LogRecord × Nat
  | .finished => ([], 0)
  | .interrupted => ([⟨.info, .server, "Server stopped"⟩], 0)
  | .failed reason =>
    ([⟨.error, .server, s!"Cannot start FormSpec MCP server: {reason}"⟩], 1)

/-- The ending that an error stands for. One about the policy's file is reported like a server that
fails; any other one ends the program. -/
def LaunchError.ending (e : LaunchError) : Except LaunchError Ending :=
  match e with
  | .policy error => if error.isAboutFile then .ok (.failed error.message) else .error e
  | e => .error e

end FormSchema.Service
