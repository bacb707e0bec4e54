import FormSchema.CommandLine
import FormSchema.Json.Reader

/-!
# FormSchema — the program

Launches the server that the command line and the environment ask for. It reads one call per line,
an object with a `tool` and its `arguments`, and writes one reply per line. Log records and messages
go to the error stream.
-/

namespace FormSchema.Program

open Service

/-- The environment variables that settings come from. -/
def variableNames : List String :=
  ["FORMSPEC_JSON_SCHEMA_VERSION", "FORMSPEC_INDENT_JSON", "FORMSPEC_VALIDATION_MODE",
    "FORMSPEC_CONSTRAINTS_FILE", "FORMSPEC_SEARCH_PARENT_DIRS", "MCP_TRANSPORT", "MCP_HOST",
    "MCP_PORT", "FORMSPEC_LOG_LEVEL"]

def environment : IO (Entries String) := do
  let values ← variableNames.mapM fun name => do return (name, ← IO.getEnv name)
  return values.filterMap fun (name, value) => value.map (name, ·)

/-- The bytes of a file, if it can be read. -/
def bytesAt? (l : Location) : IO (Option (Location × List Nat)) := do
  try
    let bytes ← IO.FS.readBinFile l.toText
    return some (l, bytes.toList.map (·.toNat))
  catch _ => return none

/-- The files that a policy may be read from: the one that is named, and those in the current
directory and around it. -/
def workspace (named : Json) : IO Workspace := do
  let here : Location := (Path.ofText (toString (← IO.currentDir))).names
  let found := (Location.upward here).flatMap fun directory =>
    Policy.fileNames.map fun name => directory ++ [name]
  let own := match named with
    | .str text => [(Path.ofText text).resolve here]
    | _ => []
  let files ← (own ++ found).filterMapM bytesAt?
  return { files := { files, directories := [here] }, here }

def showLog (log : List LogRecord) : IO Unit :=
  log.forM fun record =>
    let level := match record.level with
      | .debug => "DEBUG"
      | .info => "INFO"
      | .warning => "WARNING"
      | .error => "ERROR"
    IO.eprintln s!"{level}: {record.message}"

def reply (server : Server) (settings : Settings) (line : String) : List LogRecord × Reply :=
  match Json.parse line with
  | .error e => ([], ⟨true, e.message⟩)
  | .ok call =>
    let arguments := match call.getD "arguments" with
      | .obj members => members
      | _ => []
    server.call settings (call.getD "tool").plain arguments

partial def serve (server : Server) (settings : Settings) : IO Unit := do
  let line ← (← IO.getStdin).getLine
  if line.isEmpty then return
  let (log, reply) := reply server settings line
  showLog log
  let answer := Json.obj [("isError", .bool reply.isError), ("text", .str reply.text)]
  IO.println (answer.write .compact)
  (← IO.getStdout).flush
  serve server settings

def exitWith (code : UInt32) (message : String) : IO UInt32 := do
  IO.eprintln message
  return code

def run (arguments : List String) : IO UInt32 := do
  match Settings.ofEnvironment (← environment) with
  | .error e => exitWith 1 e.message
  | .ok settings =>
    match CommandLine.parse settings arguments with
    | .error e => exitWith e.exitCode.toUInt32 e.message
    | .ok options =>
      let settings := options.apply settings
      let launched := options.launch settings (← workspace options.constraints)
      showLog launched.log
      match launched.outcome with
      | .error e =>
        match e.ending with
        | .error e => exitWith 1 e.message
        | .ok ending =>
          showLog ending.report.1
          return ending.report.2.toUInt32
      | .ok (_, .sse _ _) => exitWith 1 "This program serves on the standard streams only."
      | .ok (server, .stdio) =>
        serve server settings
        return 0

end FormSchema.Program

def main (arguments : List String) : IO UInt32 := FormSchema.Program.run arguments
