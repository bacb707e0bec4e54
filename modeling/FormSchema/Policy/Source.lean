import FormSchema.Files
import FormSchema.Log
import FormSchema.Policy.Basic
import FormSchema.Settings
import FormSchema.Text.Utf8
import FormSchema.Yaml.Value

/-!
# FormSchema — where policies come from

A policy is a YAML document, and it stands in a file that is named or that is found in a directory
or one of those around it. Where there is no such file, everything is allowed.
-/

namespace FormSchema

open Intake

inductive PolicyError
  | unreadable (source : String) (error : Yaml.ReadError)
  | notMapping (source : String)
  | invalid (source : String) (error : RecordError)
  | notFound (path : String)
  | encoding (error : Text.Utf8Error)
  | notPath (typeWord : String)

def PolicyError.message : PolicyError → String
  | .unreadable source error => error.message source
  | .notMapping source => s!"{source}: top level must be a mapping"
  | .invalid source error => s!"Invalid constraints in {source}: {error.message}"
  | .notFound path => s!"Constraints file not found: {path}"
  | .encoding error => error.message
  | .notPath typeWord => s!"expected str, bytes or os.PathLike object, not {typeWord}"

/-- Whether an error is that a file is missing, is no YAML or states no policy. A file in another
encoding and a scalar that is no value of its kind are errors of another sort. -/
def PolicyError.isAboutFile : PolicyError → Bool
  | .unreadable _ (.malformed _) => true
  | .notMapping _ => true
  | .invalid _ _ => true
  | .notFound _ => true
  | _ => false

/-- Reads a policy from the text of a document; `source` tells where it comes from. A text without a
document allows everything. -/
def Policy.ofText (source : String) (text : List Char) : Except PolicyError Policy := do
  match ← (Yaml.read text).mapError (.unreadable source) with
  | .null => return {}
  | .map pairs =>
    ((Policy.readDocument (Yaml.Value.map pairs).toJson).toExcept "FormSpecFileConfig").mapError
      (.invalid source)
  | _ => throw (.notMapping source)

namespace Policy

/-- The names that a policy's file may have, the preferred one first. -/
def fileNames : List String := [".formspec.yml", ".formspec.yaml", "formspec.yml"]

def fileIn? (files : Files) (directory : Location) : Option Location :=
  (fileNames.map fun name => directory ++ [name]).find? fun l => (files.bytesAt? l).isSome

/-- The directories that are searched from a directory. -/
def searched (directory : Location) (searchParents : Bool) : List Location :=
  if searchParents then directory.upward else [directory]

/-- Finds the file with the policy for a directory: the nearest one counts. -/
def findFile? (files : Files) (directory : Location) (searchParents : Bool) : Option Location :=
  (searched directory searchParents).findSome? (fileIn? files)

/-- The file with the policy for a directory that a path names. -/
def findFrom? (workspace : Workspace) (start : Path) (searchParents : Bool) : Option Location :=
  findFile? workspace.files (start.resolve workspace.here) searchParents

/-- A policy and the file it was read from, if it comes from one. -/
structure Loaded where
  policy : Policy
  path : Option Path

def readPath : Json → Except PolicyError Path
  | .str text => .ok (.ofText text)
  | value => .error (.notPath value.typeWord)

/-- The file that a policy is to be read from: one that is named must exist, and otherwise there
need not be any. An empty start directory is the one that the workspace is seen from. -/
def locate (workspace : Workspace) (named start : Json) (searchParents : Bool) :
    Except PolicyError (Option Path) := do
  match named with
  | .null =>
    -- nothing is read here: whether the file found is a policy is seen when it is loaded
    let start ← if start.isSet then readPath start else pure (.ofText "")
    return (findFrom? workspace start searchParents).map Path.toLocation
  | named =>
    let path ← readPath named
    if (workspace.files.read? workspace.here path).isSome then return some path
    else throw (.notFound path.toText)

/-- Loads the policy that is named, or the one that the settings name, or one that is found from a
start directory. The settings also say whether the directories around it are searched, unless that
is given. -/
def load (settings : Settings) (workspace : Workspace) (named start searchParents : Json) :
    Logged PolicyError Loaded := do
  let named := match named with
    | .null => if settings.constraintsFile.isSet then settings.constraintsFile else .null
    | named => named
  let searchParents := match searchParents with
    | .null => settings.searchParents
    | given => given
  match ← Logged.ofExcept (locate workspace named start searchParents.isSet) with
  | none =>
    .record .debug .forms "No constraints file found, all features allowed"
    return ⟨{}, none⟩
  | some path =>
    let bytes := (workspace.files.read? workspace.here path).getD []
    let text ← Logged.ofExcept ((Text.decodeUtf8 bytes).mapError .encoding)
    -- the file counts as loaded once its text is decoded, whatever the text says
    .record .info .forms s!"Loaded constraints from {path.toText}"
    let policy ← Logged.ofExcept (Policy.ofText path.toText text)
    return ⟨policy, some path⟩

/-- Loads the policy for the directory that the workspace is seen from. -/
def loadHere (settings : Settings) (workspace : Workspace) : Logged PolicyError Loaded :=
  load settings workspace .null .null .null

end Policy

end FormSchema
