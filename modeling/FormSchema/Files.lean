/-!
# FormSchema — files and paths

The files that a policy may be read from: a finite tree of directories and files. A path is looked
up from the directory one is in, and it is followed step by step, so that a step back from what is
no directory leads nowhere. Resolving a path, in contrast, only looks at its names.
-/

namespace FormSchema

/-- A place in the tree: the names of the directories from the top down, and a last name. -/
abbrev Location := List String

def Location.toText (l : Location) : String := "/" ++ "/".intercalate l

/-- A path: names to be followed from the top or from the directory one is in. -/
structure Path where
  fromTop : Bool
  names : List String
  deriving DecidableEq, Repr

namespace Path

/-- Reads a path. Empty names and the name `.` do not count. -/
def ofText (text : String) : Path :=
  { fromTop := text.startsWith "/"
    names := ((text.splitOn "/").filter fun name => name != "" && name != ".") }

def toText (p : Path) : String :=
  if p.fromTop then Location.toText p.names
  else if p.names.isEmpty then "."
  else "/".intercalate p.names

def toLocation (l : Location) : Path := ⟨true, l⟩

/-- Removes each step back together with the name in front of it. -/
def resolveNames (here : Location) : List String → Location
  | [] => here
  | ".." :: rest => resolveNames here.dropLast rest
  | name :: rest => resolveNames (here ++ [name]) rest

/-- The location that a path's names say, seen from a location. -/
def resolve (here : Location) (p : Path) : Location :=
  resolveNames (if p.fromTop then [] else here) p.names

end Path

/-- A tree of files. What a directory is listed for only if nothing stands in it. -/
structure Files where
  files : List (Location × List Nat)
  directories : List Location

namespace Files

/-- Whether a location is a directory: the top is one, and so is what other locations lie in. -/
def isDirectory (fs : Files) (l : Location) : Bool :=
  l.isEmpty || fs.directories.any (fun d => l.isPrefixOf d)
    || fs.files.any fun f => l.isPrefixOf f.1 && l != f.1

def bytesAt? (fs : Files) (l : Location) : Option (List Nat) := fs.files.lookup l

def follow? (fs : Files) (here : Location) : List String → Option Location
  | [] => some here
  | name :: rest =>
    -- a name behind a file leads nowhere, even a step back
    if !fs.isDirectory here then none
    else follow? fs (if name = ".." then here.dropLast else here ++ [name]) rest

def read? (fs : Files) (here : Location) (p : Path) : Option (List Nat) := do
  fs.bytesAt? (← fs.follow? (if p.fromTop then [] else here) p.names)

end Files

/-- A location and the directories around it, from the innermost one up to the top. -/
def Location.upward (l : Location) : List Location :=
  (List.range (l.length + 1)).map fun n => l.take (l.length - n)

structure Workspace where
  files : Files
  here : Location

end FormSchema
