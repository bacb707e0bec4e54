import FormSchema.Yaml.Tag

/-!
# FormSchema — YAML nodes

The tree that a document describes, before its scalars are read as values. An alias of a collection
that is complete is a copy of it. Inside the collection it names, an alias would make the tree
infinite; such a collection is unrolled to a depth that no reader of a policy looks beyond.
-/

namespace FormSchema.Yaml

/-- A node. Until the collection around it is complete, an alias of that collection is kept by its
name. -/
inductive Node
  | scalar (tag : Tag) (text : String)
  | sequence (tag : Tag) (items : List Node)
  | mapping (tag : Tag) (pairs : List (Node × Node))
  | around (anchor : String)
  deriving Inhabited

namespace Node

def empty : Node := .scalar .null ""

mutual

def replace (anchor : String) (whole : Node) : Node → Node
  | .scalar tag text => .scalar tag text
  | .sequence tag items => .sequence tag (replaceItems anchor whole items)
  | .mapping tag pairs => .mapping tag (replacePairs anchor whole pairs)
  | .around name => if name = anchor then whole else .around name

def replaceItems (anchor : String) (whole : Node) : List Node → List Node
  | [] => []
  | node :: rest => replace anchor whole node :: replaceItems anchor whole rest

def replacePairs (anchor : String) (whole : Node) : List (Node × Node) → List (Node × Node)
  | [] => []
  | (key, value) :: rest =>
    (replace anchor whole key, replace anchor whole value) :: replacePairs anchor whole rest

end

def emptied : Node → Node
  | .sequence tag _ => .sequence tag []
  | .mapping tag _ => .mapping tag []
  | node => node

/-- Replaces the aliases of a complete collection inside it, to a depth. -/
def unroll (anchor : String) (node : Node) : (depth : Nat) → Node
  | 0 => node.emptied
  | depth + 1 => replace anchor (unroll anchor node depth) node

end Node

end FormSchema.Yaml
