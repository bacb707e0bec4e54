import FormSchema.Json
import FormSchema.Yaml.Node.Reader
import FormSchema.Yaml.Value.Scalar

/-!
# FormSchema — YAML values

What a document says once its scalars are read by their tags and its merge keys are resolved. If
several values cannot be read, the one nearest to the top of the document is reported, and of these
the first.
-/

namespace FormSchema.Yaml

/-- A value. Timestamps and binary data only have to be told apart from the other values. -/
inductive Value
  | null
  | bool (value : Bool)
  | int (value : Int)
  | float (value : Float)
  | text (value : String)
  | timestamp (value : Timestamp)
  | binary
  | list (items : List Value)
  | map (pairs : List (Value × Value))
  | set
  deriving Inhabited

/-- An error and how many collections it stands in. -/
structure Misread where
  depth : Nat
  error : ReadError

abbrev Reading (α : Type) := Except Misread α

namespace Reading

variable {α β : Type}

/-- Fails at a depth because of the document's form. -/
def malformed (depth : Nat) (reason : Malformed) : Reading α := .error ⟨depth, .malformed reason⟩

/-- Two parts of a document. The error nearer to the top is the one of both. -/
def both : Reading α → Reading β → Reading (α × β)
  | .ok a, .ok b => .ok (a, b)
  | .error e, .error f => .error (if f.depth < e.depth then f else e)
  | .error e, .ok _ => .error e
  | .ok _, .error f => .error f

def cons (first : Reading α) (rest : Reading (List α)) : Reading (List α) :=
  (both first rest).map fun parts => parts.1 :: parts.2

/-- Reads two lists, one behind the other. -/
def append (first rest : Reading (List α)) : Reading (List α) :=
  (both first rest).map fun parts => parts.1 ++ parts.2

end Reading

/-- The pairs of a mapping: those that are merged into it, and its own. -/
structure Pairs where
  merged : Reading (List (Value × Value))
  own : Reading (List (Value × Value))

/-- All pairs of a mapping; its own come last, and so they count. -/
def Pairs.join (pairs : Pairs) : Reading (List (Value × Value)) := .append pairs.merged pairs.own

namespace Value

/-- Whether a value may be a key. -/
def isKey : Value → Bool
  | .list _ => false
  | .map _ => false
  | .set => false
  | _ => true

def ofScalar (depth : Nat) (tag : Tag) (text : String) : Reading Value :=
  let lift {α : Type} (make : α → Value) (x : Except ScalarFault α) : Reading Value :=
    (x.map make).mapError fun fault => ⟨depth, .scalar fault⟩
  match tag with
  | .null => .ok .null
  | .bool => lift .bool (readFlag text)
  | .int => lift .int (readInteger text)
  | .float => lift .float (readFloat text)
  | .text => .ok (.text text)
  | .timestamp => lift .timestamp (readTimestamp text)
  | .binary => if isBinary text then .ok .binary else .malformed depth .binary
  | .sequence => .malformed (depth + 1) .arrangement
  | .mapping => .malformed (depth + 1) .arrangement
  | .set => .malformed (depth + 1) .arrangement
  | .orderedMap => .malformed (depth + 1) .arrangement
  | .pairs => .malformed (depth + 1) .arrangement
  | .merge => .malformed depth .unknownTag
  | .value => .malformed depth .unknownTag
  | .other => .malformed depth .unknownTag

/-- Reads a key. An equality sign is an ordinary key, and no collection is one. -/
def ofKey (depth : Nat) : Node → Reading Value
  | .scalar .value content => .ok (.text content)
  | .scalar .sequence _ => .malformed depth .key
  | .scalar .mapping _ => .malformed depth .key
  | .scalar .set _ => .malformed depth .key
  | .scalar .orderedMap _ => .malformed depth .key
  | .scalar .pairs _ => .malformed depth .key
  | .scalar tag content => ofScalar depth tag content
  | _ => .malformed depth .key

/-- Whether a node is a merge key. -/
def isMergeKey : Node → Bool
  | .scalar .merge _ => true
  | _ => false

mutual

/-- Whether a merge key among some pairs, or in what it merges, has nothing to merge. -/
def isMisMerged : List (Node × Node) → Bool
  | [] => false
  | (key, value) :: rest => (isMergeKey key && !isMergeable value) || isMisMerged rest

/-- Whether a node can be merged: it is a mapping, or a list of mappings. -/
def isMergeable : Node → Bool
  | .mapping _ pairs => !isMisMerged pairs
  | .sequence _ items => areMergeable items
  | _ => false

/-- Whether all items are mappings that can be merged. -/
def areMergeable : List Node → Bool
  | [] => true
  | .mapping _ pairs :: rest => !isMisMerged pairs && areMergeable rest
  | _ :: _ => false

end

mutual

/-- Reads a node that stands in a number of collections. -/
def ofNode (depth : Nat) : Node → Reading Value
  | .scalar tag content => ofScalar depth tag content
  | .sequence tag items =>
    match tag with
    | .sequence => (ofItems (depth + 1) items).map .list
    | .orderedMap => (ofEntries (depth + 1) items).map .list
    | .pairs => (ofEntries (depth + 1) items).map .list
    | .mapping => .malformed (depth + 1) .arrangement
    | .set => .malformed (depth + 1) .arrangement
    | .other => .malformed depth .unknownTag
    | _ => .malformed depth .arrangement
  | .mapping tag pairs =>
    match tag with
    | .mapping =>
      if isMisMerged pairs then .malformed (depth + 1) .merge
      else (Pairs.join (ofPairs (depth + 1) pairs)).map .map
    | .set =>
      if isMisMerged pairs then .malformed (depth + 1) .merge
      else (Pairs.join (ofPairs (depth + 1) pairs)).map fun _ => .set
    | .sequence => .malformed (depth + 1) .arrangement
    | .orderedMap => .malformed (depth + 1) .arrangement
    | .pairs => .malformed (depth + 1) .arrangement
    | .other => .malformed depth .unknownTag
    | _ => .malformed depth .arrangement
  | .around _ => .malformed depth .alias

def ofItems (depth : Nat) : List Node → Reading (List Value)
  | [] => .ok []
  | node :: rest => .cons (ofNode depth node) (ofItems depth rest)

def ofEntries (depth : Nat) : List Node → Reading (List Value)
  | [] => .ok []
  | .mapping _ [(key, value)] :: rest =>
    .cons ((Reading.both (ofNode depth key) (ofNode depth value)).map fun pair =>
      .list [pair.1, pair.2]) (ofEntries depth rest)
  | _ :: _ => .malformed depth .arrangement

/-- Reads the pairs of a mapping: those that are merged into it, and its own. Pairs that are merged
later stand behind those merged before. -/
def ofPairs (depth : Nat) : List (Node × Node) → Pairs
  | [] => ⟨.ok [], .ok []⟩
  | (key, value) :: rest =>
    let others := ofPairs depth rest
    -- a merge key may stand anywhere among the pairs, and more than once
    if isMergeKey key then { others with merged := .append (merged depth value) others.merged }
    else
      let pair := Reading.both (ofKey depth key) (ofNode depth value)
      { others with own := .cons pair others.own }

/-- The pairs that a merge key adds: those of a mapping, or of several, the last one first. -/
def merged (depth : Nat) : Node → Reading (List (Value × Value))
  | .mapping _ pairs => (ofPairs depth pairs).join
  | .sequence _ items => mergedItems depth items
  | _ => .malformed depth .merge

/-- The pairs of several mappings, the last one first. -/
def mergedItems (depth : Nat) : List Node → Reading (List (Value × Value))
  | [] => .ok []
  -- of several values for a key the last one counts, so the first mapping has to come last
  | .mapping _ pairs :: rest => .append (mergedItems depth rest) (ofPairs depth pairs).join
  | _ :: _ => .malformed depth .merge

end

mutual

/-- A value as JSON, for a reader of records: only texts name members, and a repeated one has the
last value. What JSON has no value for becomes an empty list, which no reader of a scalar or of a
record takes. -/
def toJson : Value → Json
  | .null => .null
  | .bool b => .bool b
  | .int n => .int n
  | .float x => .float x
  | .text s => .str s
  | .list items => .arr (itemsToJson items)
  | .map pairs => .ofMembers (membersToJson pairs)
  | .timestamp _ => .arr []
  | .binary => .arr []
  | .set => .arr []

def itemsToJson : List Value → List Json
  | [] => []
  | value :: rest => value.toJson :: itemsToJson rest

def membersToJson : List (Value × Value) → List (String × Json)
  | [] => []
  | (.text name, value) :: rest => (name, value.toJson) :: membersToJson rest
  | _ :: rest => membersToJson rest

end

end Value

/-- Reads the document in a text; a text without one is null. -/
def read (text : List Char) : Except ReadError Value := do
  match ← readNode? text with
  | none => return .null
  | some node => (Value.ofNode 0 node).mapError (·.error)

end FormSchema.Yaml
