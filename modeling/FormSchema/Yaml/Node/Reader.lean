import FormSchema.Yaml.Node
import FormSchema.Yaml.Token.Lexer

/-!
# FormSchema — from YAML tokens to nodes

The grammar of YAML: a node may be left out wherever what follows it shows that, and the items of a
list may stand at the column of the key they belong to. A text describes at most one document.
-/

namespace FormSchema.Yaml

/-- The tokens that are left, and the anchored nodes so far; a collection that is not complete has
none yet. -/
structure TokenState where
  tokens : List Token
  anchors : List (String × Option Node)

abbrev TokenReader := StateT TokenState (Except Malformed)

abbrev Handles := List (String × String)

namespace TokenReader

/-- The next token; behind the last one, the end of the stream. -/
def peek : TokenReader Token := do return (← get).tokens.headD .streamEnd

def skip : TokenReader Unit := modify fun s => { s with tokens := s.tokens.drop 1 }

def skipIf (token : Token) : TokenReader Bool := do
  if (← peek) == token then
    skip
    return true
  else return false

def expect (token : Token) : TokenReader Unit := do
  if !(← skipIf token) then throw .arrangement

/-- Repeats a step as long as it gives something. -/
def gather {α : Type} (step : TokenReader (Option α)) : (fuel : Nat) → TokenReader (List α)
  | 0 => throw .arrangement
  | fuel + 1 => do
    match ← step with
    | some value => return value :: (← gather step fuel)
    | none => return []

/-- A node, or an empty one if one of some tokens is next. -/
def orEmpty (ends : List Token) (node : TokenReader Node) : TokenReader Node := do
  if (← peek) ∈ ends then return .empty else node

/-- The value of a pair: behind a colon, or left out. -/
def pairValue (ends : List Token) (node : TokenReader Node) : TokenReader Node := do
  if ← skipIf .value then orEmpty ends node else return .empty

/-! ## Collections

Each reader starts behind the token that opens the collection. -/

def blockItem? (node : TokenReader Node) : TokenReader (Option Node) := do
  if ← skipIf .blockEntry then return some (← orEmpty [.blockEntry, .blockEnd] node)
  else
    expect .blockEnd
    return none

/-- The items of a list at the column of its key. -/
def alignedItem? (node : TokenReader Node) : TokenReader (Option Node) := do
  if ← skipIf .blockEntry then
    return some (← orEmpty [.blockEntry, .key, .value, .blockEnd] node)
  else return none

def blockPair? (node : TokenReader Node) : TokenReader (Option (Node × Node)) := do
  let ends := [.key, .value, .blockEnd]
  if ← skipIf .key then
    let key ← orEmpty ends node
    return some (key, ← pairValue ends node)
  else
    expect .blockEnd
    return none

/-- The comma in front of every item but the first. -/
def comma (first : Bool) : TokenReader Unit := do
  if !first then expect .flowEntry

/-- The items of a list in brackets. An item may be a single pair. -/
def flowItems (node : TokenReader Node) (first : Bool) : (fuel : Nat) → TokenReader (List Node)
  | 0 => throw .arrangement
  | fuel + 1 => do
    if ← skipIf .flowSequenceEnd then return []
    comma first
    -- a comma may stand behind the last item
    if ← skipIf .flowSequenceEnd then return []
    let item ←
      if ← skipIf .key then do
        let ends := [.flowEntry, .flowSequenceEnd]
        let key ← orEmpty (.value :: ends) node
        pure (.mapping .mapping [(key, ← pairValue ends node)])
      else node
    return item :: (← flowItems node false fuel)

/-- The pairs of a mapping in braces. A node alone is a key without a value. -/
def flowPairs (node : TokenReader Node) (first : Bool) :
    (fuel : Nat) → TokenReader (List (Node × Node))
  | 0 => throw .arrangement
  | fuel + 1 => do
    if ← skipIf .flowMappingEnd then return []
    comma first
    if ← skipIf .flowMappingEnd then return []
    let ends := [.flowEntry, .flowMappingEnd]
    let pair ←
      if ← skipIf .key then do
        let key ← orEmpty (.value :: ends) node
        pure (key, ← pairValue ends node)
      else do pure (← node, .empty)
    return pair :: (← flowPairs node false fuel)

/-! ## Nodes -/

/-- Where a node stands: in brackets or braces, in a block, or behind a key or a colon of a block,
where a list may start at the column of the mapping. -/
inductive Place
  | flow
  | block
  | pair
  deriving DecidableEq, Repr

def anchor? : TokenReader (Option String) := do
  match ← peek with
  | .anchor name =>
    skip
    return some name
  | _ => return none

def tag? (handles : Handles) : TokenReader (Option String) := do
  match ← peek with
  | .tag handle suffix =>
    skip
    match handle with
    | none => return some suffix
    | some handle =>
      match handles.lookup handle with
      | some expansion => return some (expansion ++ suffix)
      | none => throw .tag
  | _ => return none

/-- The anchor and the tag in front of a node, in either order. -/
def properties (handles : Handles) : TokenReader (Option String × Option String) := do
  match ← anchor? with
  | some name => return (some name, ← tag? handles)
  | none =>
    let tag ← tag? handles
    return (← anchor?, tag)

def openAnchor : Option String → TokenReader Unit
  | none => return ()
  | some name => do
    if ((← get).anchors.lookup name).isSome then throw .alias
    modify fun s => { s with anchors := (name, none) :: s.anchors }

/-- How deep a collection is unrolled that is used inside itself: deeper than policies are read. -/
def unrolledDepth : Nat := 6

def closeAnchor (node : Node) : Option String → TokenReader Node
  | none => return node
  | some name => do
    -- uses of the anchor inside its own node were left open until here
    let whole := node.unroll name unrolledDepth
    let settle (entry : String × Option Node) : String × Option Node :=
      if entry.1 = name then (name, some whole)
      else (entry.1, entry.2.map (Node.replace name whole))
    modify fun s => { s with anchors := s.anchors.map settle }
    return whole

def aliased (name : String) : TokenReader Node := do
  match (← get).anchors.lookup name with
  | some (some node) => return node
  | some none => return .around name
  | none => throw .alias

/-- The tag of a collection: the one given, if it says anything. -/
def collectionTag (given : Option String) (usual : Tag) : Tag :=
  match given with
  | none => usual
  | some "!" => usual
  | some name => Tag.ofName name

/-- The tag of a scalar. A plain one without a tag, and any one with a bare exclamation mark, goes
by its form. -/
def scalarTag (given : Option String) (text : String) (plain : Bool) : Tag :=
  match given with
  | none => if plain then Tag.ofPlain text else .text
  | some "!" => Tag.ofPlain text
  | some name => Tag.ofName name

/-- Reads a node; the fuel bounds how deep nodes are nested. -/
def node (handles : Handles) : (fuel : Nat) → Place → TokenReader Node
  | 0, _ => throw .arrangement
  | fuel + 1, place => do
    match ← peek with
    | .alias name =>
      skip
      aliased name
    | _ =>
      let (anchor, tag) ← properties handles
      let count := (← get).tokens.length + 1
      let inner := node handles fuel
      let listTag := collectionTag tag .sequence
      let pairsTag := collectionTag tag .mapping
      -- the anchor is known from here on, also inside its own collection
      openAnchor anchor
      let whole ←
        match place, ← peek with
        | .pair, .blockEntry =>
          pure (.sequence listTag (← gather (alignedItem? (inner .block)) count))
        | _, .scalar text plain =>
          skip
          pure (.scalar (scalarTag tag text plain) text)
        | _, .flowSequenceStart =>
          skip
          pure (.sequence listTag (← flowItems (inner .flow) true count))
        | _, .flowMappingStart =>
          skip
          pure (.mapping pairsTag (← flowPairs (inner .flow) true count))
        | .flow, _ => leftOut anchor tag
        | _, .blockSequenceStart =>
          skip
          pure (.sequence listTag (← gather (blockItem? (inner .block)) count))
        | _, .blockMappingStart =>
          skip
          pure (.mapping pairsTag (← gather (blockPair? (inner .pair)) count))
        | _, _ => leftOut anchor tag
      closeAnchor whole anchor
where
  /-- Behind an anchor or a tag, a node may be left out. -/
  leftOut (anchor tag : Option String) : TokenReader Node := do
    if anchor.isNone && tag.isNone then throw .arrangement
    return .scalar (scalarTag tag "" true) ""

/-! ## Documents -/

/-- What the handles stand for when no directive says otherwise. -/
def usualHandles : Handles := [("!", "!"), ("!!", Tag.standardNames)]

/-- Reads the directives in front of a document: at most one version, which has to be 1, and each
handle at most once. -/
def directives : (fuel : Nat) → (versioned : Bool) → Handles → TokenReader Handles
  | 0, _, handles => return handles
  | fuel + 1, versioned, handles => do
    match ← peek with
    | .directive directive =>
      skip
      match directive with
      | .version major _ =>
        if versioned || major != 1 then throw .directive
        directives fuel true handles
      | .handle name expansion =>
        if (handles.lookup name).isSome then throw .directive
        directives fuel versioned ((name, expansion) :: handles)
      | .other => directives fuel versioned handles
    | _ => return handles

def documentEnds : (fuel : Nat) → TokenReader Unit
  | 0 => return ()
  | fuel + 1 => do
    if ← skipIf .documentEnd then documentEnds fuel

/-- Reads the one document of a stream, if there is one. -/
def document? : TokenReader (Option Node) := do
  let count := (← get).tokens.length + 1
  if (← peek) == .streamEnd then return none
  let root ←
    match ← peek with
    | .directive _ => explicit count
    | .documentStart => explicit count
    | _ => node usualHandles count .block
  documentEnds count
  if (← peek) != .streamEnd then throw .documents
  return some root
where
  /-- A document with directives or marks in front of it. -/
  explicit (count : Nat) : TokenReader Node := do
    let own ← directives count false []
    expect .documentStart
    match ← peek with
    -- directives of a second document, which is refused once this one has ended
    | .directive _ => return .empty
    | next =>
      if next ∈ [.documentStart, .documentEnd, .streamEnd] then return .empty
      else node (own ++ usualHandles) count .block

end TokenReader

/-- The node that a text describes; a text without a document has none. -/
def readNode? (text : List Char) : Except ReadError (Option Node) := do
  let tokens ← tokens text
  match TokenReader.document?.run ⟨tokens, []⟩ with
  | .ok (node, _) => return node
  | .error reason => throw (.malformed reason)

end FormSchema.Yaml
