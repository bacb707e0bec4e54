import FormSchema.Entries

/-!
# FormSchema — JSON values

The data that forms are loaded from and that schemas are written as. Integers and floating-point
numbers are kept apart, since `1` and `1.0` are different declarations, and objects keep the order
of their keys.
-/

namespace FormSchema

/-- A JSON value. An object lists its members in order of first appearance. -/
inductive Json
  | null
  | bool (value : Bool)
  | int (value : Int)
  | float (value : Float)
  | str (value : String)
  | arr (items : List Json)
  | obj (members : List (String × Json))
  deriving Inhabited

namespace Json

/-- The value of an object's member; nothing for other values. -/
def get? : Json → String → Option Json
  | .obj members, key => Entries.get? members key
  | _, _ => none

/-- The value of an object's member, null when there is none. -/
def getD (value : Json) (key : String) : Json := (value.get? key).getD .null

/-- An object from members among which a key may be repeated. -/
def ofMembers (members : List (String × Json)) : Json := .obj (Entries.ofList members)

def ofStrings (texts : List String) : Json := .arr (texts.map .str)

/-- A text, or null when it is absent. -/
def ofText? : Option String → Json
  | none => .null
  | some text => .str text

/-- Whether a setting counts as given: null, false, zero and everything empty do not. -/
def isSet : Json → Bool
  | .null => false
  | .bool b => b
  | .int n => n != 0
  | .float x => x != 0
  | .str s => !s.isEmpty
  | .arr items => !items.isEmpty
  | .obj members => !members.isEmpty

mutual

/-- Whether two values are written alike: numbers by representation, objects with their order. -/
def same : Json → Json → Bool
  | .null, .null => true
  | .bool a, .bool b => a == b
  | .int a, .int b => a == b
  | .float a, .float b => decide (a = b)
  | .str a, .str b => a == b
  | .arr xs, .arr ys => sameItems xs ys
  | .obj xs, .obj ys => sameMembers xs ys
  | _, _ => false

def sameItems : List Json → List Json → Bool
  | [], [] => true
  | x :: xs, y :: ys => same x y && sameItems xs ys
  | _, _ => false

def sameMembers : List (String × Json) → List (String × Json) → Bool
  | [], [] => true
  | (k, x) :: xs, (l, y) :: ys => k == l && same x y && sameMembers xs ys
  | _, _ => false

end

instance : BEq Json := ⟨same⟩

end Json

end FormSchema
