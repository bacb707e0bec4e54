import FormSchema.Json
import FormSchema.Number.Limit

/-!
# FormSchema — validity of data

The meaning of the schema documents that forms are compiled to: JSON Schema draft 07, as far as
its keywords occur in them. It is read off the document and knows nothing about forms. Keywords
that assert nothing, such as titles and those of other vocabularies, are passed over.
-/

namespace FormSchema.Draft07

open Number (Limit Magnitude)

/-! ## Equality of values -/

/-- The exact value of a number. -/
def number? : Json → Option Magnitude
  | .int n => (Limit.int n).magnitude?
  | .float x => (Limit.float x).magnitude?
  | _ => none

def sameNumber (a b : Json) : Bool :=
  match number? a, number? b with
  | some x, some y => x == y
  | _, _ => false

mutual

/-- Whether two values are equal: numbers by their values, objects whatever their order. -/
def equal : Json → Json → Bool
  | .null, .null => true
  | .bool a, .bool b => a == b
  -- an integer and a double may be the same number
  | .int n, d => sameNumber (.int n) d
  | .float x, d => sameNumber (.float x) d
  | .str s, .str t => s == t
  | .arr xs, .arr ys => equalItems xs ys
  | .obj xs, .obj ys => xs.length == ys.length && equalMembers xs ys
  | _, _ => false
termination_by structural a => a

def equalItems : List Json → List Json → Bool
  | [], [] => true
  | x :: xs, y :: ys => equal x y && equalItems xs ys
  | _, _ => false
termination_by structural xs => xs

/-- Whether an object has every given member, up to `equal`. -/
def equalMembers : List (String × Json) → List (String × Json) → Bool
  | [], _ => true
  | (key, x) :: xs, ys =>
    (match Entries.get? ys key with
      | some y => equal x y
      | none => false) && equalMembers xs ys
termination_by structural xs => xs

end

/-! ## Validity -/

def typeName : Json → String
  | .null => "null"
  | .bool _ => "boolean"
  | .int _ => "number"
  | .float _ => "number"
  | .str _ => "string"
  | .arr _ => "array"
  | .obj _ => "object"

def below (a b : Json) : Bool :=
  match number? a, number? b with
  | some x, some y => x.lt y
  | _, _ => false

def items : Json → List Json
  | .arr xs => xs
  | _ => []

def membersOf : Json → Entries Json
  | .obj members => members
  | _ => []

/-- What a keyword without schemas asserts of a value. A limit on something that the value does not
have asserts nothing. -/
def asserts : String → Json → Json → Bool
  | "type", .str name, d => typeName d == name
  | "const", value, d => equal d value
  | "enum", .arr values, d => values.any fun value => equal d value
  | "minimum", limit, d => !below d limit
  | "maximum", limit, d => !below limit d
  | "minItems", .int n, .arr xs => decide (n ≤ xs.length)
  | "maxItems", .int n, .arr xs => decide (xs.length ≤ n)
  -- entries that are no names are passed over
  | "required", .arr names, .obj members =>
    names.all fun
      | .str name => decide (name ∈ Entries.names members)
      | _ => true
  | _, _, _ => true

/-- The members of an object that a schema does not list among its properties. -/
def additional (schema : Entries Json) (d : Json) : List Json :=
  let listed := Entries.names (membersOf ((schema.get? "properties").getD .null))
  ((membersOf d).filter fun member => !listed.contains member.1).map (·.2)

mutual

/-- Whether a value is valid against a schema. -/
def valid : Json → Json → Bool
  | .bool b, _ => b
  | .obj keywords, d => validKeywords keywords keywords d
  | _, _ => false
termination_by structural schema => schema

/-- Whether a value satisfies some of the keywords of a schema. -/
def validKeywords (schema : Entries Json) : List (String × Json) → Json → Bool
  | [], _ => true
  | (key, value) :: rest, d =>
    (match key with
      | "properties" => validProperties value d
      | "additionalProperties" => (additional schema d).all fun v => valid value v
      | "items" => (items d).all fun x => valid value x
      | "allOf" => (verdicts value d).all id
      -- exactly one branch
      | "oneOf" => (verdicts value d).count true == 1
      | _ => asserts key value d) && validKeywords schema rest d
termination_by structural keywords => keywords

def validProperties : Json → Json → Bool
  | .obj schemas, d => validMembers schemas d
  | _, _ => true
termination_by structural schemas => schemas

def validMembers : List (String × Json) → Json → Bool
  | [], _ => true
  | (name, schema) :: rest, d =>
    (match d.get? name with
      | some v => valid schema v
      | none => true) && validMembers rest d
termination_by structural schemas => schemas

/-- Whether a value is valid against each schema of a list. -/
def verdicts : Json → Json → List Bool
  | .arr schemas, d => verdictsOf schemas d
  | _, _ => []
termination_by structural schemas => schemas

def verdictsOf : List Json → Json → List Bool
  | [], _ => []
  | schema :: schemas, d => valid schema d :: verdictsOf schemas d
termination_by structural schemas => schemas

end

/-! ### Keyword by keyword

A schema asks for what each of its keywords asks for, so a document that is written in pieces can be
judged in pieces. -/

def holds (schema : Entries Json) (key : String) (value d : Json) : Bool :=
  match key with
  | "properties" => validProperties value d
  | "additionalProperties" => (additional schema d).all fun v => valid value v
  | "items" => (items d).all fun x => valid value x
  | "allOf" => (verdicts value d).all id
  | "oneOf" => (verdicts value d).count true == 1
  | _ => asserts key value d

theorem validKeywords_cons (schema : Entries Json) (key : String) (value : Json)
    (rest : List (String × Json)) (d : Json) :
    validKeywords schema ((key, value) :: rest) d
      = (holds schema key value d && validKeywords schema rest d) := rfl

theorem validKeywords_append (schema : Entries Json) (xs ys : List (String × Json)) (d : Json) :
    validKeywords schema (xs ++ ys) d
      = (validKeywords schema xs d && validKeywords schema ys d) := by
  induction xs with
  | nil => rfl
  | cons x xs ih =>
    obtain ⟨key, value⟩ := x
    rw [List.cons_append, validKeywords_cons, ih, validKeywords_cons, Bool.and_assoc]

theorem validKeywords_nil (schema : Entries Json) (d : Json) : validKeywords schema [] d = true :=
  rfl

theorem verdictsOf_eq_map (schemas : List Json) (d : Json) :
    verdictsOf schemas d = schemas.map fun schema => valid schema d := by
  induction schemas with
  | nil => rfl
  | cons schema schemas ih => rw [verdictsOf, ih, List.map_cons]

end FormSchema.Draft07
