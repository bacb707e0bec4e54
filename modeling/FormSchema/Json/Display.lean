import FormSchema.Json
import FormSchema.Number.Shortest
import FormSchema.Text.Quoted

/-!
# FormSchema — values in messages

How a JSON value is shown inside an error message: `None`, `True` and `False` for the constants,
texts in quotes, lists in brackets, objects in braces with quoted keys.
-/

namespace FormSchema.Json

mutual

def display : Json → String
  | .null => "None"
  | .bool true => "True"
  | .bool false => "False"
  | .int n => toString n
  | .float x => Number.floatText Number.plainNames x
  | .str s => Text.quoted s
  | .arr items => "[" ++ ", ".intercalate (displayItems items) ++ "]"
  | .obj members => "\x7b" ++ ", ".intercalate (displayMembers members) ++ "\x7d"

def displayItems : List Json → List String
  | [] => []
  | item :: rest => display item :: displayItems rest

def displayMembers : List (String × Json) → List String
  | [] => []
  | (key, value) :: rest => (Text.quoted key ++ ": " ++ display value) :: displayMembers rest

end

/-- A value as part of a text: texts stand without quotes. -/
def plain : Json → String
  | .str s => s
  | value => value.display

def typeWord : Json → String
  | .null => "NoneType"
  | .bool _ => "bool"
  | .int _ => "int"
  | .float _ => "float"
  | .str _ => "str"
  | .arr _ => "list"
  | .obj _ => "dict"

/-- A name is shown as text; a value that does not count as given is no name. -/
def asName (value : Json) : Option String := if value.isSet then some value.plain else none

end FormSchema.Json
