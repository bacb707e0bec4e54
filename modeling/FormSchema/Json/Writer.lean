import FormSchema.Json
import FormSchema.Number.Shortest
import FormSchema.Text.Quoted

/-!
# FormSchema — writing JSON text

One writer for every layout: on one line, or with a line for each item and member, indented by a
unit per level. Empty lists and objects stay on one line.
-/

namespace FormSchema.Json

/-- How a value is laid out. Without an indent everything stands on one line. -/
structure Layout where
  indent : Option String
  comma : String
  colon : String
  ascii : Bool

/-- One line with a blank behind commas and colons. -/
def Layout.oneLine : Layout := ⟨none, ", ", ": ", true⟩

/-- One line without blanks; characters beyond ASCII stand for themselves. -/
def Layout.compact : Layout := ⟨none, ",", ":", false⟩

/-- A line for each item and member, indented by the unit. -/
def Layout.lines (unit : String) : Layout := ⟨some unit, ",", ": ", true⟩

def unitEscape (n : Nat) : List Char := ['\\', 'u'] ++ Text.hexPadded 4 n

def stringChar (ascii : Bool) (c : Char) : List Char :=
  match c with
  | '"' => ['\\', '"']
  | '\\' => ['\\', '\\']
  | '\n' => ['\\', 'n']
  | '\r' => ['\\', 'r']
  | '\t' => ['\\', 't']
  | '\x08' => ['\\', 'b']
  | '\x0c' => ['\\', 'f']
  | c =>
    let n := c.toNat
    if n < 0x20 then unitEscape n
    else if n < 0x7f ∨ !ascii then [c]
    else if n < 0x10000 then unitEscape n
    else unitEscape (0xd800 + (n - 0x10000) / 0x400) ++ unitEscape (0xdc00 + (n - 0x10000) % 0x400)

def stringText (ascii : Bool) (s : String) : String :=
  String.ofList ('"' :: s.toList.flatMap (stringChar ascii) ++ ['"'])

/-- What stands in front of each item at a nesting level. -/
def Layout.lineStart (layout : Layout) (level : Nat) : String :=
  match layout.indent with
  | none => ""
  | some unit => "\n" ++ String.join (List.replicate level unit)

def Layout.enclose (layout : Layout) (level : Nat) (opening closing : String)
    (items : List String) : String :=
  if items.isEmpty then opening ++ closing
  else
    let start := layout.lineStart (level + 1)
    opening ++ start ++ (layout.comma ++ start).intercalate items
      ++ layout.lineStart level ++ closing

mutual

/-- Writes a value that stands at a nesting level. -/
def writeAt (layout : Layout) (level : Nat) : Json → String
  | .null => "null"
  | .bool true => "true"
  | .bool false => "false"
  | .int n => toString n
  | .float x => Number.floatText Number.jsonNames x
  | .str s => stringText layout.ascii s
  | .arr items => layout.enclose level "[" "]" (writeItems layout (level + 1) items)
  | .obj members => layout.enclose level "\x7b" "\x7d" (writeMembers layout (level + 1) members)

def writeItems (layout : Layout) (level : Nat) : List Json → List String
  | [] => []
  | item :: rest => writeAt layout level item :: writeItems layout level rest

def writeMembers (layout : Layout) (level : Nat) : List (String × Json) → List String
  | [] => []
  | (key, value) :: rest =>
    (stringText layout.ascii key ++ layout.colon ++ writeAt layout level value)
      :: writeMembers layout level rest

end

def write (layout : Layout) (value : Json) : String := writeAt layout 0 value

end FormSchema.Json
