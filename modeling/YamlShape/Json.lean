/-
# YamlShape.Json -- the JSON values of the schema view

Objects keep the order of their members.  `Json.pretty` writes a value over
several lines, two spaces for each level; an empty array or object stays on one
line, and only control characters, the quote and the backslash are escaped.
-/
import YamlShape.Text.Hex

namespace YamlShape

set_option autoImplicit false

/-- A JSON value without numbers and null. -/
inductive Json where
  | bool (value : Bool)
  | string (value : String)
  | array (items : List Json)
  | object (members : List (String × Json))

namespace Json

/-! ## Strings -/

def escapeChar (c : Char) : String :=
  if c = '"' then "\\\""
  else if c = '\\' then "\\\\"
  else if c = '\n' then "\\n"
  else if c = '\r' then "\\r"
  else if c = '\t' then "\\t"
  else if c = '\x08' then "\\b"
  else if c = '\x0c' then "\\f"
  else if c.toNat < 32 then "\\u" ++ Text.lowerHex 4 c.toNat
  else c.toString

def quote (text : String) : String :=
  "\"" ++ String.join (text.toList.map escapeChar) ++ "\""

/-! ## Values -/

/-- A new line at a level of nesting. -/
def newLine (level : Nat) : String :=
  "\n" ++ String.ofList (List.replicate (2 * level) ' ')

mutual

/-- A value whose first line is indented already, at a level of nesting. -/
def prettyAt (level : Nat) : Json → String
  | .bool value => if value then "true" else "false"
  | .string value => quote value
  | .array [] => "[]"
  | .array (item :: items) =>
    "[" ++ newLine (level + 1) ++ prettyAt (level + 1) item ++ prettyItems (level + 1) items
      ++ newLine level ++ "]"
  | .object [] => "\x7b\x7d"
  | .object ((key, value) :: members) =>
    "\x7b" ++ newLine (level + 1) ++ quote key ++ ": " ++ prettyAt (level + 1) value
      ++ prettyMembers (level + 1) members ++ newLine level ++ "\x7d"

def prettyItems (level : Nat) : List Json → String
  | [] => ""
  | item :: items => "," ++ newLine level ++ prettyAt level item ++ prettyItems level items

def prettyMembers (level : Nat) : List (String × Json) → String
  | [] => ""
  | (key, value) :: members =>
    "," ++ newLine level ++ quote key ++ ": " ++ prettyAt level value
      ++ prettyMembers level members

end

/-- A value over several lines. -/
def pretty (value : Json) : String :=
  prettyAt 0 value

end Json

end YamlShape
