/-
# YamlShape.Command.Listing -- a request written out

A listing shows what a command line was read as.  Every part stands on a line of
its own, four spaces further in than what it is part of, with a comma behind it.
-/
import YamlShape.Command.Request
import YamlShape.Text.Quoted

namespace YamlShape.Command

set_option autoImplicit false

inductive Listing where
  | word (text : String)
  | quoted (text : String)
  | list (items : List Listing)
  | wrapped (name : String) (inner : Listing)
  | record (name : String) (fields : List (String × Listing))

namespace Listing

/-- The space in front of a line. -/
def indent (level : Nat) : String :=
  String.ofList (List.replicate (4 * level) ' ')

mutual

/-- A part whose first line is indented already, at a level of nesting. -/
def textAt (level : Nat) : Listing → String
  | .word text => text
  | .quoted text => Text.quoted text
  | .list [] => "[]"
  | .list (item :: items) =>
    "[\n" ++ itemLines (level + 1) (item :: items) ++ indent level ++ "]"
  | .wrapped name inner =>
    name ++ "(\n" ++ indent (level + 1) ++ textAt (level + 1) inner ++ ",\n" ++ indent level ++ ")"
  | .record name fields =>
    name ++ " \x7b\n" ++ fieldLines (level + 1) fields ++ indent level ++ "\x7d"

def itemLines (level : Nat) : List Listing → String
  | [] => ""
  | item :: items => indent level ++ textAt level item ++ ",\n" ++ itemLines level items

def fieldLines (level : Nat) : List (String × Listing) → String
  | [] => ""
  | (name, value) :: fields =>
    indent level ++ name ++ ": " ++ textAt level value ++ ",\n" ++ fieldLines level fields

end

def ofBool (value : Bool) : Listing :=
  .word (if value then "true" else "false")

def ofText? : Option String → Listing
  | none => .word "None"
  | some text => .wrapped "Some" (.quoted text)

/-- The names of a product and of its settings. -/
def productNames : Product → String × String
  | .goSource => ("Go", "GoOut")
  | .schema => ("Schema", "SchemaOut")

/-- The listing of a request. -/
def ofRequest (request : Request) : Listing :=
  let (product, settings) := productNames request.product
  .record "CommandLineInterface" [("cmd", .wrapped product (.record settings [
    ("input_settings", .record "InputSettings" [
      ("input", .list (request.inputs.map .quoted))]),
    ("inference", .record "InferenceSettings" [
      ("tag_prefix", .quoted request.tagKey),
      ("pointers", ofBool request.pointers),
      ("omit_zero", ofBool request.omitZero)]),
    ("out", ofText? request.out),
    ("no_op", ofBool request.noOp)]))]

end Listing

/-- A request written out, with a new line at its end. -/
def Request.listing (request : Request) : String :=
  (Listing.ofRequest request).textAt 0 ++ "\n"

end YamlShape.Command
