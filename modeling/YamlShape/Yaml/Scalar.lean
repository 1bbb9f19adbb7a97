/-
# YamlShape.Yaml.Scalar -- what a scalar stands for

A plain scalar without a tag is null, a truth value, an integer, a number or a
string, in this order.  Integers are decimal, or hexadecimal, octal or binary
behind `0x`, `0o` or `0b`; a decimal that starts with a zero and goes on with
digits only is a string.  Integers have 64 bits; one that needs more, up to 128,
is refused, and what is longer still is read as a number or a string.

A tag of the core types asks for one of these readings, quoted or not.
-/
import YamlShape.Decimal.Literal
import YamlShape.Text.Hex
import YamlShape.Text.Quoted
import YamlShape.Yaml.Value

namespace YamlShape.Yaml

set_option autoImplicit false

open Decimal (Binary64)

/-! ## Faults -/

/-- The readings that a tag can ask for. -/
inductive CoreType where
  | bool
  | int
  | float
  | null
  deriving DecidableEq

/-- Why a value cannot be had. -/
inductive Fault where
  | wideInteger (value : Int)
  | notOfType (text : String) (type : CoreType)
  | duplicateKey (key : Value)

def CoreType.text : CoreType → String
  | .bool => "a boolean"
  | .int => "an integer"
  | .float => "a float"
  | .null => "null"

def Value.keyText : Value → String
  | .null => "with null key"
  | .bool value => "with key `" ++ (if value then "true" else "false") ++ "`"
  | .integer value => "with key " ++ toString value
  | .float value => "with key " ++ value.text
  | .string text => "with key " ++ Text.quoted text
  | .sequence _ | .mapping _ | .tagged _ _ => "in YAML map"

def Fault.message : Fault → String
  | .wideInteger value =>
    "invalid type: integer `" ++ toString value ++ "` as "
      ++ (if value < 0 then "i128" else "u128") ++ ", expected any YAML value"
  | .notOfType text type =>
    "invalid value: string " ++ Text.quoted text ++ ", expected " ++ type.text
  | .duplicateKey key => "duplicate entry " ++ key.keyText

/-! ## Readings -/

namespace Scalar

def null? (text : String) : Option Value :=
  if text ∈ ["null", "Null", "NULL", "~"] then some .null else none

def bool? (text : String) : Option Value :=
  if text ∈ ["true", "True", "TRUE"] then some (.bool true)
  else if text ∈ ["false", "False", "FALSE"] then some (.bool false)
  else none

def digitBelow? (base : Nat) (c : Char) : Option Nat :=
  (Text.hexValue? c).filter (· < base)

/-- The natural number that digits of a base stand for; there has to be one. -/
def natural? (base : Nat) (digits : List Char) : Option Nat :=
  if digits.isEmpty then none
  else digits.foldlM (fun value c => (digitBelow? base c).map (base * value + ·)) 0

/-- Whether a text is a sign or none, a zero, and further decimal digits only. -/
def hasLeadingZero (text : List Char) : Bool :=
  match (Decimal.splitSign text).2 with
  | '0' :: c :: rest => (c :: rest).all Char.isDigit
  | _ => false

def magnitude? (text : List Char) : Option Nat :=
  match text with
  | '0' :: 'x' :: digits => natural? 16 digits
  | '0' :: 'o' :: digits => natural? 8 digits
  | '0' :: 'b' :: digits => natural? 2 digits
  | digits => if hasLeadingZero digits then none else natural? 10 digits

/-- The integer of a text, whatever its size. -/
def integer? (text : List Char) : Option Int :=
  match text with
  | '-' :: rest => (magnitude? rest).map fun value => -(value : Int)
  | '+' :: rest => (magnitude? rest).map fun value => (value : Int)
  | rest => (magnitude? rest).map fun value => (value : Int)

/-- The integer of a text, or the fault that it needs more than 64 bits.  An
integer beyond 128 bits is none. -/
def int? (text : String) : Option (Except Fault Value) :=
  match integer? text.toList with
  | none => none
  | some value =>
    if -(1 <<< 63) ≤ value ∧ value < 1 <<< 64 then some (.ok (.integer value))
    else if -(1 <<< 127) ≤ value ∧ value < 1 <<< 128 then some (.error (.wideInteger value))
    else none

/-- The finite number of a decimal, or one of the words for infinity and for what
is no number. -/
def float? (text : String) : Option Value :=
  let unsigned := if text.startsWith "+" then (text.drop 1).toString else text
  if unsigned ∈ [".inf", ".Inf", ".INF"] then some (.float (.infinity false))
  else if text ∈ ["-.inf", "-.Inf", "-.INF"] then some (.float (.infinity true))
  else if text ∈ [".nan", ".NaN", ".NAN"] then some (.float .nan)
  else ((Decimal.literal? text.toList).bind Decimal.ofDecimal?).map .float

def plain (text : String) : Except Fault Value :=
  if text.isEmpty then .ok .null
  else match null? text, bool? text, int? text with
    | some value, _, _ | none, some value, _ => .ok value
    | none, none, some result => result
    | none, none, none =>
      match if hasLeadingZero text.toList then none else float? text with
      | some value => .ok value
      | none => .ok (.string text)

def ofType (type : CoreType) (text : String) : Except Fault Value :=
  let result := match type with
    | .bool => (bool? text).map Except.ok
    | .int => int? text
    | .float => (float? text).map Except.ok
    | .null => (null? text).map Except.ok
  result.getD (.error (.notOfType text type))

end Scalar

end YamlShape.Yaml
