/-
# YamlShape.Command.Request -- what a command line asks for

A command line names what to write and holds settings and switches.  A setting
takes values: those attached to it, or else the plain arguments behind it, one or,
for the inputs, as many as there are.  A switch takes none.

What stands behind a setting is judged when the next one begins, or at the end;
an argument that is not known is refused at once.
-/
import YamlShape.Options

namespace YamlShape.Command

set_option autoImplicit false

/-! ## Requests -/

/-- What a run writes. -/
inductive Product where
  | goSource
  | schema
  deriving DecidableEq

def Product.name : Product → String
  | .goSource => "go"
  | .schema => "schema"

def Product.ofName? (name : String) : Option Product :=
  [.goSource, .schema].find? fun product => product.name = name

/-- What an accepted command line asks for. -/
structure Request where
  product : Product
  inputs : List String
  tagKey : String := defaultTagKey
  pointers : Bool := false
  omitZero : Bool := false
  out : Option String := none
  noOp : Bool := false
  deriving DecidableEq

def Request.options (request : Request) : Options where
  tagKey := request.tagKey
  optionality := if request.pointers then .pointer else .value
  emptiness := if request.omitZero then .zeroValues else .canonical

/-! ## Other ends of reading -/

/-- An option that takes values. -/
inductive Setting where
  | input
  | tagKey
  | out
  deriving DecidableEq

/-- An option that takes none. -/
inductive Switch where
  | pointers
  | omitZero
  | noOp
  deriving DecidableEq

inductive HelpTopic where
  | program
  | product (product : Product)
  | help
  deriving DecidableEq

inductive UsageFault where
  | missingInput
  | missingValue (setting : Setting)
  | repeated (option : String)
  | unknownArgument (argument : String)
  | unexpectedValue (option value : String)
  | unknownCommand (name : String)
  deriving DecidableEq

/-- Why a command line asks for no run.  A fault stands in the arguments of a
product, or before one is named. -/
inductive Stop where
  | help (topic : HelpTopic)
  | version
  | nothingAsked
  | misuse (product : Option Product) (fault : UsageFault)
  deriving DecidableEq

def Setting.option : Setting → String
  | .input => "--input"
  | .tagKey => "--tag-prefix"
  | .out => "--out"

def Setting.ofOption? (option : String) : Option Setting :=
  [.input, .tagKey, .out].find? fun setting => setting.option = option

def Switch.option : Switch → String
  | .pointers => "--pointers"
  | .omitZero => "--omit-zero"
  | .noOp => "--no-op"

def Switch.ofOption? (option : String) : Option Switch :=
  [.pointers, .omitZero, .noOp].find? fun switch => switch.option = option

/-! ## Arguments -/

/-- An argument by its form.  A value can be attached to an option. -/
inductive Argument where
  | plain (text : String)
  | endOfOptions
  | setting (setting : Setting) (value : Option String)
  | switch (switch : Switch) (value : Option String)
  | help (value : Option String)
  | version (value : Option String)
  | unknown (text : String)
  deriving DecidableEq

namespace Argument

/-- The characters before the first equals sign, and those behind it. -/
def splitValue (text : List Char) : List Char × Option String :=
  match text.dropWhile (· ≠ '=') with
  | [] => (text, none)
  | _ :: value => (text.takeWhile (· ≠ '='), some (String.ofList value))

/-- The value attached to a short option; an equals sign may stand before it. -/
def shortValue? : List Char → Option String
  | [] => none
  | '=' :: value => some (String.ofList value)
  | value => some (String.ofList value)

/-- The form of an argument that asks for a product. -/
def read (text : String) : Argument :=
  match text.toList with
  | ['-', '-'] => .endOfOptions
  | '-' :: '-' :: long =>
    let (name, value) := splitValue long
    let option := "--" ++ String.ofList name
    match Setting.ofOption? option, Switch.ofOption? option with
    | some known, _ => .setting known value
    | none, some known => .switch known value
    | none, none => if option = "--help" then .help value else .unknown text
  | '-' :: 'i' :: value => .setting .input (shortValue? value)
  | '-' :: 'o' :: value => .setting .out (shortValue? value)
  | '-' :: 'h' :: _ => .help none
  | '-' :: _ :: _ => .unknown text
  | _ => .plain text

/-- The form of an argument before a product is named. -/
def readFirst (text : String) : Argument :=
  match text.toList with
  | ['-', '-'] => .endOfOptions
  | '-' :: '-' :: long =>
    let (name, value) := splitValue long
    if name = "help".toList then .help value
    else if name = "version".toList then .version value
    else .unknown text
  | '-' :: 'h' :: _ => .help none
  | '-' :: 'V' :: _ => .version none
  | '-' :: _ :: _ => .unknown text
  | _ => .plain text

end Argument

/-! ## Reading the arguments of a product -/

/-- What the arguments so far have set, and the setting whose values are still
being read. -/
structure Draft where
  inputs : List String := []
  tagKey : Option String := none
  out : Option String := none
  switches : List Switch := []
  reading : Option (Setting × List String) := none

namespace Draft

def set (draft : Draft) : Setting → List String → Except UsageFault Draft
  | setting, [] => .error (.missingValue setting)
  | .input, values => .ok { draft with inputs := draft.inputs ++ values }
  | .tagKey, value :: _ =>
    if draft.tagKey.isSome then .error (.repeated Setting.tagKey.option)
    else .ok { draft with tagKey := some value }
  | .out, value :: _ =>
    if draft.out.isSome then .error (.repeated Setting.out.option)
    else if value.isEmpty then .error (.missingValue .out)
    else .ok { draft with out := some value }

/-- Ends the reading of values. -/
def settle (draft : Draft) : Except UsageFault Draft :=
  match draft.reading with
  | none => .ok draft
  | some (setting, values) => { draft with reading := none }.set setting values

/-- Takes a plain argument as a value. -/
def takeValue (draft : Draft) (text : String) : Except UsageFault Draft :=
  match draft.reading with
  | some (.input, values) => .ok { draft with reading := some (.input, values ++ [text]) }
  | some (setting, []) => .ok { draft with reading := some (setting, [text]) }
  | _ => .error (.unknownArgument text)

def turnOn (draft : Draft) (switch : Switch) : Except UsageFault Draft :=
  if switch ∈ draft.switches then .error (.repeated switch.option)
  else .ok { draft with switches := draft.switches ++ [switch] }

def finish (draft : Draft) (product : Product) : Except UsageFault Request := do
  let draft ← draft.settle
  if draft.inputs.isEmpty then .error .missingInput
  else
    return {
      product
      inputs := draft.inputs
      tagKey := draft.tagKey.getD defaultTagKey
      pointers := .pointers ∈ draft.switches
      omitZero := .omitZero ∈ draft.switches
      out := draft.out
      noOp := .noOp ∈ draft.switches }

end Draft

def readArguments (product : Product) (draft : Draft) : List String → Except Stop Request
  | [] => (draft.finish product).mapError (.misuse product)
  | text :: rest =>
    let refused (fault : UsageFault) : Except Stop Request := .error (.misuse product fault)
    let goOn (next : Except UsageFault Draft) : Except Stop Request :=
      match next with
      | .ok draft => readArguments product draft rest
      | .error fault => refused fault
    match Argument.read text with
    | .plain value => goOn (draft.takeValue value)
    | .setting setting none => goOn do
      return { (← draft.settle) with reading := some (setting, []) }
    | .setting setting (some value) => goOn do (← draft.settle).set setting [value]
    | .switch switch none => goOn do (← draft.settle).turnOn switch
    | .switch switch (some value) => refused (.unexpectedValue switch.option value)
    | .help none =>
      match draft.settle with
      | .ok _ => .error (.help (.product product))
      | .error fault => refused fault
    | .help (some value) => refused (.unexpectedValue "--help" value)
    | .version _ | .unknown _ => refused (.unknownArgument text)
    | .endOfOptions =>
      match rest with
      | [] => (draft.finish product).mapError (.misuse product)
      | stray :: _ => refused (.unknownArgument stray)

/-! ## Reading a command line -/

def readHelp : List String → Stop
  | [] => .help .program
  | name :: rest =>
    let topic? :=
      if name = "help" then some .help else (Product.ofName? name).map HelpTopic.product
    match topic?, rest with
    | none, _ => .misuse none (.unknownCommand name)
    | some topic, [] => .help topic
    | some _, stray :: _ => .misuse none (.unknownCommand stray)

def isCommand (text : String) : Bool :=
  text = "help" || (Product.ofName? text).isSome

def Request.read : List String → Except Stop Request
  | [] => .error .nothingAsked
  | text :: rest =>
    match Argument.readFirst text with
    | .help none => .error (.help .program)
    | .help (some value) => .error (.misuse none (.unexpectedValue "--help" value))
    | .version none => .error .version
    | .version (some value) => .error (.misuse none (.unexpectedValue "--version" value))
    | .endOfOptions =>
      match rest with
      | [] => .error .nothingAsked
      | stray :: _ =>
        if isCommand stray then .error (.misuse none (.unknownArgument stray))
        else .error (.misuse none (.unknownCommand stray))
    | .plain _ =>
      if text = "help" then .error (readHelp rest)
      else
        match Product.ofName? text with
        | some product => readArguments product {} rest
        | none => .error (.misuse none (.unknownCommand text))
    | _ => .error (.misuse none (.unknownArgument text))

end YamlShape.Command
