/-
# YamlShape.Command.Help -- what is written when no run is asked for

Help on the program and its subcommands, the version, and what is wrong with a
command line.  Every text ends with one new line.
-/
import YamlShape.Command.Request

namespace YamlShape.Command

set_option autoImplicit false

def programName : String := "yaml-osi"

/-! ## Help -/

def Product.about : Product → String
  | .goSource => "infer and emit Go struct definitions"
  | .schema => "infer and print the inferred records as JSON"

/-- The usual extension of a file with the product. -/
def Product.extension : Product → String
  | .goSource => "go"
  | .schema => "json"

def programHelp : String :=
  "infer record types from YAML and output either Go struct definitions or a JSON debug view\n"
    ++ "\nUsage: " ++ programName ++ " <COMMAND>\n"
    ++ "\nCommands:\n"
    ++ "  go      " ++ Product.goSource.about ++ "\n"
    ++ "  schema  " ++ Product.schema.about ++ "\n"
    ++ "  help    Print this message or the help of the given subcommand(s)\n"
    ++ "\nOptions:\n"
    ++ "  -h, --help     Print help\n"
    ++ "  -V, --version  Print version\n"

def productHelp (product : Product) : String :=
  product.about ++ "\n"
    ++ "\nUsage: " ++ programName ++ " " ++ product.name ++ " [OPTIONS] --input <INPUT>...\n"
    ++ "\nOptions:\n"
    ++ "  -i, --input <INPUT>...         One or more inputs. May be literal paths or quoted glob"
    ++ " patterns. Every file is inferred on its own; documents inside one file share names\n"
    ++ "      --tag-prefix <TAG_PREFIX>  struct tag key (json, yaml, ...); empty string disables"
    ++ " tags [default: " ++ defaultTagKey ++ "]\n"
    ++ "      --pointers                 type scalar fields as pointers (`*string`); slice"
    ++ " elements stay bare\n"
    ++ "      --omit-zero                also treat numeric zero literals (0, 0.0) as empty for"
    ++ " omitempty\n"
    ++ "  -o, --out <OUT>                output ." ++ product.extension
    ++ " file (stdout if omitted)\n"
    ++ "      --no-op                    debugging\n"
    ++ "  -h, --help                     Print help\n"

def helpHelp : String :=
  "Print this message or the help of the given subcommand(s)\n"
    ++ "\nUsage: " ++ programName ++ " help [COMMAND]...\n"
    ++ "\nArguments:\n"
    ++ "  [COMMAND]...  Print help for the subcommand(s)\n"

def HelpTopic.text : HelpTopic → String
  | .program => programHelp
  | .product named => productHelp named
  | .help => helpHelp

def versionText : String := programName ++ " 0.1.0\n"

/-! ## Faults -/

/-- A setting as it is named where its value is missing. -/
def Setting.withValue : Setting → String
  | .input => "--input <INPUT>..."
  | .tagKey => "--tag-prefix <TAG_PREFIX>"
  | .out => "--out <OUT>"

def UsageFault.text : UsageFault → String
  | .missingInput =>
    "the following required arguments were not provided:\n  " ++ Setting.input.withValue
  | .missingValue setting =>
    "a value is required for '" ++ setting.withValue ++ "' but none was supplied"
  | .repeated option => "the argument '" ++ option ++ "' cannot be used multiple times"
  | .unknownArgument argument => "unexpected argument '" ++ argument ++ "' found"
  | .unexpectedValue option value =>
    "unexpected value '" ++ value ++ "' for '" ++ option ++ "' found; no more were expected"
  | .unknownCommand name => "unrecognized subcommand '" ++ name ++ "'"

def usage : Option Product → String
  | none => programName ++ " <COMMAND>"
  | some product => programName ++ " " ++ product.name ++ " " ++ Setting.input.withValue

/-- What is wrong with a command line, and how to go on. -/
def UsageFault.message (product : Option Product) (fault : UsageFault) : String :=
  "error: " ++ fault.text ++ "\n\nUsage: " ++ usage product
    ++ "\n\nFor more information, try '--help'.\n"

/-- What is written instead of a run. -/
def Stop.text : Stop → String
  | .help topic => topic.text
  | .version => versionText
  | .nothingAsked => programHelp
  | .misuse product fault => fault.message product

/-- Whether a stop is what was asked for. -/
def Stop.isAsked : Stop → Bool
  | .help _ | .version => true
  | .nothingAsked | .misuse _ _ => false

end YamlShape.Command
