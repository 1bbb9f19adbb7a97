/-
# YamlShape.Files.Pattern -- patterns for names

In a pattern `*` stands for any characters, `?` for one, and a class in square
brackets for one of its characters, or, behind an exclamation mark, for one of
all others.  Two stars stand for any directories and have to be a segment of
their own.
-/

namespace YamlShape.Files

set_option autoImplicit false

/-! ## Patterns -/

/-- The characters from one to another; a single character is a range too. -/
structure CharRange where
  first : Char
  last : Char
  deriving DecidableEq

inductive PatternPart where
  | char (c : Char)
  | anyChar
  | anyText
  | anyDirectories
  | oneOf (ranges : List CharRange)
  | noneOf (ranges : List CharRange)
  deriving DecidableEq

abbrev Pattern := List PatternPart

inductive PatternFault where
  | tooManyStars
  | directoriesNotAlone
  | badClass
  deriving DecidableEq

/-- A fault, and the number of characters before it. -/
structure PatternError where
  fault : PatternFault
  position : Nat
  deriving DecidableEq

def PatternFault.text : PatternFault → String
  | .tooManyStars => "wildcards are either regular `*` or recursive `**`"
  | .directoriesNotAlone => "recursive wildcards must form a single path component"
  | .badClass => "invalid range pattern"

def PatternError.message (error : PatternError) : String :=
  "Pattern syntax error near position " ++ toString error.position ++ ": " ++ error.fault.text

namespace Pattern

/-! ## Reading -/

/-- The ranges of a class. -/
def ranges : List Char → List CharRange
  | first :: '-' :: last :: rest => ⟨first, last⟩ :: ranges rest
  | c :: rest => ⟨c, c⟩ :: ranges rest
  | [] => []

/-- A class of some characters, up to the first closing bracket, and the rest
behind that bracket. -/
def closed? (part : List CharRange → PatternPart) (first : Char) (rest : List Char) :
    Option (PatternPart × List Char) :=
  match rest.dropWhile (· ≠ ']') with
  | [] => none
  | _ :: behind => some (part (ranges (first :: rest.takeWhile (· ≠ ']'))), behind)

/-- The class behind an opening bracket, and the rest behind its closing bracket.
A class has at least one character, so a bracket right at its start belongs to
it. -/
def class? : List Char → Option (PatternPart × List Char)
  | '!' :: first :: rest => closed? .noneOf first rest
  | '!' :: [] => none
  | first :: rest => closed? .oneOf first rest
  | [] => none

theorem length_of_closed? {part : List CharRange → PatternPart} {first : Char}
    {rest behind : List Char} {found : PatternPart}
    (closed : closed? part first rest = some (found, behind)) : behind.length < rest.length := by
  have shrinks := (List.dropWhile_suffix (l := rest) (· ≠ ']')).length_le
  unfold closed? at closed
  split at closed
  · simp at closed
  · next opened =>
    simp only [Option.some.injEq, Prod.mk.injEq] at closed
    rw [opened, closed.2, List.length_cons] at shrinks
    omega

theorem length_of_class? {text behind : List Char} {found : PatternPart}
    (closed : class? text = some (found, behind)) : behind.length < text.length := by
  unfold class? at closed
  split at closed
  · have := length_of_closed? closed
    simp only [List.length_cons]
    omega
  · simp at closed
  · have := length_of_closed? closed
    simp only [List.length_cons]
    omega
  · simp at closed

/-- Reads a pattern; `before` is the character in front of what is left, and
`position` the number of characters before it. -/
def readFrom (before : Option Char) (position : Nat) (text : List Char) :
    Except PatternError Pattern :=
  match text with
  | [] => .ok []
  | '?' :: rest => do return .anyChar :: (← readFrom (some '?') (position + 1) rest)
  | '*' :: '*' :: '*' :: _ => .error { fault := .tooManyStars, position := position + 2 }
  | '*' :: '*' :: rest =>
    if !before.all (· = '/') then
      .error { fault := .directoriesNotAlone, position := position - 1 }
    else match rest with
      | [] => .ok [.anyDirectories]
      | '/' :: rest => do
        return .anyDirectories :: (← readFrom (some '/') (position + 3) rest)
      | _ => .error { fault := .directoriesNotAlone, position := position + 2 }
  | '*' :: rest => do return .anyText :: (← readFrom (some '*') (position + 1) rest)
  | '[' :: rest =>
    match closed : class? rest with
    | none => .error { fault := .badClass, position }
    | some (part, behind) =>
      have _shorter := length_of_class? closed
      do
        let taken := rest.length - behind.length + 1
        return part :: (← readFrom (some ']') (position + taken) behind)
  | c :: rest => do return .char c :: (← readFrom (some c) (position + 1) rest)
termination_by text.length
decreasing_by
  all_goals simp only [List.length_cons]
  all_goals omega

def read (text : String) : Except PatternError Pattern :=
  readFrom none 0 text.toList

/-- The text of a pattern that stands for itself only. -/
def literal? (pattern : Pattern) : Option String :=
  let chars := pattern.filterMap fun part =>
    match part with
    | .char c => some c
    | _ => none
  if chars.length = pattern.length then some (String.ofList chars) else none

/-! ## Fitting names -/

def inRanges (ranges : List CharRange) (c : Char) : Bool :=
  ranges.any fun range => range.first ≤ c && c ≤ range.last

/-- Whether a pattern stands for a name.  Stars stand for any front of it. -/
def fits : Pattern → List Char → Bool
  | [], name => name.isEmpty
  | .anyText :: rest, name =>
    (List.range (name.length + 1)).any fun taken => fits rest (name.drop taken)
  | .anyDirectories :: rest, name =>
    (List.range (name.length + 1)).any fun taken => fits rest (name.drop taken)
  | .char d :: rest, c :: name => c = d && fits rest name
  | .anyChar :: rest, _ :: name => fits rest name
  | .oneOf ranges :: rest, c :: name => inRanges ranges c && fits rest name
  | .noneOf ranges :: rest, c :: name => !inRanges ranges c && fits rest name
  | _ :: _, [] => false

end Pattern

end YamlShape.Files
