/-
# YamlShape.Name -- identifiers from keys

A key such as `snake_case` or `kebab-case` becomes an identifier: the runs
between the separators `_` and `-` are joined, each with its first character in
upper case and the rest unchanged.  Empty runs vanish.

`normalize` is the identifier, `recordNameFor` the record name, which falls back
to `nestedFallback` when nothing of the key survives.

* `pascal_append_separator`: a separator splits a key into two independent
  halves.
* `pascal_run`: within a run nothing changes after its first character.
-/
import YamlShape.Text.UpperCase

namespace YamlShape.Name

set_option autoImplicit false

open Text (upperCase)

/-! ## Runs of a key -/

/-- The characters that separate the runs of a key. -/
def isSeparator (c : Char) : Bool :=
  c = '_' || c = '-'

/-- The characters of the identifier; `opening` says that the next character is
the first of its run. -/
def pascal (opening : Bool) : List Char → List Char
  | [] => []
  | c :: rest =>
    if isSeparator c then pascal true rest
    else if opening then upperCase c ++ pascal false rest
    else c :: pascal false rest

theorem pascal_append_separator (opening : Bool) (left right : List Char) {c : Char}
    (separator : isSeparator c = true) :
    pascal opening (left ++ c :: right) = pascal opening left ++ pascal true right := by
  induction left generalizing opening with
  | nil => simp [pascal, separator]
  | cons d left ih => by_cases h : isSeparator d <;> cases opening <;> simp [pascal, h, ih]

theorem pascal_run {run : List Char} (plain : ∀ c ∈ run, isSeparator c = false) :
    pascal false run = run := by
  induction run with
  | nil => rfl
  | cons c run ih =>
    have ⟨first, others⟩ := List.forall_mem_cons.1 plain
    simp [pascal, first, ih others]

/-! ## Names -/

/-- The identifier of a key. -/
def normalize (key : String) : String :=
  String.ofList (pascal true key.toList)

/-- The record name of a key that leaves no identifier, and of a mapping that is
an element of a sequence. -/
def nestedFallback : String := "NestedStruct"

/-- The name of the record that a mapping under this key becomes. -/
def recordNameFor (key : String) : String :=
  let name := normalize key
  if name.isEmpty then nestedFallback else name

end YamlShape.Name
