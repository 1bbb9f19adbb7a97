/-
# YamlShape.Options -- the policy of one run

One `Options` value holds for a whole run, so two ways of typing scalars or of
judging emptiness never mix within one output.
-/
namespace YamlShape

set_option autoImplicit false

/-- How a scalar held by a field is typed: as itself, or behind a pointer. -/
inductive Optionality where
  | value
  | pointer
  deriving DecidableEq

/-- Which values count as empty.  `zeroValues` adds the numeric zero literals to
the canonical ones: the empty string, sequence and mapping. -/
inductive Emptiness where
  | canonical
  | zeroValues
  deriving DecidableEq

/-- The tag key of a run that asks for none. -/
def defaultTagKey : String := "json"

/-- The policy of one run.  An empty tag key turns tags off. -/
structure Options where
  tagKey : String := defaultTagKey
  optionality : Optionality := .value
  emptiness : Emptiness := .canonical
  deriving DecidableEq

end YamlShape
