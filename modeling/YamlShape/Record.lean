/-
# YamlShape.Record -- record types

What inference yields: a record has fields in the order of its mapping's
entries, and a field has a type expression.  No value of the document is left
here, only the key it sat under and whether it was empty.
-/
namespace YamlShape

set_option autoImplicit false

/-- The type of a field.  `any` stands for null and for values only known by a
tag, `genericMap` for an empty mapping. -/
inductive TypeExpr where
  | scalar (name : String)
  | optional (inner : TypeExpr)
  | slice (element : TypeExpr)
  | recordRef (name : String)
  | genericMap
  | any
  deriving DecidableEq

/-- A field: the key as it stands in the document, its type, whether its value
was empty, and further flags of its tag. -/
structure Field where
  sourceKey : String
  type : TypeExpr
  omitEmpty : Bool
  flags : List String := []
  deriving DecidableEq

/-- A record type. -/
structure Record where
  name : String
  fields : List Field
  deriving DecidableEq

end YamlShape
