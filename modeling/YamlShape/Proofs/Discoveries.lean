/-
# YamlShape.Proofs.Discoveries -- types and discoveries go together

An inference gives a type back at once; the mapping that the type refers to it keeps, to
hand it over when it is asked.  In between there may be any number of calls.  What is
handed over has lost sight of the calls, but can be told apart by its order alone:

* `typed_of_filled` and `typed_of_hollow` are about one call.  Its type refers to a record
  exactly when a filled mapping is at the end of the node's chain of first elements, and
  this mapping is then the discovery;
* `types_run` and `discoveries_run` are about all of them: types depend on their own calls
  alone, and discoveries are those of the calls, in order, whenever some were taken.

`types_match_discoveries` says that every type with a reference has one discovery, at its
place in the order, and how the two correspond.
-/
import Mathlib.Data.List.Forall2
import YamlShape.Proofs.References
import YamlShape.Proofs.Skeleton

namespace YamlShape

set_option autoImplicit false

/-! ## Chains of first elements -/

namespace Node

/-- How often one can go on from a value to its first element. -/
def chainLength : Node → Nat
  | .sequence (first :: _) => first.chainLength + 1
  | _ => 0

/-- The value that this ends at. -/
def chainEnd : Node → Node
  | .sequence (first :: _) => first.chainEnd
  | node => node

end Node

namespace TypeExpr

/-- A type behind a number of slices. -/
def sliced : Nat → TypeExpr → TypeExpr
  | 0, type => type
  | depth + 1, type => .slice (sliced depth type)

/-- The name of the record that a type is, or is made of. -/
def referred? : TypeExpr → Option String
  | .scalar _ => none
  | .optional inner => inner.referred?
  | .slice element => element.referred?
  | .recordRef name => some name
  | .genericMap => none
  | .any => none

theorem referred?_eq_some_iff {type : TypeExpr} {name : String} :
    type.referred? = some name ↔ type.RefersTo name := by
  induction type with
  | optional inner ih => exact ih
  | slice element ih => exact ih
  | recordRef referred => exact Option.some_inj
  | scalar _ => simp [referred?, RefersTo]
  | genericMap => simp [referred?, RefersTo]
  | any => simp [referred?, RefersTo]

instance (type : TypeExpr) : Decidable (∃ name, type.RefersTo name) :=
  decidable_of_iff (type.referred?.isSome = true) (by
    simp only [Option.isSome_iff_exists, referred?_eq_some_iff])

theorem refersTo_sliced (depth : Nat) (name : String) :
    (sliced depth (.recordRef name)).RefersTo name := by
  induction depth with
  | zero => rfl
  | succ depth ih => exact ih

end TypeExpr

namespace Inference

/-! ## One call -/

section OneCall

variable {optionality : Optionality} {path : List String} {slot : Slot} {key : String}
  {node : Node}

/-- A chain that ends at a filled mapping: its steps are the slices of the type, and what
they pass through loses its key and its slot. -/
theorem typed_of_filled {entries : Entries} (filled : entries ≠ [])
    (ends : node.chainEnd = .mapping entries) :
    typed optionality path slot key node =
      (.sliced node.chainLength
          (.recordRef (Name.recordNameFor (if node.isMapping then key else ""))),
        some ⟨path ++ [if node.isMapping then key else ""],
          if node.isMapping then slot else .element, entries⟩) := by
  fun_induction typed optionality path slot key node with
  | case3 slot key first rest element found eq ih =>
      have below := ih ends
      simp only [eq, ite_self] at below
      cases below
      rfl
  | case5 slot key entry rest =>
      obtain rfl := Node.mapping.inj ends
      rfl
  | case1 => cases ends
  | case2 => cases ends
  | case4 => exact absurd (Node.mapping.inj ends).symm filled
  | case6 => cases ends

/-- No other chain leads to a discovery or to a reference. -/
theorem typed_of_hollow (hollow : ¬ node.chainEnd.Filled) :
    (typed optionality path slot key node).2 = none ∧
      ∀ name, ¬ (typed optionality path slot key node).1.RefersTo name := by
  fun_induction typed optionality path slot key node with
  | case1 => exact ⟨rfl, Walk.not_refersTo_scalarType _ _ _⟩
  | case3 slot key first rest element found eq ih =>
      have below := ih hollow
      rw [eq] at below
      exact below
  | case5 slot key entry rest =>
      exact absurd ⟨entry :: rest, List.cons_ne_nil _ _, rfl⟩ hollow
  | case2 => exact ⟨rfl, fun _ => id⟩
  | case4 => exact ⟨rfl, fun _ => id⟩
  | case6 => exact ⟨rfl, fun _ => id⟩

theorem chainLength_pos_iff {entries : Entries} (ends : node.chainEnd = .mapping entries) :
    0 < node.chainLength ↔ node.isMapping = false := by
  cases node with
  | mapping => exact ⟨fun positive => absurd positive (Nat.lt_irrefl 0), nofun⟩
  | sequence items =>
      cases items with
      | nil => cases ends
      | cons first rest => exact ⟨fun _ => rfl, fun _ => Nat.succ_pos _⟩
  | scalar => cases ends
  | unknown => cases ends

end OneCall

/-! ## Calls in a row -/

/-- What an inference is called with. -/
structure Call where
  path : List String
  key : String
  node : Node

/-- What an inference is asked for: the type of a value, or what it has discovered. -/
inductive Request where
  | infer (call : Call)
  | take

def Request.call? : Request → Option Call
  | .infer call => some call
  | .take => none

/-- What an inference gives back. -/
inductive Answer where
  | typed (type : TypeExpr)
  | taken (found : List Discovery)

def Answer.type? : Answer → Option TypeExpr
  | .typed type => some type
  | .taken _ => none

def Answer.discoveries : Answer → List Discovery
  | .typed _ => []
  | .taken found => found

def answer (inference : Inference) : Request → Answer × Inference
  | .infer call =>
    let typed := inference.infer call.path call.key call.node
    (.typed typed.1, typed.2)
  | .take =>
    let taken := inference.take
    (.taken taken.1, taken.2)

/-- The answers to requests in a row, and the inference that is left. -/
def run (inference : Inference) : List Request → List Answer × Inference
  | [] => ([], inference)
  | request :: rest =>
    let answered := inference.answer request
    let later := answered.2.run rest
    (answered.1 :: later.1, later.2)

/-- The type of a call. -/
def Call.type (optionality : Optionality) (call : Call) : TypeExpr :=
  (typed optionality call.path .field call.key call.node).1

/-- The mapping that the type of a call refers to. -/
def Call.discovery? (optionality : Optionality) (call : Call) : Option Discovery :=
  (typed optionality call.path .field call.key call.node).2

theorem answer_infer (inference : Inference) (call : Call) :
    inference.answer (.infer call) =
      (.typed (call.type inference.optionality), ⟨inference.optionality,
        inference.discoveries ++ (call.discovery? inference.optionality).toList⟩) := by
  rw [answer, infer_eq]
  rfl

/-- Types depend on their own calls alone. -/
theorem types_run (inference : Inference) (requests : List Request) :
    (inference.run requests).1.filterMap Answer.type? =
      (requests.filterMap Request.call?).map (·.type inference.optionality) := by
  induction requests generalizing inference with
  | nil => rfl
  | cons request rest ih =>
      cases request with
      | infer call =>
          rw [run, answer_infer]
          show call.type inference.optionality :: List.filterMap Answer.type? (run _ rest).1 = _
          rw [ih]
          rfl
      | take => exact ih ⟨inference.optionality, []⟩

/-- **No discovery is lost, whenever some are taken.**  What was taken and what is left make
up what there was before and the discoveries of the calls. -/
theorem discoveries_run (inference : Inference) (requests : List Request) :
    (inference.run requests).1.flatMap Answer.discoveries ++
        (inference.run requests).2.discoveries =
      inference.discoveries ++
        (requests.filterMap Request.call?).filterMap (·.discovery? inference.optionality) := by
  induction requests generalizing inference with
  | nil => exact (List.append_nil _).symm
  | cons request rest ih =>
      cases request with
      | infer call =>
          rw [run, answer_infer]
          refine (ih _).trans ?_
          show inference.discoveries ++ (call.discovery? inference.optionality).toList ++ _ =
            inference.discoveries ++ List.filterMap _ (call :: rest.filterMap Request.call?)
          rw [List.append_assoc, List.filterMap_cons]
          cases call.discovery? inference.optionality <;> rfl
      | take =>
          show inference.discoveries ++ _ ++ _ = _
          rw [List.append_assoc]
          exact congrArg (inference.discoveries ++ ·) (ih ⟨inference.optionality, []⟩)

/-! ## Types and discoveries -/

/-- The last segment of the path of what a call discovers: its key where the node itself
is the mapping, and nothing where the mapping is reached through a sequence. -/
def Call.segment (call : Call) : String :=
  if call.node.isMapping then call.key else ""

/-- A discovery is the one that the type of a call refers to. -/
structure Call.Matches (typed : Call × TypeExpr) (found : Discovery) : Prop where
  filled : found.entries ≠ []
  ends : typed.1.node.chainEnd = .mapping found.entries
  path : found.path = typed.1.path ++ [typed.1.segment]
  slot : found.slot = .element ↔ 0 < typed.1.node.chainLength
  type : typed.2 =
    .sliced typed.1.node.chainLength (.recordRef (Name.recordNameFor typed.1.segment))

theorem Call.refersTo_type_iff (optionality : Optionality) (call : Call) :
    (∃ name, (call.type optionality).RefersTo name) ↔ call.node.chainEnd.Filled := by
  constructor
  · rintro ⟨name, refers⟩
    by_contra hollow
    exact (typed_of_hollow hollow).2 name refers
  · rintro ⟨entries, filled, ends⟩
    rw [Call.type, typed_of_filled filled ends]
    exact ⟨_, TypeExpr.refersTo_sliced _ _⟩

/-- What a call discovers matches its type. -/
theorem Call.exists_discovery (optionality : Optionality) {call : Call}
    (filled : call.node.chainEnd.Filled) :
    ∃ found, call.discovery? optionality = some found ∧
      Call.Matches (call, call.type optionality) found := by
  obtain ⟨entries, filled, ends⟩ := filled
  have typed_eq : typed optionality call.path .field call.key call.node = _ :=
    typed_of_filled filled ends
  refine ⟨_, congrArg Prod.snd typed_eq, filled, ends, rfl, ?_, congrArg Prod.fst typed_eq⟩
  rw [chainLength_pos_iff ends]
  cases call.node.isMapping <;> simp

theorem forall₂_matches (optionality : Optionality) (calls : List Call) :
    List.Forall₂ Call.Matches
      ((calls.zip (calls.map (·.type optionality))).filter
        fun typed => ∃ name, typed.2.RefersTo name)
      (calls.filterMap (·.discovery? optionality)) := by
  induction calls with
  | nil => exact .nil
  | cons call rest ih =>
      rw [List.map_cons, List.zip_cons_cons, List.filter_cons, List.filterMap_cons]
      by_cases filled : call.node.chainEnd.Filled
      · obtain ⟨found, discovered, matching⟩ := call.exists_discovery optionality filled
        rw [if_pos (decide_eq_true ((call.refersTo_type_iff optionality).2 filled)), discovered]
        exact .cons matching ih
      · have plain := mt (call.refersTo_type_iff optionality).1 filled
        have nothing : call.discovery? optionality = none := (typed_of_hollow filled).1
        rw [if_neg (by simpa using plain), nothing]
        exact ih

/-- **Types and discoveries correspond one to one.**  Ask an inference for types and for
its discoveries in any order.  Each type is the one that a fresh inference gives.  What was
handed over and what is left, put together, begins with what there was before; then comes,
in the order of the calls, one discovery for each type that refers to a record and none for
the others.  A type refers to a record exactly when the chain of first elements ends at a
filled mapping.  The discovery has this mapping's entries, and the path of the call with
one more segment; the type is the record named after that segment behind one slice for each
step of the chain, and the discovery is an element's exactly when there are any. -/
theorem types_match_discoveries (inference : Inference) (requests : List Request) :
    let calls := requests.filterMap Request.call?
    let types := (inference.run requests).1.filterMap Answer.type?
    let handedOver := (inference.run requests).1.flatMap Answer.discoveries
    types = calls.map (fun call =>
      (infer { optionality := inference.optionality } call.path call.key call.node).1) ∧
    List.Forall₂ (fun call type => (∃ name, TypeExpr.RefersTo name type) ↔
      call.node.chainEnd.Filled) calls types ∧
    ∃ reported, handedOver ++ (inference.run requests).2.discoveries =
        inference.discoveries ++ reported ∧
      List.Forall₂ Call.Matches
        ((calls.zip types).filter fun typed => ∃ name, typed.2.RefersTo name) reported := by
  intro calls types handedOver
  have types_eq : types = calls.map (·.type inference.optionality) :=
    types_run inference requests
  refine ⟨?_, ?_, _, discoveries_run inference requests, ?_⟩
  · rw [types_eq]
    apply List.map_congr_left
    intro call _
    rw [infer_eq]
    rfl
  · rw [types_eq, List.forall₂_map_right_iff, List.forall₂_same]
    intro call _
    exact call.refersTo_type_iff inference.optionality
  · rw [types_eq]
    exact forall₂_matches inference.optionality calls

/-- Only the first of two users is discovered, and taken before the next call. -/
example :
    let first : Entries := [("name", .scalar .string "a")]
    let users : Node := .sequence [.mapping first, .mapping [("extra", .null)]]
    (run { optionality := .value } [.infer ⟨["spec"], "users", users⟩, .take,
      .infer ⟨["spec"], "none", .mapping []⟩]).1 =
        [.typed (.slice (.recordRef "NestedStruct")), .taken [⟨["spec", ""], .element, first⟩],
          .typed .genericMap] := rfl

end Inference

end YamlShape
