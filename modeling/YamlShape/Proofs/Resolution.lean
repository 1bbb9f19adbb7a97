/-
# YamlShape.Proofs.Resolution -- inputs are resolved independently

The paths of all inputs are gathered in one list, and whether a pattern has matched is
told by the length of that list before and after it; a failure may come in the middle of
a pattern, when some of its paths are in the list already.  Nothing of this shows:

* `Expansion.Yields` says what one input comes to, without any other;
* `addInput_of_yields` is the step: an input puts what it comes to behind the paths found
  before, whatever these are, or fails as it fails by itself;
* `foldlM_addInput` is the run: so do several inputs in a row.

`inputs_resolved_one_by_one` draws the conclusions, which `OneByOne` lists: inputs in a row
come to the paths of each of them, one after the other, or to the failure of the first that
fails by itself.
-/
import Mathlib.Data.List.Forall2
import YamlShape.Command.Run
import YamlShape.Proofs.Steps

namespace YamlShape.Command

set_option autoImplicit false

namespace Expansion

variable {ε : Type} {expansion : Expansion ε}

/-! ## One pattern -/

/-- Entries of a pattern are paths throughout, or up to a first failure. -/
theorem entries_cases (entries : List (Except ε String)) :
    (∃ paths : List String, entries = paths.map .ok) ∨
      ∃ (paths : List String) (error : ε) (rest : List (Except ε String)),
        entries = paths.map .ok ++ .error error :: rest := by
  induction entries with
  | nil => exact .inl ⟨[], rfl⟩
  | cons entry entries ih =>
      cases entry with
      | error error => exact .inr ⟨[], error, entries, rfl⟩
      | ok path =>
          rcases ih with ⟨paths, rfl⟩ | ⟨paths, error, rest, rfl⟩
          · exact .inl ⟨path :: paths, rfl⟩
          · exact .inr ⟨path :: paths, error, rest, rfl⟩

theorem foldlM_addEntry_paths (found paths : List String) :
    (paths.map .ok : List (Except ε String)).foldlM addEntry found = .ok (found ++ paths) := by
  induction paths generalizing found with
  | nil =>
      rw [List.append_nil]
      rfl
  | cons path paths ih =>
      rw [List.map_cons, List.foldlM_cons]
      show (paths.map .ok : List (Except ε String)).foldlM addEntry (found ++ [path]) = _
      rw [ih, List.append_assoc]
      rfl

theorem foldlM_addEntry_failure (found paths : List String) (error : ε)
    (rest : List (Except ε String)) :
    (paths.map .ok ++ .error error :: rest : List (Except ε String)).foldlM addEntry found =
      .error (.unlisted error) := by
  rw [List.foldlM_append, foldlM_addEntry_paths]
  rfl

/-! ## One input -/

/-- What an input comes to by itself. -/
inductive Yields (expansion : Expansion ε) (input : String) :
    Except (ResolveError ε) (List String) → Prop where
  | itself (plain : isPattern input = false) : Yields expansion input (.ok [input])
  | paths {path : String} {more : List String} (pattern : isPattern input = true)
      (entries : expansion input = .ok ((path :: more).map .ok)) :
      Yields expansion input (.ok (path :: more))
  | badPattern {error : Files.PatternError} (pattern : isPattern input = true)
      (refused : expansion input = .error error) :
      Yields expansion input (.error (.badPattern error))
  | unlisted {before : List String} {error : ε} {behind : List (Except ε String)}
      (pattern : isPattern input = true)
      (entries : expansion input = .ok (before.map .ok ++ .error error :: behind)) :
      Yields expansion input (.error (.unlisted error))
  | noMatches (pattern : isPattern input = true) (entries : expansion input = .ok []) :
      Yields expansion input (.error (.noMatches input))

/-- Every input comes to something. -/
theorem exists_yields (expansion : Expansion ε) (input : String) :
    ∃ result, expansion.Yields input result := by
  cases pattern : isPattern input with
  | false => exact ⟨_, .itself pattern⟩
  | true =>
      cases read : expansion input with
      | error error => exact ⟨_, .badPattern pattern read⟩
      | ok entries =>
          rcases entries_cases entries with ⟨paths, rfl⟩ | ⟨paths, error, rest, rfl⟩
          · cases paths with
            | nil => exact ⟨_, .noMatches pattern read⟩
            | cons path more => exact ⟨_, .paths pattern read⟩
          · exact ⟨_, .unlisted pattern read⟩

/-- No input comes to an empty list. -/
theorem Yields.ne_nil {input : String} {part : List String}
    (yields : expansion.Yields input (.ok part)) : part ≠ [] := by
  cases yields with
  | itself => exact List.cons_ne_nil _ _
  | paths => exact List.cons_ne_nil _ _

/-- **What was found before plays no part in what an input comes to**, and is kept in
front of it. -/
theorem addInput_of_yields {input : String} {result : Except (ResolveError ε) (List String)}
    (yields : expansion.Yields input result) (found : List String) :
    expansion.addInput found input = result.map (found ++ ·) := by
  cases yields with
  | itself plain => rw [addInput, plain]; rfl
  | badPattern pattern refused => rw [addInput, pattern, refused]; rfl
  | unlisted pattern entries =>
      rw [addInput, if_pos pattern, entries]
      show (List.foldlM addEntry found _ >>= _) = _
      rw [foldlM_addEntry_failure]
      rfl
  | noMatches pattern entries =>
      rw [addInput, if_pos pattern, entries]
      exact if_pos rfl
  | @paths path more pattern entries =>
      have longer : (found ++ path :: more).length ≠ found.length := by
        rw [List.length_append, List.length_cons]
        omega
      rw [addInput, if_pos pattern, entries]
      show (List.foldlM addEntry found _ >>= _) = _
      rw [foldlM_addEntry_paths]
      exact if_neg longer

theorem resolve_singleton (expansion : Expansion ε) (input : String) :
    expansion.resolve [input] = expansion.addInput [] input := by
  rw [resolve, List.foldlM_cons]
  exact bind_pure _

theorem resolve_singleton_eq_iff {input : String}
    {result : Except (ResolveError ε) (List String)} :
    expansion.resolve [input] = result ↔ expansion.Yields input result := by
  have own : ∀ {other}, expansion.Yields input other → expansion.resolve [input] = other := by
    intro other yields
    rw [resolve_singleton, addInput_of_yields yields]
    cases other <;> rfl
  constructor
  · intro same
    obtain ⟨other, yields⟩ := exists_yields expansion input
    rwa [← same, own yields]
  · exact own

/-! ## Inputs in a row -/

/-- Nor does it play a part in what several inputs come to. -/
theorem foldlM_addInput (expansion : Expansion ε) (found inputs : List String) :
    inputs.foldlM expansion.addInput found = (expansion.resolve inputs).map (found ++ ·) := by
  induction inputs generalizing found with
  | nil => simp [resolve, pure, Except.pure, Except.map]
  | cons input inputs ih =>
      obtain ⟨result, yields⟩ := exists_yields expansion input
      rw [resolve, List.foldlM_cons, List.foldlM_cons, addInput_of_yields yields,
        addInput_of_yields yields]
      cases result with
      | error error => rfl
      | ok part =>
          show inputs.foldlM expansion.addInput (found ++ part) =
            (inputs.foldlM expansion.addInput part).map (found ++ ·)
          rw [ih, ih part]
          cases expansion.resolve inputs with
          | error error => rfl
          | ok paths =>
              show Except.ok (found ++ part ++ paths) = Except.ok (found ++ (part ++ paths))
              rw [List.append_assoc]

end Expansion

/-! ## One by one -/

section InARow

variable {δ : Type}

/-- Two lists of inputs in a row come to the paths of the first, followed by those of the
second; the failure of the first goes before that of the second. -/
def Concatenates (paths : List String → Except δ (List String)) : Prop :=
  ∀ first second, paths (first ++ second) = do
    let found ← paths first
    let more ← paths second
    return found ++ more

/-- Inputs are taken one by one: what they come to in a row is joined from what each comes
to by itself, which is at least one path, up to the first that fails by itself. -/
structure OneByOne (paths : List String → Except δ (List String)) : Prop where
  concatenates : Concatenates paths
  ok_iff (inputs found : List String) :
    paths inputs = .ok found ↔
      ∃ parts, List.Forall₂ (fun input part => part ≠ [] ∧ paths [input] = .ok part)
        inputs parts ∧ found = parts.flatten
  error_iff (inputs : List String) (error : δ) :
    paths inputs = .error error ↔
      ∃ before input behind, inputs = before ++ input :: behind ∧
        (∀ earlier ∈ before, ∃ part, paths [earlier] = .ok part) ∧
        paths [input] = .error error

variable {paths : List String → Except δ (List String)}

theorem Concatenates.ok_iff (concatenates : Concatenates paths) (nothing : paths [] = .ok [])
    {inputs found : List String} :
    paths inputs = .ok found ↔
      ∃ parts, List.Forall₂ (fun input part => paths [input] = .ok part) inputs parts ∧
        found = parts.flatten := by
  induction inputs generalizing found with
  | nil =>
      rw [nothing]
      constructor
      · intro done
        cases done
        exact ⟨[], .nil, rfl⟩
      · rintro ⟨_, each, rfl⟩
        cases each
        rfl
  | cons input inputs ih =>
      rw [← List.singleton_append, concatenates, bind_eq_ok_iff]
      constructor
      · rintro ⟨part, own, done⟩
        obtain ⟨more, others, same⟩ := bind_eq_ok_iff.1 done
        obtain ⟨parts, each, rfl⟩ := ih.1 others
        cases same
        exact ⟨part :: parts, .cons own each, rfl⟩
      · rintro ⟨_, each, rfl⟩
        cases each with
        | cons own others =>
            refine ⟨_, own, ?_⟩
            rw [ih.2 ⟨_, others, rfl⟩]
            rfl

theorem Concatenates.error_iff (concatenates : Concatenates paths) (nothing : paths [] = .ok [])
    {inputs : List String} {error : δ} :
    paths inputs = .error error ↔
      ∃ before input behind, inputs = before ++ input :: behind ∧
        (∀ earlier ∈ before, ∃ part, paths [earlier] = .ok part) ∧
        paths [input] = .error error := by
  induction inputs with
  | nil =>
      rw [nothing]
      constructor
      · intro failed
        cases failed
      · rintro ⟨before, input, behind, parted, _⟩
        cases before <;> cases parted
  | cons head inputs ih =>
      rw [← List.singleton_append, concatenates, bind_eq_error_iff]
      constructor
      · rintro (failed | ⟨part, own, failed⟩)
        · exact ⟨[], head, inputs, rfl, nofun, failed⟩
        · rcases bind_eq_error_iff.1 failed with later | ⟨_, _, impossible⟩
          · obtain ⟨before, input, behind, rfl, fine, failed⟩ := ih.1 later
            have all_fine := List.forall_mem_cons.2 ⟨⟨part, own⟩, fine⟩
            exact ⟨head :: before, input, behind, rfl, all_fine, failed⟩
          · cases impossible
      · rintro ⟨before, input, behind, parted, fine, failed⟩
        cases before with
        | nil =>
            cases parted
            exact .inl failed
        | cons earlier before =>
            cases parted
            obtain ⟨⟨part, own⟩, others⟩ := List.forall_mem_cons.1 fine
            refine .inr ⟨part, own, bind_eq_error_iff.2 (.inl ?_)⟩
            exact ih.2 ⟨before, input, behind, rfl, others, failed⟩

/-- Where no input comes to an empty list, concatenation is all that it takes. -/
theorem Concatenates.oneByOne (concatenates : Concatenates paths) (nothing : paths [] = .ok [])
    (filled : ∀ {input part}, paths [input] = .ok part → part ≠ []) : OneByOne paths := by
  refine ⟨concatenates, ?_, fun _ _ => concatenates.error_iff nothing⟩
  intro inputs found
  have filled_iff : ∀ input part,
      (part ≠ [] ∧ paths [input] = .ok part) ↔ paths [input] = .ok part :=
    fun _ _ => and_iff_right_of_imp filled
  simp only [filled_iff]
  exact concatenates.ok_iff nothing

end InARow

/-! ## Inputs of a request -/

theorem Expansion.concatenates_resolve {ε : Type} (expansion : Expansion ε) :
    Concatenates expansion.resolve := by
  intro first second
  rw [resolve, List.foldlM_append]
  show expansion.resolve first >>= _ = _
  congr 1
  funext found
  rw [foldlM_addInput]
  cases expansion.resolve second <;> rfl

/-- Failures have other names in a request, but come at the same places. -/
theorem concatenates_resolve (files : Files.FileSystem) : Concatenates (resolve files) := by
  intro first second
  rw [resolve, resolve, resolve, (expansionIn files).concatenates_resolve]
  cases (expansionIn files).resolve first with
  | error error => rfl
  | ok found => cases (expansionIn files).resolve second <;> rfl

theorem resolve_singleton_eq_iff {files : Files.FileSystem} {input : String}
    {result : Except RunError (List String)} :
    resolve files [input] = result ↔
      ∃ own, (expansionIn files).Yields input own ∧ own.mapError .ofResolveError = result := by
  constructor
  · intro same
    exact ⟨_, Expansion.resolve_singleton_eq_iff.1 rfl, same⟩
  · rintro ⟨own, yields, rfl⟩
    rw [resolve, Expansion.resolve_singleton_eq_iff.2 yields]

/-- **Inputs are resolved independently, and the first failure counts.**  Let patterns
stand for anything at all.  Inputs are taken one by one: the paths of two lists in a row are
those of the first, followed by those of the second, and the failure of the first goes
before that of the second; on success each input contributes at least one path, in their
order, and on failure it is that of the first input that fails by itself.  By itself an
input comes to what `Yields` says: to itself, to the paths of its pattern, or to one of three
failures.  What was found before only stands in front.  The inputs of a request, whose
patterns stand for files, are taken one by one as well, and fail by the same causes. -/
theorem inputs_resolved_one_by_one {ε : Type} (expansion : Expansion ε)
    (files : Files.FileSystem) :
    OneByOne expansion.resolve ∧
    (∀ input result, expansion.resolve [input] = result ↔ expansion.Yields input result) ∧
    (∀ found inputs, inputs.foldlM expansion.addInput found =
      (expansion.resolve inputs).map (found ++ ·)) ∧
    OneByOne (resolve files) ∧
    ∀ input result, resolve files [input] = result ↔
      ∃ own, (expansionIn files).Yields input own ∧ own.mapError .ofResolveError = result := by
  refine ⟨?_, ?_, expansion.foldlM_addInput, ?_, ?_⟩
  · apply expansion.concatenates_resolve.oneByOne rfl
    intro input part own
    exact (Expansion.resolve_singleton_eq_iff.1 own).ne_nil
  · intro input result
    exact Expansion.resolve_singleton_eq_iff
  · apply (concatenates_resolve files).oneByOne rfl
    intro input part own
    obtain ⟨result, yields, same⟩ := resolve_singleton_eq_iff.1 own
    rw [mapError_eq_ok_iff] at same
    exact (same ▸ yields).ne_nil
  · intro input result
    exact resolve_singleton_eq_iff

/-- A pattern without matches is refused before a later one that is none is read. -/
example :
    let expansion : Expansion Empty := fun pattern =>
      if pattern = "[" then .error { fault := .badClass, position := 0 } else .ok []
    expansion.resolve ["a.yaml", "b*.yaml", "["] = .error (.noMatches "b*.yaml") := rfl

end YamlShape.Command
