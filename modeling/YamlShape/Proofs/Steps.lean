/-
# YamlShape.Proofs.Steps -- steps that can fail

What several steps come to is a result only when each of them has one, and it is then
theirs.  A cause that is given to a failure does not touch the results.
-/

namespace YamlShape

set_option autoImplicit false

theorem bind_eq_ok_iff {ε α β : Type} {first : Except ε α} {next : α → Except ε β} {result : β} :
    first >>= next = .ok result ↔ ∃ value, first = .ok value ∧ next value = .ok result := by
  cases first with
  | error error => exact ⟨nofun, fun ⟨_, impossible, _⟩ => nomatch impossible⟩
  | ok value =>
      constructor
      · intro done
        exact ⟨value, rfl, done⟩
      · rintro ⟨_, same, done⟩
        cases same
        exact done

/-- A failure is that of the first step, or of the next one after a first that succeeded. -/
theorem bind_eq_error_iff {ε α β : Type} {first : Except ε α} {next : α → Except ε β} {cause : ε} :
    first >>= next = .error cause ↔
      first = .error cause ∨ ∃ value, first = .ok value ∧ next value = .error cause := by
  cases first with
  | error error =>
      constructor
      · intro failed
        cases failed
        exact .inl rfl
      · rintro (same | ⟨_, impossible, _⟩)
        · cases same
          rfl
        · cases impossible
  | ok value =>
      constructor
      · intro failed
        exact .inr ⟨value, rfl, failed⟩
      · rintro (impossible | ⟨_, same, failed⟩)
        · cases impossible
        · cases same
          exact failed

/-- A step that succeeds comes to what is had of it without a cause. -/
theorem eq_ok_of_toBool {ε α : Type} {step : Except ε α} (done : step.toBool = true)
    (other : α) : step = .ok (step.toOption.getD other) := by
  cases step with
  | error error => cases done
  | ok value => rfl

theorem mapError_eq_ok_iff {ε δ α : Type} {step : Except ε α} {cause : ε → δ} {value : α} :
    step.mapError cause = .ok value ↔ step = .ok value := by
  cases step with
  | error error => exact ⟨nofun, nofun⟩
  | ok other =>
      constructor
      · intro same
        cases same
        rfl
      · intro same
        cases same
        rfl

theorem mapM_eq_ok {ε α β : Type} {step : α → Except ε β} {result : α → β} {items : List α}
    (each : ∀ item ∈ items, step item = .ok (result item)) :
    items.mapM step = .ok (items.map result) := by
  induction items with
  | nil => rfl
  | cons item rest ih =>
      obtain ⟨first, others⟩ := List.forall_mem_cons.1 each
      rw [List.mapM_cons, first, ih others, List.map_cons]
      rfl

theorem mem_of_mapM {ε α β : Type} {step : α → Except ε β} {items : List α} {results : List β}
    (done : items.mapM step = .ok results) {result : β} (inside : result ∈ results) :
    ∃ item ∈ items, step item = .ok result := by
  induction items generalizing results with
  | nil =>
      cases done
      cases inside
  | cons item rest ih =>
      rw [List.mapM_cons] at done
      obtain ⟨made, first, done⟩ := bind_eq_ok_iff.1 done
      obtain ⟨more, others, same⟩ := bind_eq_ok_iff.1 done
      cases same
      rcases List.mem_cons.1 inside with rfl | behind
      · exact ⟨item, List.mem_cons_self, first⟩
      · obtain ⟨other, held, same⟩ := ih others behind
        exact ⟨other, List.mem_cons_of_mem _ held, same⟩

end YamlShape
