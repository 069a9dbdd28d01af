/-! # Outcomes

What a result that may be a failure comes from, once something was done with the value that it
has otherwise.
-/

namespace ResourceWatch.Outcome

variable {α β ε : Type} {outcome : Except ε α}

theorem bind_eq_ok_iff {next : α → Except ε β} {value : β} :
    outcome.bind next = .ok value ↔ ∃ former, outcome = .ok former ∧ next former = .ok value := by
  cases outcome <;> simp [Except.bind]

theorem map_eq_ok_iff {f : α → β} {value : β} :
    outcome.map f = .ok value ↔ ∃ former, outcome = .ok former ∧ f former = value := by
  cases outcome <;> simp [Except.map]

theorem exists_map_eq_ok_iff {f : α → β} :
    (∃ value, outcome.map f = .ok value) ↔ ∃ former, outcome = .ok former := by
  cases outcome <;> simp [Except.map]

theorem map_eq_error_iff {f : α → β} {fault : ε} :
    outcome.map f = .error fault ↔ outcome = .error fault := by
  cases outcome <;> simp [Except.map]

end ResourceWatch.Outcome
