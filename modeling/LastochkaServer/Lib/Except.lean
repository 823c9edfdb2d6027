import Mathlib.Init

/-!
# Computations that may fail

The rules by which a computation in `Except` that has succeeded is taken apart.
-/

namespace LastochkaServer.Lib

variable {ε α β : Type} {step : Except ε α} {next : α → Except ε β}

theorem bind_ok {value : β} (h : (step >>= next) = .ok value) :
    ∃ x, step = .ok x ∧ next x = .ok value := by
  cases step with
  | error e => cases h
  | ok x => exact ⟨x, rfl, h⟩

theorem bind_failure {e : ε} (h : (step >>= next) = .error e) :
    step = .error e ∨ ∃ x, step = .ok x ∧ next x = .error e := by
  cases step with
  | error e' =>
    cases h
    exact .inl rfl
  | ok x => exact .inr ⟨x, rfl, h⟩

theorem map_ok {f : α → β} {x : Except ε α} {b : β} (h : f <$> x = .ok b) :
    ∃ a, x = .ok a ∧ b = f a := by
  cases x with
  | error e => cases h
  | ok a =>
    cases h
    exact ⟨a, rfl, rfl⟩

/-- What one step of a loop preserves, for the elements visited, a loop that succeeds preserves. -/
theorem foldlM_invariant_of_mem {ε σ α : Type} {f : σ → α → Except ε σ} {inv : σ → Prop} {xs : List α}
    (preserved : ∀ s, ∀ x ∈ xs, ∀ s', inv s → f s x = .ok s' → inv s') {s s' : σ} (start : inv s)
    (h : xs.foldlM f s = .ok s') : inv s' := by
  induction xs generalizing s with
  | nil =>
    cases h
    exact start
  | cons x rest ih =>
    obtain ⟨next, stepped, h⟩ := bind_ok h
    exact ih (fun s y mem => preserved s y (.tail x mem))
      (preserved s x (.head rest) next start stepped) h

theorem foldlM_invariant {ε σ α : Type} {f : σ → α → Except ε σ} {inv : σ → Prop}
    (preserved : ∀ s x s', inv s → f s x = .ok s' → inv s') {xs : List α} {s s' : σ} (start : inv s)
    (h : xs.foldlM f s = .ok s') : inv s' :=
  foldlM_invariant_of_mem (fun s x _ => preserved s x) start h

/-- A computation returns if its first step does and the rest does from every result of it. -/
theorem bind_returns (first : ∃ x, step = .ok x)
    (rest : ∀ x, step = .ok x → ∃ value, next x = .ok value) :
    ∃ value, (step >>= next) = .ok value := by
  obtain ⟨x, got⟩ := first
  obtain ⟨value, ran⟩ := rest x got
  rw [got]
  exact ⟨value, ran⟩

/-- A last step that always returns can be left out of a statement about the result. -/
theorem exists_bind_iff {post : β → Prop} {mid : α → Prop}
    (returns : ∀ x, ∃ value, next x = .ok value ∧ (post value ↔ mid x)) :
    (∃ value, (step >>= next) = .ok value ∧ post value) ↔ ∃ x, step = .ok x ∧ mid x := by
  cases step with
  | error e =>
    constructor
    · rintro ⟨value, ⟨⟩, -⟩
    · rintro ⟨x, ⟨⟩, -⟩
  | ok x =>
    obtain ⟨value, ran, same⟩ := returns x
    constructor
    · rintro ⟨other, done, holds⟩
      cases ran.symm.trans done
      exact ⟨x, rfl, same.mp holds⟩
    · rintro ⟨other, ⟨⟩, holds⟩
      exact ⟨value, ran, same.mpr holds⟩

end LastochkaServer.Lib
