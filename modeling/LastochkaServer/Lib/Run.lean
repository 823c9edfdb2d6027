import Mathlib.Init

/-!
# Runs of a step function

A system that handles one event after another is a step function `step : σ → ε → σ`. A run is the
fold of the step over a list of events, so a statement about the end of every run is a statement
about every reachable state. `Guarded` says that each event of a run meets a condition in the
state it is taken in, and `run_invariant` is the induction behind every result about whole runs.
-/

namespace LastochkaServer.Lib.Run

variable {σ ε : Type} {step : σ → ε → σ} {ok : σ → ε → Prop} {inv : σ → Prop} {s : σ}

def run (step : σ → ε → σ) (s : σ) (events : List ε) : σ :=
  events.foldl step s

/-- Every event meets `ok` in the state it is taken in. -/
def Guarded (step : σ → ε → σ) (ok : σ → ε → Prop) : σ → List ε → Prop
  | _, [] => True
  | s, e :: rest => ok s e ∧ Guarded step ok (step s e) rest

instance decidableGuarded (step : σ → ε → σ) (ok : σ → ε → Prop)
    [decideOk : ∀ s e, Decidable (ok s e)] :
    ∀ (events : List ε) (s : σ), Decidable (Guarded step ok s events)
  | [], _ => .isTrue trivial
  | e :: rest, s =>
    have : Decidable (Guarded step ok (step s e) rest) := decidableGuarded step ok rest (step s e)
    inferInstanceAs (Decidable (ok s e ∧ Guarded step ok (step s e) rest))

@[simp] theorem run_cons (step : σ → ε → σ) (s : σ) (e : ε) (rest : List ε) :
    run step s (e :: rest) = run step (step s e) rest := rfl

/-- What one guarded step preserves, every guarded run preserves. -/
theorem run_invariant
    (preserved : ∀ s e, inv s → ok s e → inv (step s e))
    (start : inv s) {events : List ε} (guarded : Guarded step ok s events) :
    inv (run step s events) := by
  induction events generalizing s with
  | nil => exact start
  | cons e rest ih => exact ih (preserved s e start guarded.1) guarded.2

/-- What every step preserves, every run preserves. -/
theorem run_preserves
    (preserved : ∀ s e, inv s → inv (step s e)) (start : inv s) (events : List ε) :
    inv (run step s events) := by
  induction events generalizing s with
  | nil => exact start
  | cons e rest ih => exact ih (preserved s e start)

/-- In a guarded run the invariant and the guard hold at every step. -/
theorem run_step
    (preserved : ∀ s e, inv s → ok s e → inv (step s e)) (start : inv s) {before after : List ε}
    {e : ε}
    (guarded : Guarded step ok s (before ++ e :: after)) :
    inv (run step s before) ∧ ok (run step s before) e := by
  induction before generalizing s with
  | nil => exact ⟨start, guarded.1⟩
  | cons first rest ih => exact ih (preserved s first start guarded.1) guarded.2

/-- Where a step against the guard shows at once, a run meets the guard just when the property holds
in every state it reaches. -/
theorem guarded_iff {good : σ → Prop}
    (preserved : ∀ s e, inv s → ok s e → inv (step s e)) (implied : ∀ s, inv s → good s)
    (shown : ∀ s e, inv s → ¬ ok s e → ¬ good (step s e)) (start : inv s) (events : List ε) :
    (∀ before after, events = before ++ after → good (run step s before)) ↔
    Guarded step ok s events := by
  induction events generalizing s with
  | nil =>
    constructor
    · intro _
      trivial
    · intro _ before after split
      obtain ⟨rfl, -⟩ := List.append_eq_nil_iff.mp split.symm
      exact implied s start
  | cons e rest ih =>
    constructor
    · intro everywhere
      have first : ok s e := by
        apply Classical.byContradiction
        intro broken
        exact shown s e start broken (everywhere [e] rest rfl)
      refine ⟨first, (ih (preserved s e start first)).mp fun before after split => ?_⟩
      exact everywhere (e :: before) after (congrArg (e :: ·) split)
    · rintro ⟨first, guarded⟩ before after split
      cases before with
      | nil => exact implied s start
      | cons head before =>
        injection split with same split
        subst same
        exact (ih (preserved s e start first)).mpr guarded before after split

end LastochkaServer.Lib.Run
