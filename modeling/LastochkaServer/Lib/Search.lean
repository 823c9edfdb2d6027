import Mathlib.Data.List.Basic

/-!
# Binary search

`sort.Search` of Go: the smallest index at which a predicate holds, if it holds from some index on.
The number of rounds is bounded by the length of the interval, which is halved in each.
-/

namespace LastochkaServer.Lib

/-- The loop of `sort.Search` over the indices from `i` up to `j`. -/
def searchFrom (p : Nat → Bool) : (rounds : Nat) → (i j : Nat) → Nat
  | 0, i, _ => i
  | rounds + 1, i, j =>
    if i < j then
      let h := (i + j) / 2
      if p h then searchFrom p rounds i h else searchFrom p rounds (h + 1) j
    else i

def search (n : Nat) (p : Nat → Bool) : Nat := searchFrom p n 0 n

/-- The predicate fails below the result and holds from it on, within the bounds of the search. -/
theorem searchFrom_spec {p : Nat → Bool} {n : Nat} (mono : ∀ a b, a ≤ b → b < n → p a → p b)
    {rounds i j : Nat} (enough : j - i ≤ rounds) (ordered : i ≤ j) (inside : j ≤ n)
    (below : ∀ k < i, p k = false) (above : j < n → p j) :
    searchFrom p rounds i j ≤ n ∧ (∀ k < searchFrom p rounds i j, p k = false) ∧
      (searchFrom p rounds i j < n → p (searchFrom p rounds i j)) := by
  induction rounds generalizing i j with
  | zero =>
    have same : i = j := by omega
    subst same
    exact ⟨inside, below, above⟩
  | succ rounds ih =>
    unfold searchFrom
    split
    · next nonempty =>
      have middle : i ≤ (i + j) / 2 ∧ (i + j) / 2 < j := by omega
      dsimp only
      split
      · next holds => exact ih (by omega) middle.1 (by omega) below fun _ => holds
      · next fails =>
        refine ih (by omega) (by omega) inside (fun k before => ?_) above
        by_contra holds
        exact fails (mono k _ (by omega) (by omega) (Bool.of_not_eq_false holds))
    · next closed =>
      have same : i = j := by omega
      subst same
      exact ⟨inside, below, above⟩

theorem search_spec {p : Nat → Bool} {n : Nat} (mono : ∀ a b, a ≤ b → b < n → p a → p b) :
    search n p ≤ n ∧ (∀ k < search n p, p k = false) ∧ (search n p < n → p (search n p)) :=
  searchFrom_spec mono (Nat.le_refl (n - 0)) (Nat.zero_le n) (Nat.le_refl n) (by simp) (by simp)

/-- In a list where the property passes on to all later elements, the search finds the first that
has it. -/
theorem search_eq_findIdx {α : Type} {q : α → Bool} {xs : List α}
    (mono : xs.Pairwise fun a b => q a = true → q b = true) :
    search xs.length (fun i => xs[i]?.any q) = xs.findIdx q := by
  have monotone : ∀ a b, a ≤ b → b < xs.length → xs[a]?.any q → xs[b]?.any q := by
    intro a b before inside holds
    rcases Nat.eq_or_lt_of_le before with rfl | before
    · exact holds
    · have earlier : a < xs.length := Nat.lt_trans before inside
      rw [List.getElem?_eq_getElem earlier] at holds
      rw [List.getElem?_eq_getElem inside]
      exact List.pairwise_iff_getElem.mp mono a b earlier inside before holds
  obtain ⟨bound, below, found⟩ := search_spec monotone
  generalize search xs.length (fun i => xs[i]?.any q) = r at bound below found
  rcases Nat.lt_or_eq_of_le bound with inside | rfl
  · refine ((List.findIdx_eq inside).mpr ⟨?_, fun k before => ?_⟩).symm
    · have holds := found inside
      rwa [List.getElem?_eq_getElem inside] at holds
    · have fails := below k before
      rwa [List.getElem?_eq_getElem (Nat.lt_trans before inside)] at fails
  · refine (List.findIdx_eq_length.mpr fun x mem => ?_).symm
    obtain ⟨k, inside, rfl⟩ := List.getElem_of_mem mem
    have fails := below k inside
    rwa [List.getElem?_eq_getElem inside] at fails

end LastochkaServer.Lib
