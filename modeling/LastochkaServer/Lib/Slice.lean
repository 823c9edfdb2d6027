import Mathlib.Data.List.Perm.Basic

/-!
# Go slices

The idiom `s[i] = s[len(s)-1]; s = s[:len(s)-1]` removes one element of an unordered slice in
place. As a multiset the result is the slice without one occurrence of the element.
-/

namespace LastochkaServer.Lib.Slice

variable {α : Type} [DecidableEq α]

/-- Overwrite the first occurrence of `a` by the last element, then cut the last element off. -/
def swapRemove (s : List α) (a : α) : List α :=
  (s.set (s.idxOf a) (s.getLast?.getD a)).dropLast

theorem swapRemove_perm (s : List α) (a : α) (mem : a ∈ s) : (swapRemove s a).Perm (s.erase a) := by
  obtain ⟨before, after, fresh, rfl, erased⟩ := List.exists_erase_eq mem
  have index : (before ++ a :: after).idxOf a = before.length := by
    rw [List.idxOf_append_of_notMem fresh, List.idxOf_cons_self, Nat.add_zero]
  rw [erased, swapRemove, index, List.set_append_right _ _ (Nat.le_refl _), Nat.sub_self,
    List.set_cons_zero]
  rcases List.eq_nil_or_concat after with rfl | ⟨middle, last, rfl⟩
  · simp
  · -- the last element has moved into the gap
    have final : (before ++ a :: middle.concat last).getLast? = some last := by
      rw [List.concat_eq_append, ← List.cons_append, ← List.append_assoc, List.getLast?_concat]
    have cut : (before ++ last :: middle.concat last).dropLast = before ++ last :: middle := by
      rw [List.concat_eq_append, ← List.cons_append, ← List.append_assoc, List.dropLast_concat]
    have moved : (last :: middle).Perm (middle ++ [last]) :=
      (List.perm_append_singleton last middle).symm
    rw [final, Option.getD_some, cut, List.concat_eq_append]
    exact moved.append_left before

theorem count_swapRemove (s : List α) (a b : α) (mem : a ∈ s) :
    (swapRemove s a).count b + (if b = a then 1 else 0) = s.count b := by
  rw [(swapRemove_perm s a mem).count_eq, List.count_erase]
  by_cases same : b = a
  · subst same
    have pos : 0 < s.count b := List.count_pos_iff.mpr mem
    simp only [beq_self_eq_true, if_true]
    omega
  · simp [same, Ne.symm same]

theorem mem_of_mem_swapRemove {s : List α} {a b : α} (mem : a ∈ s) (stays : b ∈ swapRemove s a) :
    b ∈ s :=
  List.mem_of_mem_erase ((swapRemove_perm s a mem).mem_iff.mp stays)

end LastochkaServer.Lib.Slice
