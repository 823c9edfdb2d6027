import Mathlib

/-!
# Binary heaps in a slice

The contract of Go's `container/heap` for a slice of references whose priorities are kept elsewhere
and change under the heap: `Fix` is called after the priority of one element has changed. `Ordered`
is the invariant the package documents, and `Heap` collects the three operations with what is
promised of them. Nothing is said about the order of elements of one priority.
-/

namespace LastochkaServer.Lib

variable {ι : Type}

theorem Heap.parent_lt {i n : Nat} (inside : i < n) : (i - 1) / 2 < n := by omega

/-- No element has a lower priority than its parent, which is at half its index. -/
def Heap.Ordered (priority : ι → Int) (queue : List ι) : Prop :=
  ∀ i (inside : i < queue.length),
    priority (queue.get ⟨(i - 1) / 2, parent_lt inside⟩) ≤ priority (queue.get ⟨i, inside⟩)

/-- `heap.Push`, `heap.Fix` and `heap.Pop`; the element that `heap.Pop` returns is the first one. -/
structure Heap (ι : Type) where
  push : (ι → Int) → List ι → ι → List ι
  fix : (ι → Int) → List ι → ι → List ι
  pop : (ι → Int) → List ι → List ι
  push_perm : ∀ priority queue x, (push priority queue x).Perm (x :: queue)
  fix_perm : ∀ priority queue x, (fix priority queue x).Perm queue
  pop_perm : ∀ priority x rest, (pop priority (x :: rest)).Perm rest
  push_ordered : ∀ priority queue x, Heap.Ordered priority queue →
    Heap.Ordered priority (push priority queue x)
  /-- The priority of `x` alone may have changed. -/
  fix_ordered : ∀ (priority priority' : ι → Int) queue x, Heap.Ordered priority queue →
    queue.Nodup → x ∈ queue →
    (∀ y, y ≠ x → priority' y = priority y) → Heap.Ordered priority' (fix priority' queue x)
  pop_ordered : ∀ priority queue, Heap.Ordered priority queue →
    Heap.Ordered priority (pop priority queue)

namespace Heap

theorem ordered_nil (priority : ι → Int) : Ordered priority [] := by
  intro i inside
  simp at inside

theorem Ordered.first_le {priority : ι → Int} {x : ι} {rest : List ι}
    (ordered : Ordered priority (x :: rest)) :
    ∀ y ∈ x :: rest, priority x ≤ priority y := by
  -- by strong induction on the index: the parent of an element is nearer to the front
  have atIndex : ∀ i (inside : i < (x :: rest).length), priority x ≤
      priority ((x :: rest).get ⟨i, inside⟩) := by
    intro i
    induction i using Nat.strongRecOn with
    | ind i ih =>
      intro inside
      by_cases front : i = 0
      · subst front
        exact le_rfl
      · exact (ih ((i - 1) / 2) (by omega) (by omega)).trans (ordered i inside)
  intro y mem
  obtain ⟨i, found⟩ := List.mem_iff_get.mp mem
  rw [← found]
  exact atIndex i i.isLt

/-- Priorities of elements outside the heap do not matter. -/
theorem Ordered.congr {priority priority' : ι → Int} {queue : List ι}
    (ordered : Ordered priority queue)
    (same : ∀ x ∈ queue, priority' x = priority x) : Ordered priority' queue := by
  intro i inside
  rw [same _ (List.get_mem ..), same _ (List.get_mem ..)]
  exact ordered i inside

/-- The elements in ascending order of priority. -/
def sortBy (priority : ι → Int) (queue : List ι) : List ι :=
  queue.insertionSort fun x y => priority x ≤ priority y

theorem sortBy_ordered (priority : ι → Int) (queue : List ι) :
    Ordered priority (sortBy priority queue) := by
  have sorted := List.pairwise_insertionSort (fun x y => priority x ≤ priority y) queue
  intro i inside
  rcases Nat.eq_or_lt_of_le (Nat.div_le_self (i - 1) 2 |>.trans (Nat.sub_le i 1)) with same | before
  · have equal : (⟨(i - 1) / 2, parent_lt inside⟩ : Fin (sortBy priority queue).length) =
        ⟨i, inside⟩ := Fin.ext same
    rw [equal]
  · exact List.pairwise_iff_get.mp sorted _ _ before

/-- A slice that is sorted by every operation is a heap. -/
def sorted (ι : Type) : Heap ι where
  push priority queue x := sortBy priority (x :: queue)
  fix priority queue _ := sortBy priority queue
  pop priority queue := sortBy priority queue.tail
  push_perm _ _ _ := List.perm_insertionSort _ _
  fix_perm _ _ _ := List.perm_insertionSort _ _
  pop_perm _ _ _ := List.perm_insertionSort _ _
  push_ordered _ _ _ _ := sortBy_ordered _ _
  fix_ordered _ _ _ _ _ _ _ _ := sortBy_ordered _ _
  pop_ordered _ _ _ := sortBy_ordered _ _

end Heap

end LastochkaServer.Lib
