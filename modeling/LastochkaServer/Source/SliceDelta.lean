import Mathlib.Data.List.Sort
import Mathlib.Data.String.Basic

/-!
# Difference of two slices

`stringSliceDelta` of `server/utils.go:69-114` compares two lists of strings as multisets. It sorts
both in place and walks along them.
-/

namespace LastochkaServer.Source

variable {old new : List String} {o x : String}

/-- `sort.Strings`. -/
def sortStrings (l : List String) : List String := l.insertionSort (· ≤ ·)

structure SliceDelta where
  added : List String := []
  removed : List String := []
  intersection : List String := []
  deriving DecidableEq, Repr

/-- The loop of `stringSliceDelta` while `o` is the first of the old strings that are left. -/
def deltaAt (o : String) (next : List String → SliceDelta) : List String → SliceDelta
  | [] =>
    let d := next []
    { d with removed := o :: d.removed }
  | n :: ns =>
    if n < o then
      let d := deltaAt o next ns
      { d with added := n :: d.added }
    else if o < n then
      let d := next (n :: ns)
      { d with removed := o :: d.removed }
    else
      let d := next ns
      { d with intersection := o :: d.intersection }

def deltaSorted : List String → List String → SliceDelta
  | [], new => { added := new }
  | o :: old, new => deltaAt o (deltaSorted old) new

def stringSliceDelta (old new : List String) : SliceDelta :=
  if old = [] then { added := new }
  else if new = [] then { removed := old }
  else deltaSorted (sortStrings old) (sortStrings new)

/-- How often a string occurs in each part. -/
structure Counts (old new : List String) (d : SliceDelta) (x : String) : Prop where
  added : d.added.count x = new.count x - old.count x
  removed : d.removed.count x = old.count x - new.count x
  intersection : d.intersection.count x = min (old.count x) (new.count x)

section

variable {d : SliceDelta}

theorem Counts.add {n : String} (counts : Counts old new d x) (absent : old.count n = 0) :
    Counts old (n :: new) { d with added := n :: d.added } x := by
  obtain ⟨added, removed, intersection⟩ := counts
  by_cases here : n = x
  · subst here
    constructor <;> simp only [List.count_cons_self] <;> omega
  · constructor <;> simp only [List.count_cons_of_ne here] <;> assumption

theorem Counts.remove (counts : Counts old new d x) (absent : new.count o = 0) :
    Counts (o :: old) new { d with removed := o :: d.removed } x := by
  obtain ⟨added, removed, intersection⟩ := counts
  by_cases here : o = x
  · subst here
    constructor <;> simp only [List.count_cons_self] <;> omega
  · constructor <;> simp only [List.count_cons_of_ne here] <;> assumption

theorem Counts.both (counts : Counts old new d x) :
    Counts (o :: old) (o :: new) { d with intersection := o :: d.intersection } x := by
  obtain ⟨added, removed, intersection⟩ := counts
  by_cases here : o = x
  · subst here
    constructor <;> simp only [List.count_cons_self] <;> omega
  · constructor <;> simp only [List.count_cons_of_ne here] <;> assumption

end

theorem count_eq_zero_of_lt {a b : String} {l : List String} (less : a < b)
    (sorted : (b :: l).Pairwise (· ≤ ·)) : (b :: l).count a = 0 := by
  rw [List.count_eq_zero]
  intro mem
  rcases List.mem_cons.mp mem with rfl | mem
  · exact lt_irrefl _ less
  · exact absurd (List.rel_of_pairwise_cons sorted mem) (not_le.mpr less)

theorem deltaAt_counts {next : List String → SliceDelta} (sortedOld : (o :: old).Pairwise (· ≤ ·))
    (x : String) (rest : ∀ new : List String, new.Pairwise (· ≤ ·) → Counts old new (next new) x)
    (sortedNew : new.Pairwise (· ≤ ·)) : Counts (o :: old) new (deltaAt o next new) x := by
  induction new with
  | nil => exact (rest [] List.Pairwise.nil).remove List.count_nil
  | cons n ns ih =>
    unfold deltaAt
    rcases lt_trichotomy n o with first | rfl | later
    · rw [if_pos first]
      exact (ih sortedNew.tail).add (count_eq_zero_of_lt first sortedOld)
    · rw [if_neg (lt_irrefl n), if_neg (lt_irrefl n)]
      exact (rest ns sortedNew.tail).both
    · rw [if_neg (lt_asymm later), if_pos later]
      exact (rest (n :: ns) sortedNew).remove (count_eq_zero_of_lt later sortedNew)

theorem deltaSorted_counts (sortedOld : old.Pairwise (· ≤ ·)) (sortedNew : new.Pairwise (· ≤ ·))
    (x : String) : Counts old new (deltaSorted old new) x := by
  induction old generalizing new with
  | nil => constructor <;> simp [deltaSorted]
  | cons o old ih => exact deltaAt_counts sortedOld x (fun new => ih sortedOld.tail) sortedNew

/-- `stringSliceDelta` compares its arguments as multisets. -/
theorem stringSliceDelta_counts (old new : List String) (x : String) :
    Counts old new (stringSliceDelta old new) x := by
  unfold stringSliceDelta
  split
  · next empty =>
    subst empty
    constructor <;> simp
  split
  · next empty =>
    subst empty
    constructor <;> simp
  · obtain ⟨added, removed, intersection⟩ :=
      deltaSorted_counts (List.pairwise_insertionSort (· ≤ ·) old)
        (List.pairwise_insertionSort (· ≤ ·) new) x
    rw [(List.perm_insertionSort _ old).count_eq, (List.perm_insertionSort _ new).count_eq] at *
    exact ⟨added, removed, intersection⟩

theorem mem_iff_of_count {a b part : List String} (distinct : a.Nodup)
    (counts : part.count x = a.count x - b.count x) : x ∈ part ↔ x ∈ a ∧ x ∉ b := by
  have once := List.nodup_iff_count_le_one.mp distinct x
  rw [← List.count_pos_iff, counts, ← List.count_pos_iff, ← List.count_eq_zero]
  omega

/-- What is removed from a list without repetitions is what the new list lacks. -/
theorem mem_removed_iff (distinct : old.Nodup) :
    x ∈ (stringSliceDelta old new).removed ↔ x ∈ old ∧ x ∉ new :=
  mem_iff_of_count distinct (stringSliceDelta_counts old new x).removed

/-- What is added by a list without repetitions is what the old list lacks. -/
theorem mem_added_iff (distinct : new.Nodup) :
    x ∈ (stringSliceDelta old new).added ↔ x ∈ new ∧ x ∉ old :=
  mem_iff_of_count distinct (stringSliceDelta_counts old new x).added

end LastochkaServer.Source
