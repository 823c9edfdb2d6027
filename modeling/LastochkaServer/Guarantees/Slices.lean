import LastochkaServer.Source.Graphemes
import LastochkaServer.Source.SliceDelta
import LastochkaServer.Source.UidSlice

/-!
# Slices

`stringSliceDelta` splits two lists as multisets (`delta_splits`), and a `UidSlice` is the set that
the same calls make (`uidSlice_refines`). Slices of a string along its grapheme clusters add up to
the string as long as the size of each cluster fits into a byte (`slices_add_iff`).
-/

namespace LastochkaServer.Guarantees.Slices

open Source

/-- What is added and what is common make up the new list, what is removed and what is common the
old one, and nothing is both added and removed. -/
theorem delta_splits (old new : List String) :
    ((stringSliceDelta old new).added ++ (stringSliceDelta old new).intersection).Perm new ∧
      ((stringSliceDelta old new).removed ++ (stringSliceDelta old new).intersection).Perm old ∧
      (stringSliceDelta old new).added.Disjoint (stringSliceDelta old new).removed := by
  refine ⟨List.perm_iff_count.mpr fun x => ?_, List.perm_iff_count.mpr fun x => ?_,
    fun x isNew isOld => ?_⟩
  all_goals obtain ⟨added, removed, intersection⟩ := stringSliceDelta_counts old new x
  · rw [List.count_append]
    omega
  · rw [List.count_append]
    omega
  · rw [← List.count_pos_iff] at isNew isOld
    omega

inductive UidMethod
  | add | rem | contains

def UidMethod.onSlice (us : List Uid) (uid : Uid) : UidMethod → List Uid × Bool
  | .add => addUid us uid
  | .rem => remUid us uid
  | .contains => (us, containsUid us uid)

/-- The same on a finite set. -/
def UidMethod.onSet (s : Finset Uid) (uid : Uid) : UidMethod → Finset Uid × Bool
  | .add => (insert uid s, uid ∉ s)
  | .rem => (s.erase uid, uid ∈ s)
  | .contains => (s, uid ∈ s)

/-- What is left after a number of calls, and their results. -/
def perform {σ : Type} (call : σ → Uid → UidMethod → σ × Bool) (s : σ) :
    List (Uid × UidMethod) → σ × List Bool
  | [] => (s, [])
  | (uid, method) :: calls =>
    let rest := perform call (call s uid method).1 calls
    (rest.1, (call s uid method).2 :: rest.2)

theorem onSlice_refines {us : List Uid} (ascends : us.Pairwise (· < ·)) (uid : Uid)
    (method : UidMethod) :
    (method.onSlice us uid).1.Pairwise (· < ·) ∧
      ((method.onSlice us uid).1.toFinset, (method.onSlice us uid).2) =
      method.onSet us.toFinset uid := by
  obtain ⟨before, after, sorted, place⟩ := findUid_cases ascends uid
  have absent : uid ∉ before ++ after := by
    have nodup : (before ++ uid :: after).Nodup := sorted.imp UInt64.ne_of_lt
    exact (List.nodup_middle.mp nodup).notMem
  have fewer := sorted.sublist ((List.sublist_cons_self uid after).append_left before)
  rcases place with ⟨rfl, found⟩ | ⟨rfl, missing⟩
  · cases method <;>
      simp_all [UidMethod.onSlice, UidMethod.onSet, addUid, remUid_present found, containsUid]
  · cases method <;>
      simp_all [UidMethod.onSlice, UidMethod.onSet, addUid_absent missing, remUid, containsUid]

/-- After any calls on an empty slice the slice ascends and has the members of the set on which the
same calls have been made, and each call has had the same result. -/
theorem uidSlice_refines (calls : List (Uid × UidMethod)) :
    let (us, results) := perform UidMethod.onSlice [] calls
    us.Pairwise (· < ·) ∧ (us.toFinset, results) = perform UidMethod.onSet ∅ calls := by
  suffices ∀ us : List Uid, us.Pairwise (· < ·) →
      let (us', results) := perform UidMethod.onSlice us calls
      us'.Pairwise (· < ·) ∧
        (us'.toFinset, results) = perform UidMethod.onSet us.toFinset calls from this [] .nil
  induction calls with
  | nil => exact fun us ascends => ⟨ascends, rfl⟩
  | cons call calls ih =>
    intro us ascends
    obtain ⟨ascends, same⟩ := onSlice_refines ascends call.1 call.2
    obtain ⟨ordered, rest⟩ := ih _ ascends
    exact ⟨ordered, by rw [perform, ← same, ← rest]⟩

/-- Adjacent slices make up the slice from the first to the last, and the slice of all clusters is
the string. -/
structure Additive (g : Graphemes) : Prop where
  adjacent : ∀ i j k, i ≤ j → j ≤ k → k ≤ g.sizes.length → ∃ a b, g.slice i j = some a ∧
    g.slice j k = some b ∧
    g.slice i k = some (a.append b)
  whole : (g.slice 0 g.sizes.length).map (·.original) = some g.original

theorem take_drop_append {α : Type} (l : List α) {i j k : Nat} (first : i ≤ j) (second : j ≤ k) :
    (l.take j).drop i ++ (l.take k).drop j = (l.take k).drop i := by
  have widths : k - i = (j - i) + (k - j) := by omega
  rw [List.drop_take, List.drop_take, List.drop_take, widths, List.take_add, List.drop_drop,
    Nat.add_sub_cancel' first]

theorem bytes_take (sizes : List UInt8) {i j : Nat} (ordered : i ≤ j) :
    Graphemes.bytes (sizes.take i) + Graphemes.bytes ((sizes.take j).drop i) =
      Graphemes.bytes (sizes.take j) := by
  have cut := take_drop_append sizes i.zero_le ordered
  rw [List.drop_zero, List.drop_zero] at cut
  conv_rhs => rw [← cut]
  simp [Graphemes.bytes]

theorem slice_eq {g : Graphemes} (within : Graphemes.bytes g.sizes ≤ g.original.length) {i j : Nat}
    (ordered : i ≤ j) (inside : j ≤ g.sizes.length) :
    g.slice i j = some
      { original := (g.original.take (Graphemes.bytes (g.sizes.take j))).drop
          (Graphemes.bytes (g.sizes.take i))
        sizes := (g.sizes.take j).drop i } := by
  have fits := bytes_take g.sizes inside
  rw [List.take_length] at fits
  simp only [Graphemes.slice, bytes_take g.sizes ordered]
  exact if_pos ⟨ordered, inside, by omega⟩

/-- The slices of a string are additive just when no cluster has 256 bytes or more. -/
theorem slices_add_iff (seg : Segmenter) (str : List UInt8) :
    Additive (prepareGraphemes seg str) ↔ ∀ n ∈ seg.clusters str.length seg.start str, n < 256 := by
  obtain ⟨fewer, stored⟩ := bytes_stored (seg.clusters str.length seg.start str)
  rw [clusters_sum seg le_rfl] at fewer stored
  rw [← stored]
  have within : Graphemes.bytes (prepareGraphemes seg str).sizes ≤ str.length := fewer
  have whole :
      ((prepareGraphemes seg str).slice 0 (prepareGraphemes seg str).sizes.length).map (·.original) =
      some (str.take (Graphemes.bytes (prepareGraphemes seg str).sizes)) := by
    rw [slice_eq within (Nat.zero_le _) le_rfl, List.take_length]
    rfl
  constructor
  · intro additive
    have kept := congrArg List.length (Option.some.inj (whole.symm.trans additive.whole))
    rw [List.length_take, min_eq_left within] at kept
    exact kept
  · intro same
    refine ⟨fun i j k first second inside => ⟨_, _, slice_eq within first (second.trans inside),
      slice_eq within second inside, ?_⟩, ?_⟩
    · rw [slice_eq within (first.trans second) inside, Graphemes.append,
        take_drop_append _ first second, take_drop_append]
      · have := bytes_take (prepareGraphemes seg str).sizes first
        omega
      · have := bytes_take (prepareGraphemes seg str).sizes second
        omega
    · rw [whole]
      exact congrArg some (List.take_of_length_le same.ge)

/-- The bytes of the combining acute accents that a string starts with. -/
def accents : List UInt8 → Nat
  | 0xCC :: 0x81 :: rest => 2 + accents rest
  | _ => 0

/-- A segmenter of ASCII characters, each with the accents that follow it, up to the end. -/
def accented : Segmenter where
  State := Unit
  start := ()
  step _ str := (min str.length (1 + accents str.tail), ())
  positive _ _ nonempty := lt_min (List.length_pos_of_ne_nil nonempty) (Nat.lt_add_right _ one_pos)
  within _ _ := min_le_left ..

/-- An `a` with 128 accents is one cluster of 257 bytes, of which one is left. -/
theorem cluster_lost :
    ¬ Additive (prepareGraphemes accented (97 :: (List.replicate 128 [0xCC, 0x81]).flatten)) := by
  intro additive
  have whole := additive.whole
  revert whole
  decide +kernel

end LastochkaServer.Guarantees.Slices
