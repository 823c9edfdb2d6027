import Mathlib.Data.List.Induction
import LastochkaServer.Source.Cluster.Ring

/-!
# Placement of keys on the hash ring

Who owns a key on the ring of `server/ringhash/ringhash.go` depends on the set of elements alone:
the owner is the least element that is not before the key, or the least of all. Elements of
different nodes may collide in hash value; then their names decide, both in the order of the ring
and in the search.

A ring that `Add` was never called on has no signature at all, so the nodes of a ring come in one
call at least.
-/

namespace LastochkaServer.Guarantees.RingPlacement

open Source.Clustering

/-- The ring after a number of calls of `Add`. -/
def build (hf : Hashing) (replicas : Nat) (batches : List (List String)) : Ring :=
  batches.foldl (fun ring keys => ring.add hf replicas keys) {}

section

variable (hf : Hashing) (replicas : Nat)

theorem build_snoc (batches : List (List String)) (keys : List String) :
    build hf replicas (batches ++ [keys]) = (build hf replicas batches).add hf replicas keys := by
  rw [build, List.foldl_append]
  rfl

theorem build_keys (batches : List (List String)) :
    (build hf replicas batches).keys =
    (batches.flatten.flatMap (replicasOf hf replicas)).insertionSort Elem.le := by
  induction batches using List.reverseRecOn with
  | nil => rfl
  | append_singleton batches keys ih =>
    rw [build_snoc, List.flatten_append, List.flatMap_append]
    refine insertionSort_congr ?_
    rw [ih]
    refine (List.perm_insertionSort _ _).append ?_
    simp

theorem build_sorted (batches : List (List String)) :
    (build hf replicas batches).keys.Pairwise Elem.le := by
  rw [build_keys]
  exact List.pairwise_insertionSort Elem.le _

theorem build_signature (first : List String) (rest : List (List String)) :
    (build hf replicas (first :: rest)).signature =
    hf.digest (build hf replicas (first :: rest)).keys := by
  rcases List.eq_nil_or_concat rest with rfl | ⟨front, last, rfl⟩
  · rfl
  · rw [List.concat_eq_append, ← List.cons_append, build_snoc]
    rfl

theorem mem_build {batches : List (List String)} {el : Elem} :
    el ∈ (build hf replicas batches).keys ↔
      ∃ name ∈ batches.flatten, el ∈ replicasOf hf replicas name := by
  rw [build_keys, List.mem_insertionSort, List.mem_flatMap]

end

/-- The first element with a property in a sorted list is the least of those that have it. -/
theorem find?_sorted {xs : List Elem} (sorted : xs.Pairwise Elem.le) (p : Elem → Bool) (el : Elem) :
    xs.find? p = some el ↔ el ∈ xs ∧ p el ∧ ∀ x ∈ xs, p x → Elem.le el x := by
  constructor
  · intro found
    obtain ⟨holds, front, rest, rfl, before⟩ := List.find?_eq_some_iff_append.mp found
    refine ⟨by simp, holds, fun x mem has => ?_⟩
    rcases List.mem_append.mp mem with early | late
    · have fails := before x early
      rw [has] at fails
      cases fails
    · rcases List.mem_cons.mp late with rfl | late
      · exact (Std.Total.total x x).elim id id
      · exact (List.pairwise_cons.mp (List.pairwise_append.mp sorted).2.1).1 x late
  · rintro ⟨mem, holds, least⟩
    cases found : xs.find? p with
    | none => exact absurd holds (List.find?_eq_none.mp found el mem)
    | some first =>
      have le : Elem.le el first :=
        least first (List.mem_of_find?_eq_some found) (List.find?_some found)
      obtain ⟨-, front, rest, rfl, before⟩ := List.find?_eq_some_iff_append.mp found
      rcases List.mem_append.mp mem with early | late
      · have fails := before el early
        rw [holds] at fails
        cases fails
      · rcases List.mem_cons.mp late with rfl | late
        · rfl
        · have ge := (List.pairwise_cons.mp (List.pairwise_append.mp sorted).2.1).1 el late
          rw [Std.Antisymm.antisymm _ _ le ge]

/-- In a larger list the first element with a property is the same or a new one. -/
theorem find?_larger {xs ys : List Elem} (small : xs.Pairwise Elem.le) (large : ys.Pairwise Elem.le)
    (subset : ∀ el ∈ xs, el ∈ ys) (p : Elem → Bool) :
    ys.find? p = xs.find? p ∨ ∃ el ∈ ys, el ∉ xs ∧ ys.find? p = some el := by
  cases found : ys.find? p with
  | none =>
    left
    refine (List.find?_eq_none.mpr fun el mem => ?_).symm
    exact List.find?_eq_none.mp found el (subset el mem)
  | some el =>
    obtain ⟨mem, holds, least⟩ := (find?_sorted large p el).mp found
    by_cases old : el ∈ xs
    · left
      refine ((find?_sorted small p el).mpr ⟨old, holds, fun x stored has => ?_⟩).symm
      exact least x (subset x stored) has
    · exact .inr ⟨el, mem, old, rfl⟩

theorem head?_eq_find? (xs : List Elem) : xs.head? = xs.find? fun _ => true := by
  cases xs <;> rfl

/-- With more elements a key keeps its owner or goes to the node of a new element. -/
theorem get_larger (hf : Hashing) {old new : Ring} (small : old.keys.Pairwise Elem.le)
    (large : new.keys.Pairwise Elem.le)
    (subset : ∀ el ∈ old.keys, el ∈ new.keys) (key : String) :
    new.get hf key = old.get hf key ∨ ∃ el ∈ new.keys, el ∉ old.keys ∧ new.get hf key = el.key := by
  unfold Ring.get
  dsimp only
  rw [head?_eq_find?, head?_eq_find?]
  rcases find?_larger small large subset
    (fun el => hf.hashfunc key < el.hash ∨
      (el.hash = hf.hashfunc key ∧ key ≤ el.key)) with same | ⟨el, mem, fresh, found⟩
  · rw [same]
    split
    · exact .inl rfl
    · -- the key is after all elements and wraps around
      rcases find?_larger small large subset fun _ => true with same' | ⟨el, mem, fresh, found⟩
      · rw [same']
        exact .inl rfl
      · rw [found]
        exact .inr ⟨el, mem, fresh, rfl⟩
  · rw [found]
    exact .inr ⟨el, mem, fresh, rfl⟩

/-- Whatever the hash function, the number of replicas and the nodes: owners and signature do not
depend on the order in which the nodes are added nor on how they are divided among the calls of
`Add`, and further nodes take keys only to themselves. -/
theorem placement_canonical (hf : Hashing) (replicas : Nat) :
    (∀ (first first' : List String) (rest rest' : List (List String)),
      (first :: rest).flatten.Perm (first' :: rest').flatten →
        (∀ key, (build hf replicas (first :: rest)).bisect hf key =
          (build hf replicas (first' :: rest')).bisect hf key) ∧
        (build hf replicas (first :: rest)).signature =
        (build hf replicas (first' :: rest')).signature) ∧
    ∀ (batches further : List (List String)) (key : String),
      (build hf replicas (batches ++ further)).bisect hf key =
        (build hf replicas batches).bisect hf key ∨
        (build hf replicas (batches ++ further)).bisect hf key ∈ further.flatten := by
  constructor
  · intro first first' rest rest' same
    have keys :
        (build hf replicas (first :: rest)).keys = (build hf replicas (first' :: rest')).keys := by
      rw [build_keys, build_keys]
      exact insertionSort_congr (same.flatMap_right _)
    refine ⟨fun key => ?_, ?_⟩
    · unfold Ring.bisect
      rw [keys]
    · rw [build_signature, build_signature, keys]
  · intro batches further key
    rw [bisect_eq_get hf (build_sorted ..), bisect_eq_get hf (build_sorted ..)]
    have subset : ∀ el ∈ (build hf replicas batches).keys, el ∈
        (build hf replicas (batches ++ further)).keys := by
      intro el member
      obtain ⟨name, added, replica⟩ := (mem_build hf replicas).mp member
      refine (mem_build hf replicas).mpr ⟨name, ?_, replica⟩
      rw [List.flatten_append]
      exact List.mem_append_left _ added
    refine (get_larger hf (build_sorted ..) (build_sorted ..) subset key).imp_right ?_
    rintro ⟨el, member, fresh, owner⟩
    obtain ⟨name, added, replica⟩ := (mem_build hf replicas).mp member
    rw [List.flatten_append] at added
    obtain ⟨i, -, rfl⟩ := List.mem_map.mp replica
    rw [owner]
    rcases List.mem_append.mp added with old | new
    · exact absurd ((mem_build hf replicas).mpr ⟨name, old, replica⟩) fresh
    · exact new

/-- All replicas collide. -/
def oneHash : Hashing where
  hashfunc _ := 7
  digest keys := String.join (keys.map (·.key))

theorem colliding_nodes_placed :
    [["b"], ["a"]].flatten.Perm [["a", "b"]].flatten ∧
      (build oneHash 2 [["b"], ["a"]]).bisect oneHash "b" =
      (build oneHash 2 [["a", "b"]]).bisect oneHash "b" ∧
      (build oneHash 2 [["b"], ["a"]]).signature = (build oneHash 2 [["a", "b"]]).signature := by
  have same : [["b"], ["a"]].flatten.Perm [["a", "b"]].flatten := .swap ..
  obtain ⟨owners, signature⟩ := (placement_canonical oneHash 2).1 ["b"] ["a", "b"] [["a"]] [] same
  exact ⟨same, owners "b", signature⟩

end LastochkaServer.Guarantees.RingPlacement
