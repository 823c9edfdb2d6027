import Mathlib.Data.List.Sort
import Mathlib.Data.String.Basic
import LastochkaServer.Lib.Search

/-!
# The hash ring

The consistent hash of `server/ringhash/ringhash.go`. A ring holds `replicas` elements for each
node, sorted by their hashes and names. The hash of the elements and the digest that the signature
is made of are parameters: nothing here depends on the functions that the source uses, CRC-32 and
FNV-1a.
-/

namespace LastochkaServer.Source.Clustering

structure Elem where
  hash : UInt32
  key : String
  deriving DecidableEq, Repr

/-- The functions that a ring is made with. -/
structure Hashing where
  hashfunc : String → UInt32
  digest : List Elem → String

/-- The order of `sortable.Less`, made reflexive. -/
def Elem.le (a b : Elem) : Prop := a.hash < b.hash ∨ (a.hash = b.hash ∧ a.key ≤ b.key)
  deriving Decidable

structure Ring where
  keys : List Elem := []
  signature : String := ""
  deriving DecidableEq, Repr

/-- The elements that `Add` appends for a node. -/
def replicasOf (hf : Hashing) (replicas : Nat) (key : String) : List Elem :=
  (List.range replicas).map fun i => { hash := hf.hashfunc (toString i ++ key), key }

def Ring.add (hf : Hashing) (replicas : Nat) (ring : Ring) (keys : List String) : Ring :=
  let sorted := (ring.keys ++ keys.flatMap (replicasOf hf replicas)).insertionSort Elem.le
  { keys := sorted, signature := hf.digest sorted }

/-- The first element that is not before the key, in the order that `Get` searches by. -/
def Ring.get (hf : Hashing) (ring : Ring) (key : String) : String :=
  let hash := hf.hashfunc key
  match ring.keys.find? (fun el => hash < el.hash ∨ (el.hash = hash ∧ key ≤ el.key)) with
  | some el => el.key
  | none => (ring.keys.head?.map (·.key)).getD ""

/-- `Get` as the source computes it, by binary search. -/
def Ring.bisect (hf : Hashing) (ring : Ring) (key : String) : String :=
  if ring.keys.length = 0 then ""
  else
    let hash := hf.hashfunc key
    let idx := Lib.search ring.keys.length fun i =>
      ring.keys[i]?.any fun el => hash < el.hash ∨ (el.hash = hash ∧ key ≤ el.key)
    -- past the last replica the ring begins again
    let idx := if idx = ring.keys.length then 0 else idx
    (ring.keys[idx]?.map (·.key)).getD ""

/-- The names of the nodes in the ring. -/
def Ring.nodes (ring : Ring) : List String := ring.keys.map (·.key)

instance : Std.Total Elem.le where
  total a b := by
    unfold Elem.le
    rcases Nat.lt_trichotomy a.hash.toNat b.hash.toNat with less | same | greater
    · exact .inl (.inl (UInt32.lt_iff_toNat_lt.mpr less))
    · have same : a.hash = b.hash := UInt32.toNat_inj.mp same
      rcases le_total a.key b.key with before | after
      · exact .inl (.inr ⟨same, before⟩)
      · exact .inr (.inr ⟨same.symm, after⟩)
    · exact .inr (.inl (UInt32.lt_iff_toNat_lt.mpr greater))

instance : IsTrans Elem Elem.le where
  trans a b c := by
    rintro (less | ⟨same, before⟩) (less' | ⟨same', before'⟩)
    · exact .inl (UInt32.lt_trans less less')
    · exact .inl (same' ▸ less)
    · exact .inl (same ▸ less')
    · exact .inr ⟨same.trans same', before.trans before'⟩

instance : Std.Antisymm Elem.le where
  antisymm a b := by
    rintro (less | ⟨same, before⟩) (less' | ⟨same', before'⟩)
    · exact absurd less' (UInt32.lt_asymm less)
    · exact absurd less (same' ▸ UInt32.lt_irrefl _)
    · exact absurd less' (same ▸ UInt32.lt_irrefl _)
    · cases a
      cases b
      cases same
      cases le_antisymm before before'
      rfl

theorem insertionSort_congr {xs ys : List Elem} (same : xs.Perm ys) :
    xs.insertionSort Elem.le = ys.insertionSort Elem.le :=
  List.Perm.eq_of_pairwise'
    (List.pairwise_insertionSort Elem.le xs) (List.pairwise_insertionSort Elem.le ys)
    (((List.perm_insertionSort _ xs).trans same).trans (List.perm_insertionSort _ ys).symm)

theorem add_congr (hf : Hashing) (replicas : Nat) (ring : Ring) {xs ys : List String}
    (same : xs.Perm ys) :
    ring.add hf replicas xs = ring.add hf replicas ys := by
  have sorted :=
    insertionSort_congr
      (List.Perm.append_left ring.keys (same.flatMap_right (replicasOf hf replicas)))
  unfold Ring.add
  rw [sorted]

theorem bisect_eq_get (hf : Hashing) {ring : Ring} (sorted : ring.keys.Pairwise Elem.le)
    (key : String) :
    ring.bisect hf key = ring.get hf key := by
  have mono : ring.keys.Pairwise fun a b =>
      decide (hf.hashfunc key < a.hash ∨ (a.hash = hf.hashfunc key ∧ key ≤ a.key)) →
        decide (hf.hashfunc key < b.hash ∨ (b.hash = hf.hashfunc key ∧ key ≤ b.key)) := by
    refine sorted.imp fun {a b} before => ?_
    simp only [decide_eq_true_eq]
    rintro (less | ⟨same, after⟩) <;> rcases before with less' | ⟨same', after'⟩
    · exact .inl (UInt32.lt_trans less less')
    · exact .inl (same' ▸ less)
    · exact .inl (same ▸ less')
    · exact .inr ⟨same' ▸ same, after.trans after'⟩
  unfold Ring.bisect Ring.get
  dsimp only
  rw [Lib.search_eq_findIdx mono, List.find?_eq_getElem?_findIdx]
  generalize found : ring.keys.findIdx _ = idx
  have bound : idx ≤ ring.keys.length := found ▸ List.findIdx_le_length
  rcases Nat.lt_or_eq_of_le bound with inside | rfl
  · rw [if_neg (by omega), if_neg (by omega), List.getElem?_eq_getElem inside]
    rfl
  · rw [List.getElem?_eq_none (Nat.le_refl _), if_pos rfl, ← List.head?_eq_getElem?]
    split
    · next empty =>
      rw [List.length_eq_zero_iff.mp empty]
      rfl
    · rfl

theorem mem_nodes_add {hf : Hashing} {replicas : Nat} (some_replica : 0 < replicas)
    {keys : List String}
    {name : String} : name ∈ (Ring.add hf replicas {} keys).nodes ↔ name ∈ keys := by
  unfold Ring.nodes Ring.add
  simp only [List.nil_append, List.mem_map, List.mem_insertionSort, List.mem_flatMap, replicasOf]
  constructor
  · rintro ⟨el, ⟨key, mem, i, -, rfl⟩, rfl⟩
    exact mem
  · intro mem
    exact ⟨_, ⟨name, mem, 0, List.mem_range.mpr some_replica, rfl⟩, rfl⟩

end LastochkaServer.Source.Clustering
