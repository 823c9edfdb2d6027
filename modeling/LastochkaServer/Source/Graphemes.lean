import Mathlib

/-!
# Grapheme clusters

`server/drafty/grapheme.go:10-77`. A container holds a string, as its bytes, and the sizes of its
clusters, each in one byte.
-/

namespace LastochkaServer.Source

/-- `uniseg.StepString` in a state: the size of the first cluster, a prefix that is not empty, and
the next state. -/
structure Segmenter where
  State : Type
  start : State
  step : State → List UInt8 → Nat × State
  positive : ∀ state str, str ≠ [] → 0 < (step state str).1
  within : ∀ state str, (step state str).1 ≤ str.length

structure Graphemes where
  original : List UInt8
  sizes : List UInt8
  deriving DecidableEq

/-- The loop of `prepareGraphemes`, which ends after as many rounds as there are bytes. -/
def Segmenter.clusters (seg : Segmenter) : (rounds : Nat) → seg.State → List UInt8 → List Nat
  | 0, _, _ => []
  | rounds + 1, state, remaining =>
    if remaining = [] then []
    else
      let next := seg.step state remaining
      next.1 :: seg.clusters rounds next.2 (remaining.drop next.1)

def prepareGraphemes (seg : Segmenter) (str : List UInt8) : Graphemes :=
  { original := str, sizes := (seg.clusters str.length seg.start str).map UInt8.ofNat }

namespace Graphemes

variable (g : Graphemes)

def bytes (sizes : List UInt8) : Nat := (sizes.map UInt8.toNat).sum

/-- An index or an offset out of range panics. -/
def slice (start stop : Nat) : Option Graphemes :=
  let sizes := (g.sizes.take stop).drop start
  let s := bytes (g.sizes.take start)
  let e := s + bytes sizes
  if start ≤ stop ∧ stop ≤ g.sizes.length ∧ e ≤ g.original.length then
    some { original := (g.original.take e).drop s, sizes }
  else none

def append (other : Graphemes) : Graphemes :=
  { original := g.original ++ other.original, sizes := g.sizes ++ other.sizes }

end Graphemes

theorem clusters_sum (seg : Segmenter) {rounds : Nat} {state : seg.State} {str : List UInt8}
    (enough : str.length ≤ rounds) : (seg.clusters rounds state str).sum = str.length := by
  induction rounds generalizing state str with
  | zero => simp [Segmenter.clusters, List.length_eq_zero_iff.mp (Nat.le_zero.mp enough)]
  | succ rounds ih =>
    unfold Segmenter.clusters
    split
    · next empty => simp [empty]
    next nonempty =>
    have pos := seg.positive state str nonempty
    have within := seg.within state str
    rw [List.sum_cons, ih (by rw [List.length_drop]; omega), List.length_drop]
    omega

/-- Sizes that do not fit into a byte are cut. -/
theorem bytes_stored (sizes : List Nat) : Graphemes.bytes (sizes.map UInt8.ofNat) ≤ sizes.sum ∧
    (Graphemes.bytes (sizes.map UInt8.ofNat) = sizes.sum ↔ ∀ n ∈ sizes, n < 256) := by
  induction sizes with
  | nil => simp [Graphemes.bytes]
  | cons n rest ih =>
    have stored : Graphemes.bytes ((n :: rest).map UInt8.ofNat) =
        n % 256 + Graphemes.bytes (rest.map UInt8.ofNat) := by
      simp [Graphemes.bytes]
    rw [stored, List.sum_cons, List.forall_mem_cons, ← ih.2]
    omega

end LastochkaServer.Source
