import Mathlib.Algebra.Group.Nat.Defs
import Mathlib.Data.Int.Range
import Mathlib.Data.List.Sort

/-!
# Ranges of message ids

`Range`, `RangeSorter`, `Normalize` and `SliceToRanges` of `server/store/types/types.go:1229-1316`,
the wire form `MsgRange` of `server/datamodel.go:96-108`, and `RangesToSql` of
`server/db/common/common.go:76-96`.

The comparator `Less` holds for two equal ranges. Ranges it cannot tell apart are identical, so
there is one sorted arrangement of a list and `sort.Sort` is modelled by insertion sort.
-/

namespace LastochkaServer.Source

/-- `MsgRange`: `[lowId, hiId)` as the client sends it. -/
structure MsgRange where
  lowId : Int
  hiId : Int := 0
  deriving DecidableEq, Repr

/-- `Range`: `[low, hi)`, or the single id `low` when `hi` is zero. -/
structure Range where
  low : Int
  hi : Int := 0
  deriving DecidableEq, Repr

/-- The ids a requested range asks for: `hiId` equal to zero or to `lowId` means one id. -/
def MsgRange.Mem (q : MsgRange) (id : Int) : Prop :=
  if q.hiId = 0 ∨ q.hiId = q.lowId then id = q.lowId else q.lowId ≤ id ∧ id < q.hiId

namespace Range

/-- The ids of a stored range. -/
def Mem (r : Range) (id : Int) : Prop :=
  if r.hi = 0 then id = r.low else r.low ≤ id ∧ id < r.hi
  deriving Decidable

/-- The ids of a list of ranges. -/
def Covered (rs : List Range) (id : Int) : Prop :=
  ∃ r ∈ rs, r.Mem id

/-- `Less`: by `low` ascending, then by `hi` descending. -/
def Less (a b : Range) : Prop :=
  a.low < b.low ∨ (a.low = b.low ∧ a.hi ≥ b.hi)
  deriving Decidable

/-- `sort.Sort(RangeSorter(rs))`. -/
def sort (rs : List Range) : List Range :=
  rs.insertionSort Less

/-- The body of `Normalize`'s loop: the ranges, rewritten in place, and `prev`. -/
def normalizeStep (state : List Range × Nat) (i : Nat) : List Range × Nat :=
  let (rs, prev) := state
  let p := rs.getD prev ⟨0, 0⟩
  let r := rs.getD i ⟨0, 0⟩
  if p.low = r.low then (rs, prev)
  else if p.hi > 0 ∧ p.hi + 1 ≥ r.low then
    (if p.hi < r.hi then rs.set prev { p with hi := r.hi } else rs, prev)
  else (rs, prev + 1)

def normalize (rs : List Range) : List Range :=
  if rs.length > 1 then
    let (rs, prev) := (List.range' 1 (rs.length - 1)).foldl normalizeStep (rs, 0)
    rs.take (prev + 1)
  else rs

/-- The body of the loop of `SliceToRanges`. -/
def sliceStep (out : List Range) (id : Int) : List Range :=
  match out.getLast? with
  | none => [⟨id, 0⟩]
  | some prev =>
    if (prev.hi = 0 ∧ id ≠ prev.low + 1) ∨ id > prev.hi then out ++ [⟨id, 0⟩]
    else out.dropLast ++ [{ prev with hi := id + 1 }]

def sliceToRanges (ids : List Int) : List Range :=
  ids.foldl sliceStep []

/-- The arguments `RangesToSql` makes of one range. -/
def ids (r : Range) : List Int :=
  if r.hi = 0 then [r.low] else Int.range r.low r.hi

theorem less_trans (a b c : Range) (ab : Less a b) (bc : Less b c) : Less a c := by
  simp only [Less] at *
  omega

theorem less_total (a b : Range) : Less a b ∨ Less b a := by
  simp only [Less]
  omega

instance : IsTrans Range Less := ⟨less_trans⟩
instance : Std.Total Less := ⟨less_total⟩

theorem sort_pairwise (rs : List Range) : (sort rs).Pairwise Less :=
  List.pairwise_insertionSort Less rs

theorem covered_sort (rs : List Range) (id : Int) : Covered (sort rs) id ↔ Covered rs id := by
  simp [Covered, sort, (List.perm_insertionSort Less rs).mem_iff]

@[simp] theorem covered_append (rs rs' : List Range) (id : Int) :
    Covered (rs ++ rs') id ↔ Covered rs id ∨ Covered rs' id := by
  simp [Covered, or_and_right, exists_or]

@[simp] theorem covered_cons (r : Range) (rs : List Range) (id : Int) :
    Covered (r :: rs) id ↔ r.Mem id ∨ Covered rs id := by
  simp [Covered]

@[simp] theorem not_covered_nil (id : Int) : ¬ Covered [] id := by
  simp [Covered]

theorem Mem.low_le {r : Range} {id : Int} (mem : r.Mem id) : r.low ≤ id := by
  unfold Mem at mem
  split at mem <;> omega

/-- The loop treats `r` as overlapping the kept range `p` and drops it. -/
def Absorbs (p r : Range) : Prop :=
  p.low = r.low ∨ (p.hi > 0 ∧ p.hi + 1 ≥ r.low)
  deriving Decidable

/-- The kept range after it has absorbed `r`. -/
def extend (p r : Range) : Range :=
  if p.low = r.low then p else if p.hi < r.hi then { p with hi := r.hi } else p

/-- All of `rs` is absorbed, one range after the other, by a kept range that starts as `p`. -/
def AbsorbsAll (p : Range) : List Range → Prop
  | [] => True
  | r :: rs => Absorbs p r ∧ AbsorbsAll (extend p r) rs

instance decidableAbsorbsAll : ∀ (rs : List Range) (p : Range), Decidable (AbsorbsAll p rs)
  | [], _ => .isTrue trivial
  | r :: rs, p =>
    have : Decidable (AbsorbsAll (extend p r) rs) := decidableAbsorbsAll rs (extend p r)
    inferInstanceAs (Decidable (Absorbs p r ∧ AbsorbsAll (extend p r) rs))

theorem normalizeStep_absorbs (front seen rest : List Range) (p r : Range) (absorbed : Absorbs p r) :
    normalizeStep (front ++ p :: (seen ++ r :: rest), front.length)
        (front.length + 1 + seen.length) =
      (front ++ extend p r :: (seen ++ r :: rest), front.length) := by
  have kept : (front ++ p :: (seen ++ r :: rest)).getD front.length ⟨0, 0⟩ = p := by simp
  have next :
      (front ++ p :: (seen ++ r :: rest)).getD (front.length + 1 + seen.length) ⟨0, 0⟩ = r := by
    have position : front.length + 1 + seen.length - front.length = seen.length + 1 := by omega
    rw [List.getD_eq_getElem?_getD, List.getElem?_append_right (by omega), position]
    simp
  simp only [normalizeStep, kept, next, extend]
  rcases absorbed with same | overlap
  · simp [same]
  · by_cases same : p.low = r.low
    · simp [same]
    · by_cases wider : p.hi < r.hi <;> simp [same, overlap, wider]

theorem normalizeStep_clear (front rest : List Range) (p r : Range) (clear : ¬ Absorbs p r) :
    normalizeStep (front ++ p :: r :: rest, front.length) (front.length + 1) =
      (front ++ p :: r :: rest, front.length + 1) := by
  have kept : (front ++ p :: r :: rest).getD front.length ⟨0, 0⟩ = p := by simp
  have next : (front ++ p :: r :: rest).getD (front.length + 1) ⟨0, 0⟩ = r := by
    simp
  obtain ⟨lows, overlap⟩ := not_or.mp clear
  simp only [normalizeStep, kept, next, lows, overlap, if_false]

theorem foldl_absorbs (front seen rest : List Range) (p : Range) (absorbed : AbsorbsAll p rest) :
    (List.range' (front.length + 1 + seen.length) rest.length).foldl normalizeStep
        (front ++ p :: (seen ++ rest), front.length) =
      (front ++ rest.foldl extend p :: (seen ++ rest), front.length) := by
  induction rest generalizing seen p with
  | nil => rfl
  | cons r rest ih =>
    rw [List.length_cons, List.range'_succ, List.foldl_cons,
      normalizeStep_absorbs front seen rest p r absorbed.1]
    have next := ih (seen ++ [r]) (extend p r) absorbed.2
    simpa [Nat.add_assoc] using next

theorem foldl_clear (front middle rest : List Range) (last : Range)
    (clear : List.IsChain (fun p r => ¬ Absorbs p r) (middle ++ [last])) :
    (List.range' (front.length + 1) (middle.length + rest.length)).foldl normalizeStep
        (front ++ (middle ++ last :: rest), front.length) =
      (List.range' (front.length + middle.length + 1) rest.length).foldl normalizeStep
        (front ++ (middle ++ last :: rest), front.length + middle.length) := by
  induction middle generalizing front with
  | nil => simp
  | cons p middle ih =>
    -- the head of what follows `p` is the next range of the chain, `last` at the latest
    obtain ⟨r, tail, split⟩ : ∃ r tail, middle ++ last :: rest = r :: tail := by
      cases middle with
      | nil => exact ⟨last, rest, rfl⟩
      | cons r middle => exact ⟨r, middle ++ last :: rest, rfl⟩
    have apart : ¬ Absorbs p r := by
      cases middle with
      | nil =>
        simp only [List.nil_append, List.cons.injEq] at split
        rw [← split.1]
        exact (List.isChain_cons_cons.mp clear).1
      | cons m middle =>
        simp only [List.cons_append, List.cons.injEq] at split
        rw [← split.1]
        exact (List.isChain_cons_cons.mp clear).1
    have later := ih (front ++ [p]) (List.IsChain.of_cons clear)
    have counted : (p :: middle).length + rest.length = (middle.length + rest.length) + 1 := by
      simp only [List.length_cons]
      omega
    rw [counted, List.range'_succ, List.foldl_cons, List.cons_append, split,
      normalizeStep_clear front tail p r apart, ← split]
    simpa [Nat.add_assoc, Nat.add_comm, Nat.add_left_comm] using later

/-- Where only the ranges at the end are absorbed, `Normalize` keeps the ranges before them and
extends the one they are absorbed by. -/
theorem normalize_eq (front rest : List Range) (last : Range)
    (clear : List.IsChain (fun p r => ¬ Absorbs p r) (front ++ [last]))
    (absorbed : AbsorbsAll last rest) :
    normalize (front ++ last :: rest) = front ++ [rest.foldl extend last] := by
  have scanned := (foldl_clear [] front rest last clear).trans
    (by simpa using foldl_absorbs front [] rest last absorbed)
  have counted : (front ++ last :: rest).length - 1 = front.length + rest.length := by
    simp only [List.length_append, List.length_cons]
    omega
  simp only [List.length_nil, Nat.zero_add, List.nil_append] at scanned
  unfold normalize
  rw [counted, scanned]
  by_cases several : (front ++ last :: rest).length > 1
  · rw [if_pos several]
    simp [List.take_append, List.take_of_length_le]
  · have short : front = [] ∧ rest = [] := by
      exact ⟨List.length_eq_zero_iff.mp (by omega), List.length_eq_zero_iff.mp (by omega)⟩
    rw [if_neg several, short.1, short.2]
    rfl

end Range

end LastochkaServer.Source
