import LastochkaServer.Source.Topic.DelMsg

/-!
# Functions on ranges of message ids

`SliceToRanges` (`server/store/types/types.go:1290-1316`), `RangesToSql`
(`server/db/common/common.go:76-96`) and `calculateUnreadInRanges` (`server/topic.go:4059-4095`)
against the ids that a list of ranges stands for.
-/

namespace LastochkaServer.Guarantees.MessageRanges

open Source Source.Range

/-- The exclusive end of a range. -/
def stop (r : Range) : Int :=
  if r.hi = 0 then r.low + 1 else r.hi

theorem mem_iff (r : Range) (id : Int) : r.Mem id ↔ r.low ≤ id ∧ id < stop r := by
  unfold Range.Mem stop
  split <;> omega

/-- The ranges stand for the ids, are sorted and disjoint, and consecutive ids share a range. -/
def Summarises (ranges : List Range) (ids : List Int) : Prop :=
  (∀ id, Covered ranges id ↔ id ∈ ids) ∧ ranges.Pairwise (fun a b => stop a ≤ b.low) ∧
    ∀ id ∈ ids, id + 1 ∈ ids → ∃ r ∈ ranges, r.Mem id ∧ r.Mem (id + 1)

theorem sliceStep_single (seen : List Int) {id : Int} (pos : 0 < id) :
    sliceStep (seen.map (⟨·, 0⟩)) id = (seen ++ [id]).map (⟨·, 0⟩) := by
  unfold sliceStep
  rcases List.eq_nil_or_concat' seen with rfl | ⟨front, last, rfl⟩
  · rfl
  · simp [pos]

/-- Positive ids are never joined. -/
theorem sliceToRanges_single {ids : List Int} (pos : ∀ id ∈ ids, 0 < id) :
    sliceToRanges ids = ids.map (⟨·, 0⟩) := by
  have scanned (seen : List Int) :
      ids.foldl sliceStep (seen.map (⟨·, 0⟩)) = (seen ++ ids).map (⟨·, 0⟩) := by
    induction ids generalizing seen with
    | nil => simp
    | cons id rest ih =>
      rw [List.forall_mem_cons] at pos
      rw [List.foldl_cons, sliceStep_single seen pos.1, ih pos.2]
      simp
  exact scanned []

/-- The ranges of a list of message ids are what they should be if and only if the list is ascending
with no id repeated and no two ids consecutive. -/
theorem sliceToRanges_summarises_iff (ids : List Int) (positive : ∀ id ∈ ids, 0 < id) :
    Summarises (sliceToRanges ids) ids ↔ ids.Pairwise (fun a b => a + 1 < b) := by
  rw [sliceToRanges_single positive]
  constructor
  · rintro ⟨-, disjoint, maximal⟩
    have distinct : ids.Pairwise (· < ·) :=
      (List.pairwise_map.mp disjoint).imp fun {a b} => by simp [stop]
    refine distinct.imp_of_mem fun {a b} first second less => ?_
    by_contra close
    have next : b = a + 1 := by omega
    obtain ⟨r, made, low, high⟩ := maximal a first (next ▸ second)
    obtain ⟨id, -, rfl⟩ := List.mem_map.mp made
    simp only [Range.Mem, if_true] at low high
    omega
  · intro spread
    refine ⟨fun id =>
      by simp [Covered, Range.Mem], List.pairwise_map.mpr (spread.imp fun {a b} => ?_), ?_⟩
    · simp only [stop, if_true]
      omega
    · intro id first second
      have : Std.Symm fun a b : Int => a + 1 < b ∨ b + 1 < a := ⟨fun _ _ => Or.symm⟩
      have apart : ids.Pairwise fun a b => a + 1 < b ∨ b + 1 < a := spread.imp .inl
      have := apart.forall first second (by omega)
      omega

theorem gaps_summarised :
    (∀ id ∈ [1, 3, 7], (0 : Int) < id) ∧ Summarises (sliceToRanges [1, 3, 7]) [1, 3, 7] :=
  ⟨by decide, (sliceToRanges_summarises_iff [1, 3, 7] (by decide)).mpr (by decide)⟩

/-- Three consecutive ids are three ranges, and a repeated id is two equal ranges. -/
theorem consecutive_not_joined :
    sliceToRanges [1, 2, 3] = [⟨1, 0⟩, ⟨2, 0⟩, ⟨3, 0⟩] ∧
      ¬ Summarises (sliceToRanges [1, 2, 3]) [1, 2, 3] ∧
      sliceToRanges [4, 4] = [⟨4, 0⟩, ⟨4, 0⟩] ∧ ¬ Summarises (sliceToRanges [4, 4]) [4, 4] := by
  refine ⟨by decide, fun good => ?_, by decide, fun good => ?_⟩
  · have shared := good.2.2 1 (by decide) (by decide)
    revert shared
    decide
  · have apart := good.2.1
    revert apart
    decide

variable {readID lastID : Int} {ranges : List Range}

theorem share_card (readID lastID : Int) (r : Range) :
    (({id ∈ Finset.Ioc readID lastID | r.Mem id}).card : Int) =
      max 0 (min (lastID + 1) (stop r) - max (readID + 1) r.low) := by
  have interval : {id ∈ Finset.Ioc readID lastID | r.Mem id} =
      Finset.Ico (max (readID + 1) r.low) (min (lastID + 1) (stop r)) := by
    ext id
    simp only [Finset.mem_filter, Finset.mem_Ioc, mem_iff, Finset.mem_Ico]
    omega
  rw [interval, Int.card_Ico]
  omega

/-- A loop that adds up what each of the disjoint ranges has of an interval counts what all of them
have. -/
theorem foldl_shares {step : Int → Range → Int}
    (adds : ∀ count r, step count r = count + ({id ∈ Finset.Ioc readID lastID | r.Mem id}).card)
    (disjoint : ranges.Pairwise fun a b => ∀ id, ¬ (a.Mem id ∧ b.Mem id)) (count : Int) :
    ranges.foldl step count =
      count + ({id ∈ Finset.Ioc readID lastID | ∃ r ∈ ranges, r.Mem id}).card := by
  induction ranges generalizing count with
  | nil => simp
  | cons r rest ih =>
    obtain ⟨apart, disjoint⟩ := List.pairwise_cons.mp disjoint
    have separate : Disjoint {id ∈ Finset.Ioc readID lastID | r.Mem id}
        {id ∈ Finset.Ioc readID lastID | ∃ r ∈ rest, r.Mem id} := by
      refine Finset.disjoint_filter.mpr fun id _ inFirst => ?_
      rintro ⟨r', later, inLater⟩
      exact apart r' later id ⟨inFirst, inLater⟩
    rw [List.foldl_cons, ih disjoint, adds]
    simp only [List.exists_mem_cons_iff]
    rw [Finset.filter_or, Finset.card_union_of_disjoint separate]
    push_cast
    ring

/-- `calculateUnreadInRanges` is the number of ids above `readID` and up to `lastID` that belong to
some range, for every list of disjoint ranges. -/
theorem calculateUnreadInRanges_card (readID lastID : Int) (ranges : List Range)
    (disjoint : ranges.Pairwise fun a b => ∀ id, ¬ (a.Mem id ∧ b.Mem id)) :
    calculateUnreadInRanges readID lastID ranges =
      ({id ∈ Finset.Ioc readID lastID | ∃ r ∈ ranges, r.Mem id}).card := by
  unfold calculateUnreadInRanges
  split
  · next read => simp [Finset.Ioc_eq_empty (not_lt.mpr read)]
  · refine (foldl_shares (fun count r => ?_) disjoint 0).trans (zero_add _)
    rw [share_card]
    dsimp [stop]
    split_ifs <;> omega

theorem unread_counted :
    [(⟨1, 3⟩ : Range), ⟨5, 0⟩].Pairwise (fun a b => ∀ id, ¬ (a.Mem id ∧ b.Mem id)) ∧
      calculateUnreadInRanges 1 9 [⟨1, 3⟩, ⟨5, 0⟩] =
        ({id ∈ Finset.Ioc 1 9 | ∃ r ∈ [(⟨1, 3⟩ : Range), ⟨5, 0⟩], r.Mem id}).card := by
  have disjoint : [(⟨1, 3⟩ : Range), ⟨5, 0⟩].Pairwise (fun a b => ∀ id, ¬ (a.Mem id ∧ b.Mem id)) := by
    simp only [List.pairwise_cons, List.mem_singleton, forall_eq, Range.Mem]
    refine ⟨fun id => ?_, by simp⟩
    simp only [OfNat.ofNat_ne_zero, if_false, if_true]
    omega
  exact ⟨disjoint, calculateUnreadInRanges_card 1 9 _ disjoint⟩

end LastochkaServer.Guarantees.MessageRanges
