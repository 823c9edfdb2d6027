import LastochkaServer.Source.Topic.DelMsg

/-!
# Which messages a delete request deletes

A `{del what="msg"}` request names half-open ranges of message ids. `replyDelMsg`
(`server/topic.go:3225-3345`) clips them at the last message, sorts them and merges them by
`Normalize` before it hands them to the store and announces them.

Clipping and sorting keep the requested ids. `Normalize` does not: the branch for a range that
starts clear of the kept one advances `prev` without copying the range, so ranges behind a merged
one are lost; the overlap test `Hi+1 >= Low` joins ranges with one id between them; and a single id
(`Hi` zero) at or just past the end of the kept range is dropped. Where merging happens only at the
end of the sorted list the effect is characterised exactly.
-/

namespace LastochkaServer.Guarantees.DeleteRanges

open Lib Source

variable {lastID : Int} {rest : List Range} {q : MsgRange} {delSeq : List MsgRange} {r : Range}

/-- The ids a request asks to delete: those of its ranges that are not above the last message. -/
def Requested (lastID : Int) (delSeq : List MsgRange) (id : Int) : Prop :=
  id ≤ lastID ∧ ∃ q ∈ delSeq, q.Mem id

theorem mem_clip (valid : invalidEntry lastID q = false) (id : Int) :
    (clip lastID q).Mem id ↔ id ≤ lastID ∧ q.Mem id := by
  simp only [invalidEntry, Bool.or_eq_false_iff, Bool.and_eq_false_iff, decide_eq_false_iff_not,
    beq_eq_false_iff_ne] at valid
  unfold clip
  split_ifs with above single
  all_goals
    simp only [Range.Mem, MsgRange.Mem]
    split_ifs <;> omega

/-- A clipped range is a single id or not empty. -/
theorem clip_proper (valid : invalidEntry lastID q = false) :
    0 ≤ (clip lastID q).low ∧
      ((clip lastID q).hi = 0 ∨ (clip lastID q).low < (clip lastID q).hi) := by
  simp only [invalidEntry, Bool.or_eq_false_iff, Bool.and_eq_false_iff, decide_eq_false_iff_not,
    beq_eq_false_iff_ne] at valid
  unfold clip
  split_ifs <;> constructor <;> dsimp only <;> omega

theorem covered_sortedRanges (valid : ∀ q ∈ delSeq, invalidEntry lastID q = false) (id : Int) :
    Range.Covered (sortedRanges lastID delSeq) id ↔ Requested lastID delSeq id := by
  rw [sortedRanges, Range.covered_sort]
  constructor
  · rintro ⟨r, mem, inside⟩
    obtain ⟨q, asked, rfl⟩ := List.mem_map.mp mem
    obtain ⟨below, inside⟩ := (mem_clip (valid q asked) id).mp inside
    exact ⟨below, q, asked, inside⟩
  · rintro ⟨below, q, asked, inside⟩
    exact ⟨clip lastID q, List.mem_map_of_mem asked,
      (mem_clip (valid q asked) id).mpr ⟨below, inside⟩⟩

theorem sortedRanges_proper (valid : ∀ q ∈ delSeq, invalidEntry lastID q = false) :
    ∀ r ∈ sortedRanges lastID delSeq, 0 ≤ r.low ∧ (r.hi = 0 ∨ r.low < r.hi) := by
  intro r mem
  rw [sortedRanges, Range.sort, (List.perm_insertionSort Range.Less _).mem_iff] at mem
  obtain ⟨q, asked, rfl⟩ := List.mem_map.mp mem
  exact clip_proper (valid q asked)

/-- The highest exclusive end in a group of ranges. -/
def top (hi : Int) (rest : List Range) : Int :=
  rest.foldl (fun e r => max e r.hi) hi

theorem le_top (hi : Int) (rest : List Range) : hi ≤ top hi rest := by
  induction rest generalizing hi with
  | nil => exact Int.le_refl hi
  | cons r rest ih => exact Int.le_trans (Int.le_max_left hi r.hi) (ih (max hi r.hi))

theorem hi_le_top {hi : Int} (mem : r ∈ rest) : r.hi ≤ top hi rest := by
  induction rest generalizing hi with
  | nil => simp at mem
  | cons head rest ih =>
    rcases List.mem_cons.mp mem with rfl | mem
    · exact Int.le_trans (Int.le_max_right hi r.hi) (le_top _ rest)
    · exact ih mem

theorem top_singles (singles : ∀ r ∈ rest, r.hi = 0) : top 0 rest = 0 := by
  induction rest with
  | nil => rfl
  | cons r rest ih =>
    have zero : r.hi = 0 := singles r (by simp)
    simp only [top, List.foldl_cons, zero, max_self]
    exact ih fun r' mem => singles r' (by simp [mem])

/-- The group `last :: rest` has no gap, and its highest id is not given by a single id only. -/
def Gapless (last : Range) (rest : List Range) : Prop :=
  last.hi = 0 ∨
    ((∀ id, last.low ≤ id → id < top last.hi rest → Range.Covered (last :: rest) id) ∧
      ∀ r ∈ rest, r.hi = 0 → r.low < top last.hi rest)

/-- The kept range after it has absorbed a group: same start, highest end. A range with the same
start as the kept one comes later in the order only if it is not wider. -/
theorem foldl_extend (p : Range) (rest : List Range)
    (narrower : ∀ r ∈ rest, p.low = r.low → r.hi ≤ p.hi) :
    rest.foldl Range.extend p = ⟨p.low, top p.hi rest⟩ := by
  induction rest generalizing p with
  | nil => rfl
  | cons r rest ih =>
    have step : Range.extend p r = ⟨p.low, max p.hi r.hi⟩ := by
      unfold Range.extend
      split_ifs with same wider
      · rw [max_eq_left (narrower r (by simp) same)]
      · rw [max_eq_right (by omega)]
      · rw [max_eq_left (by omega)]
    rw [List.foldl_cons, step, ih]
    · rfl
    · intro r' mem same
      exact Int.le_trans (narrower r' (by simp [mem]) same) (Int.le_max_left _ _)

/-- A single id absorbs only ranges that start at it. -/
theorem absorbsAll_single {p : Range} (single : p.hi = 0) (absorbed : Range.AbsorbsAll p rest) :
    ∀ r ∈ rest, p.low = r.low := by
  induction rest with
  | nil => simp
  | cons r rest ih =>
    have start : p.low = r.low := absorbed.1.elim id fun overlap => by omega
    have kept : Range.extend p r = p := if_pos start
    have later := absorbed.2
    rw [kept] at later
    intro r' mem
    rcases List.mem_cons.mp mem with rfl | mem
    · exact start
    · exact ih later r' mem

/-- Ranges in front of `last` that are clear of their successors end below `last`. -/
theorem mem_lt_of_clear {front : List Range} {last : Range}
    (clear : List.IsChain (fun p r => ¬ Range.Absorbs p r) (front ++ [last]))
    (sorted : (front ++ [last]).Pairwise Range.Less) (proper : ∀ r ∈ front, r.hi = 0 ∨ r.low < r.hi)
    (pos : ∀ r ∈ front, 0 ≤ r.low) (mem : r ∈ front) {id : Int} (inside : r.Mem id) :
    id < last.low := by
  induction front with
  | nil => simp at mem
  | cons p front ih =>
    rcases List.mem_cons.mp mem with rfl | mem
    · -- `p` ends below its successor, which does not start after `last`
      obtain ⟨q, tail, split⟩ : ∃ q tail, front ++ [last] = q :: tail := by
        cases front with
        | nil => exact ⟨last, [], rfl⟩
        | cons q front => exact ⟨q, front ++ [last], rfl⟩
      rw [List.cons_append, split] at clear sorted
      have apart := not_or.mp (List.isChain_cons_cons.mp clear).1
      have before : r.low ≤ q.low := by
        have order := (List.pairwise_cons.mp sorted).1 q (by simp)
        rcases order with h | h <;> omega
      have upTo : q.low ≤ last.low := by
        have listed : last ∈ q :: tail := by rw [← split]; simp
        rcases List.mem_cons.mp listed with rfl | later
        · exact Int.le_refl _
        · have order := (List.pairwise_cons.mp (List.pairwise_cons.mp sorted).2).1 last later
          rcases order with h | h <;> omega
      have start := pos r (by simp)
      unfold Range.Mem at inside
      split at inside <;> omega
    · exact ih (List.IsChain.of_cons clear) (List.pairwise_cons.mp sorted).2
        (fun r h => proper r (by simp [h])) (fun r h => pos r (by simp [h])) mem

section Group

variable {front : List Range} {last : Range}

section

variable (grouped : (last :: rest).Pairwise Range.Less)
  (proper : ∀ r ∈ last :: rest, 0 ≤ r.low ∧ (r.hi = 0 ∨ r.low < r.hi))
include grouped

theorem group_order (mem : r ∈ rest) : last.low < r.low ∨ (last.low = r.low ∧ last.hi ≥ r.hi) :=
  (List.pairwise_cons.mp grouped).1 r mem

theorem low_le_of_covered {id : Int} (covered : Range.Covered (last :: rest) id) : last.low ≤ id := by
  obtain ⟨r, mem, inside⟩ := covered
  have start := inside.low_le
  rcases List.mem_cons.mp mem with rfl | mem
  · exact start
  · have := group_order grouped mem
    omega

theorem merged_eq : rest.foldl Range.extend last = ⟨last.low, top last.hi rest⟩ :=
  foldl_extend last rest fun r mem same => by
    have := group_order grouped mem
    omega

include proper

/-- A group that starts with a single id is this id again and again. -/
theorem covered_single (absorbed : Range.AbsorbsAll last rest) (single : last.hi = 0) (id : Int) :
    Range.Covered [⟨last.low, top last.hi rest⟩] id ↔ Range.Covered (last :: rest) id := by
  have starts := absorbsAll_single single absorbed
  have ends : ∀ r ∈ rest, r.hi = 0 := by
    intro r mem
    have := group_order grouped mem
    have := starts r mem
    have := proper r (by simp [mem])
    omega
  simp only [Range.covered_cons, Range.not_covered_nil, or_false, Range.Mem, single,
    top_singles ends, if_true]
  refine ⟨.inl, ?_⟩
  rintro (same | ⟨r, mem, inside⟩)
  · exact same
  · simp only [Range.Mem, ends r mem, if_true] at inside
    rw [inside, starts r mem]

/-- No id of a group without a gap is above the merged range. -/
theorem lt_top_of_covered (ranged : last.hi ≠ 0)
    (tops : ∀ r ∈ rest, r.hi = 0 → r.low < top last.hi rest) {id : Int}
    (covered : Range.Covered (last :: rest) id) : id < top last.hi rest := by
  obtain ⟨r, mem, inside⟩ := covered
  have high : r.hi ≤ top last.hi rest := by
    rcases List.mem_cons.mp mem with rfl | mem
    · exact le_top _ rest
    · exact hi_le_top mem
  unfold Range.Mem at inside
  split at inside
  · next zero =>
    rcases List.mem_cons.mp mem with rfl | mem
    · exact absurd zero ranged
    · rw [inside]
      exact tops r mem zero
  · omega

/-- The merged range has the ids of its group exactly when the group has no gap. -/
theorem group_exact_iff (absorbed : Range.AbsorbsAll last rest) :
    (∀ id, Range.Covered [⟨last.low, top last.hi rest⟩] id ↔ Range.Covered (last :: rest) id) ↔
      Gapless last rest := by
  by_cases single : last.hi = 0
  · exact iff_of_true (covered_single grouped proper absorbed single) (.inl single)
  have shape := proper last (by simp)
  have topped := le_top last.hi rest
  have merged (id : Int) : Range.Covered [⟨last.low, top last.hi rest⟩] id ↔
      last.low ≤ id ∧ id < top last.hi rest := by
    have nonzero : top last.hi rest ≠ 0 := by omega
    simp [Range.Mem, nonzero]
  simp only [merged]
  constructor
  · intro same
    refine .inr ⟨fun id start stop => (same id).mp ⟨start, stop⟩, fun r mem zero => ?_⟩
    have covered : Range.Covered (last :: rest) r.low :=
      ⟨r, by simp [mem], by simp [Range.Mem, zero]⟩
    exact ((same r.low).mpr covered).2
  · rintro (zero | ⟨full, tops⟩) id
    · exact absurd zero single
    · exact ⟨fun inside => full id inside.1 inside.2, fun covered =>
        ⟨low_le_of_covered grouped covered, lt_top_of_covered grouped proper single tops covered⟩⟩

end

/-- Where merging happens only at the end, `Normalize` keeps the ids exactly when the last group
has no gap. -/
theorem normalize_exact_iff (sorted : (front ++ last :: rest).Pairwise Range.Less)
    (proper : ∀ r ∈ front ++ last :: rest, 0 ≤ r.low ∧ (r.hi = 0 ∨ r.low < r.hi))
    (clear : List.IsChain (fun p r => ¬ Range.Absorbs p r) (front ++ [last]))
    (absorbed : Range.AbsorbsAll last rest) :
    (∀ id, Range.Covered (Range.normalize (front ++ last :: rest)) id ↔
        Range.Covered (front ++ last :: rest) id) ↔ Gapless last rest := by
  have grouped : (last :: rest).Pairwise Range.Less := (List.pairwise_append.mp sorted).2.1
  have below : ∀ id, Range.Covered front id → id < last.low := by
    rintro id ⟨r, mem, inside⟩
    refine mem_lt_of_clear clear ?_ (fun r h => (proper r (by simp [h])).2)
      (fun r h => (proper r (by simp [h])).1) mem inside
    exact sorted.sublist (by simp)
  rw [Range.normalize_eq front rest last clear absorbed, merged_eq grouped,
    ← group_exact_iff grouped (fun r mem => proper r (List.mem_append_right _ mem)) absorbed]
  refine forall_congr' fun id => ?_
  simp only [Range.covered_append]
  refine ⟨fun same => ?_, or_congr_right⟩
  -- an id of the group or of the merged range is in none of the ranges in front
  have apart (start : last.low ≤ id) : ¬ Range.Covered front id := fun early => by
    have := below id early
    omega
  constructor
  · intro covered
    have start := covered.choose_spec.2.low_le
    rw [List.mem_singleton.mp covered.choose_spec.1] at start
    exact (same.mp (.inr covered)).resolve_left (apart start)
  · intro covered
    exact (same.mpr (.inr covered)).resolve_left (apart (low_le_of_covered grouped covered))

end Group

/-- An accepted request in whose sorted ranges merging happens only at the end deletes and
announces the requested ids exactly when the last group of ranges has no gap. -/
theorem replyDelMsg_exact_iff (deleteFails asChan : Bool) (w w' : World) (sid : String) (asUid : Uid)
    (del : MsgClientDel) (accepted : replyDelMsg deleteFails w sid asUid asChan del = (w', .ok ()))
    (front rest : List Range) (last : Range)
    (sorted : sortedRanges w.topic.lastID del.delSeq = front ++ last :: rest)
    (clear : List.IsChain (fun p r => ¬ Range.Absorbs p r) (front ++ [last]))
    (absorbed : Range.AbsorbsAll last rest) :
    (∃ ranges, w'.out.filterMap Effect.deleted = w.out.filterMap Effect.deleted ++ [ranges] ∧
      w'.out.filterMap Effect.announced = w.out.filterMap Effect.announced ++ [ranges] ∧
      ∀ id, Range.Covered ranges id ↔ Requested w.topic.lastID del.delSeq id) ↔
    Gapless last rest := by
  obtain ⟨ranges, parsed, deleted, announced⟩ := replyDelMsg_ok accepted
  obtain ⟨valid, normalized⟩ := delMsgRanges_ok parsed
  have requested := covered_sortedRanges valid
  have order := Range.sort_pairwise (del.delSeq.map (clip w.topic.lastID))
  have proper := sortedRanges_proper valid
  rw [show Range.sort (del.delSeq.map (clip w.topic.lastID)) = front ++ last :: rest from sorted]
    at order
  rw [sorted] at proper
  rw [sorted] at requested normalized
  rw [← normalize_exact_iff order proper clear absorbed, ← normalized]
  constructor
  · rintro ⟨ranges', deleted', -, same⟩ id
    have handed : ranges' = ranges := by
      rw [deleted] at deleted'
      simpa using deleted'.symm
    rw [requested, ← handed, same]
  · intro same
    exact ⟨ranges, deleted, announced, fun id => by rw [same, requested]⟩

/-- A topic with ten messages and a user who may delete them for everybody. -/
def tenMessages : World :=
  { topic := { cat := .grp, lastID := 10, perUser :=
      (∅ : GoMap Uid PerUserData).insert 5 { modeWant := 0xFF, modeGiven := 0xFF } } }

/-- Two overlapping ranges are merged into the range that covers them. -/
theorem replyDelMsg_exact_overlapping :
    ∃ w', replyDelMsg false tenMessages "sid" 5 false { delSeq := [⟨1, 3⟩, ⟨2, 5⟩], hard := true } =
        (w', .ok ()) ∧
      ∃ ranges, w'.out.filterMap Effect.deleted =
        tenMessages.out.filterMap Effect.deleted ++ [ranges] ∧
        w'.out.filterMap Effect.announced =
          tenMessages.out.filterMap Effect.announced ++ [ranges] ∧
        ∀ id, Range.Covered ranges id ↔ Requested tenMessages.topic.lastID [⟨1, 3⟩, ⟨2, 5⟩] id := by
  refine ⟨_, rfl, (replyDelMsg_exact_iff false false tenMessages _ "sid" 5
    { delSeq := [⟨1, 3⟩, ⟨2, 5⟩], hard := true } rfl [] [⟨2, 5⟩] ⟨1, 3⟩ (by decide) (by simp)
    (by decide)).mpr (.inr ⟨?_, by simp⟩)⟩
  intro id start stop
  simp only [top, List.foldl_cons, List.foldl_nil] at stop
  simp only [Range.covered_cons, Range.not_covered_nil, or_false, Range.Mem]
  dsimp only at start
  split_ifs <;> omega

/-- Ids 1, 2, 4 and 5 are requested and id 3 is deleted with them; in a request of three ranges the
last one, ids 7 and 8, is not deleted. -/
theorem replyDelMsg_deletes_unrequested_and_keeps_requested :
    ((replyDelMsg false tenMessages "sid" 5 false
        { delSeq := [⟨1, 3⟩, ⟨4, 6⟩], hard := true }).1.out.filterMap Effect.deleted = [[⟨1, 6⟩]] ∧
      Range.Covered [⟨1, 6⟩] 3 ∧ ¬ Requested 10 [⟨1, 3⟩, ⟨4, 6⟩] 3) ∧
    ((replyDelMsg false tenMessages "sid" 5 false
        { delSeq := [⟨1, 3⟩, ⟨2, 4⟩, ⟨7, 9⟩], hard := true }).1.out.filterMap Effect.deleted =
        [[⟨1, 4⟩, ⟨2, 4⟩]] ∧
      ¬ Range.Covered [⟨1, 4⟩, ⟨2, 4⟩] 7 ∧ Requested 10 [⟨1, 3⟩, ⟨2, 4⟩, ⟨7, 9⟩] 7) := by
  refine ⟨⟨by decide, ?_, ?_⟩, by decide, ?_, ?_⟩
  · simp [Range.Mem]
  · simp [Requested, MsgRange.Mem]
  · simp [Range.Mem]
  · simp [Requested, MsgRange.Mem]

end LastochkaServer.Guarantees.DeleteRanges
