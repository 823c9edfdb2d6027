import LastochkaServer.Lib.GoMap

/-!
# Tables with a unique key

A database table with a unique key is a map from keys to rows. `alterWhere` is what `UPDATE … WHERE`
and `DELETE … WHERE` do: every row that meets the condition is changed or removed, the others stay.

`tally_change` is how a sum over a table follows the change of one row, and `tally_two` sums rows of
which only two keys count.
-/

namespace LastochkaServer.Lib.Table

variable {K V : Type} [DecidableEq K] {k : K} {weight : K → V → Nat} {m : GoMap K V}

/-- The row at `k` of the table becomes what `f` makes of it, if it meets `p`. -/
def alterRow (p : K → V → Bool) (f : V → Option V) (m altered : GoMap K V) (k : K) : GoMap K V :=
  match (m.lookup k).filter (p k) with
  | none => altered
  | some v =>
    match f v with
    | some v' => altered.insert k v'
    | none => altered.erase k

/-- The rows that meet `p` become what `f` makes of them. -/
def alterWhere (p : K → V → Bool) (f : V → Option V) (m : GoMap K V) : GoMap K V :=
  m.keys.foldl (alterRow p f m) m

theorem lookup_alterRow (p : K → V → Bool) (f : V → Option V) (m altered : GoMap K V) (k : K) :
    (alterRow p f m altered k).lookup k =
      match (m.lookup k).filter (p k) with
      | none => altered.lookup k
      | some v => f v := by
  unfold alterRow
  split
  · rfl
  · next v _ =>
    cases changed : f v with
    | none => exact AList.lookup_erase k altered
    | some v' => exact AList.lookup_insert altered

theorem lookup_alterRow_ne (p : K → V → Bool) (f : V → Option V) (m altered : GoMap K V) {other : K}
    (ne : other ≠ k) : (alterRow p f m altered k).lookup other = altered.lookup other := by
  unfold alterRow
  split
  · rfl
  · next v _ =>
    cases changed : f v with
    | none => exact AList.lookup_erase_ne ne
    | some v' => exact AList.lookup_insert_ne ne

theorem lookup_alterWhere (p : K → V → Bool) (f : V → Option V) (m : GoMap K V) (k : K) :
    (alterWhere p f m).lookup k = (m.lookup k).bind fun v => if p k v then f v else some v := by
  -- a visit reads the row of the original table
  have visited := GoMap.foldl_lookup id (alterRow p f m)
    (fun k before => match (m.lookup k).filter (p k) with
      | none => before
      | some v => f v)
    (fun altered k => lookup_alterRow p f m altered k)
    (fun altered k other ne => lookup_alterRow_ne p f m altered ne) m.keys m.nodupKeys m k
  refine visited.trans ?_
  dsimp
  cases found : m.lookup k with
  | none =>
    have absent : k ∉ m.keys := fun mem => AList.lookup_eq_none.mp found (AList.mem_keys.mpr mem)
    rw [if_neg absent]
    rfl
  | some v =>
    have present : k ∈ m.keys := AList.mem_keys.mp (AList.lookup_isSome.mp (by rw [found]; rfl))
    rw [if_pos present, Option.bind_some]
    cases chosen : p k v <;> simp [Option.filter, chosen]

/-- Where one key contributes something else, the sum changes by the difference. -/
theorem tally_change {m' : GoMap K V}
    (rest : ∀ other, other ≠ k → m'.share weight other = m.share weight other) :
    m'.tally weight + m.share weight k = m.tally weight + m'.share weight k := by
  have before := GoMap.tally_erase weight m k
  have after := GoMap.tally_erase weight m' k
  have same : GoMap.tally weight (m'.erase k) = GoMap.tally weight (m.erase k) := by
    refine GoMap.tally_eq_of_share _ _ _ _ fun other => ?_
    rw [GoMap.share_erase, GoMap.share_erase]
    split_ifs with equal
    · rfl
    · exact rest other equal
  omega

theorem tally_two {k' : K} (ne : k ≠ k')
    (only : ∀ other v, m.lookup other = some v → other ≠ k → other ≠ k' → weight other v = 0) :
    m.tally weight = m.share weight k + m.share weight k' := by
  have first := GoMap.tally_erase weight m k
  have second := GoMap.tally_erase weight (m.erase k) k'
  rw [GoMap.share_erase, if_neg ne.symm] at second
  have rest : GoMap.tally weight ((m.erase k).erase k') = 0 := by
    refine GoMap.tally_eq_zero _ _ fun other v found => ?_
    obtain ⟨last, found⟩ := GoMap.lookup_erase_eq_some.mp found
    obtain ⟨one, found⟩ := GoMap.lookup_erase_eq_some.mp found
    exact only other v found one last
  omega

omit [DecidableEq K] in
theorem tally_add (weight weight' : K → V → Nat) (m : GoMap K V) :
    m.tally (fun k v => weight k v + weight' k v) = m.tally weight + m.tally weight' := by
  exact List.sum_map_add ..

end LastochkaServer.Lib.Table
