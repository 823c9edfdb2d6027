import Mathlib

/-!
# Go maps

A Go `map[K]V` is modelled by Mathlib's association list `AList`: at most one entry per key,
entries in some order. A `range` loop visits the entries in that order; every result is stated
for all maps, hence for all visiting orders.

Two things are added to the library: the sum of a weight over the entries of a map, and the effect
of a `range` loop whose body only touches the entry it visits.
-/

namespace LastochkaServer.Lib

abbrev GoMap (K V : Type) := AList (fun _ : K => V)

namespace GoMap

variable {K V σ W : Type} [DecidableEq K] {m : GoMap K V} {k k' : K} {v v' : V}

/-- Go's `m[k]` for a value type: the zero value `zero` when the key is absent. -/
def getD (m : GoMap K V) (k : K) (zero : V) : V :=
  (m.lookup k).getD zero

/-- Go's `len(m)`. -/
def len (m : GoMap K V) : Nat :=
  m.entries.length

theorem mem_entries_iff (m : GoMap K V) (k : K) (v : V) :
    (⟨k, v⟩ : Sigma fun _ : K => V) ∈ m.entries ↔ m.lookup k = some v :=
  AList.mem_lookup_iff.symm

theorem lookup_insert_eq_some :
    (m.insert k v).lookup k' = some v' ↔ (k' = k ∧ v' = v) ∨ (k' ≠ k ∧ m.lookup k' = some v') := by
  by_cases same : k' = k
  · subst same
    simp [AList.lookup_insert, eq_comm]
  · simp [AList.lookup_insert_ne same, same]

theorem lookup_erase_eq_some :
    (m.erase k).lookup k' = some v' ↔ k' ≠ k ∧ m.lookup k' = some v' := by
  by_cases same : k' = k
  · subst same
    simp [AList.lookup_erase]
  · simp [AList.lookup_erase_ne same, same]

/-- A map that is filled in a loop has the last of the values with a key. -/
theorem lookup_fill (key : V → K) (p : V → Prop) [DecidablePred p] (l : List V) (k : K) :
    (l.foldl (fun m v => if p v then m.insert (key v) v else m) (∅ : GoMap K V)).lookup k =
      l.reverse.find? fun v => p v ∧ key v = k := by
  induction l using List.reverseRecOn with
  | nil => rfl
  | append_singleton rest v ih =>
    rw [List.foldl_append, List.reverse_append, List.foldl_cons, List.foldl_nil,
      List.reverse_singleton, List.singleton_append, List.find?_cons, ← ih]
    by_cases same : key v = k
    · subst same
      by_cases kept : p v <;> simp [kept]
    · by_cases kept : p v <;> simp [kept, same, AList.lookup_insert_ne (Ne.symm same)]

theorem len_insert_of_none (v : V) (absent : m.lookup k = none) :
    len (m.insert k v) = len m + 1 := by
  have entries : (m.insert k v).entries = ⟨k, v⟩ :: m.entries :=
    AList.entries_insert_of_notMem (AList.lookup_eq_none.mp absent)
  rw [len, entries]
  rfl

theorem len_erase_of_some (present : m.lookup k = some v) :
    len (m.erase k) + 1 = len m := by
  have mem : k ∈ m.entries.keys := AList.lookup_isSome.mp (by rw [present]; rfl)
  obtain ⟨v', before, after, -, split, erased⟩ := List.exists_of_kerase mem
  have erased : (m.erase k).entries = before ++ after := erased
  simp only [len, erased, split, List.length_append, List.length_cons]
  omega

/-- The sum of `weight` over the entries of a map. -/
def tally (weight : K → V → Nat) (m : GoMap K V) : Nat :=
  (m.entries.map fun e => weight e.1 e.2).sum

/-- What the entry of `k`, if any, contributes to `tally`. -/
def share (weight : K → V → Nat) (m : GoMap K V) (k : K) : Nat :=
  (m.lookup k).elim 0 (weight k)

theorem tally_erase (weight : K → V → Nat) (m : GoMap K V) (k : K) :
    tally weight (m.erase k) + share weight m k = tally weight m := by
  by_cases present : k ∈ m.entries.keys
  · obtain ⟨v, before, after, -, split, erased⟩ := List.exists_of_kerase present
    have found : m.lookup k = some v := by
      rw [← mem_entries_iff, split]
      simp
    have erased' : (m.erase k).entries = before ++ after := erased
    simp only [tally, share, found, Option.elim_some, erased', split, List.map_append,
      List.map_cons, List.sum_append, List.sum_cons]
    omega
  · have missing : m.lookup k = none := AList.lookup_eq_none.mpr present
    have same : (m.erase k).entries = m.entries := List.kerase_of_notMem_keys present
    simp [tally, share, missing, same]

theorem tally_insert (weight : K → V → Nat) (m : GoMap K V) (k : K) (v : V) :
    tally weight (m.insert k v) + share weight m k = tally weight m + weight k v := by
  have entries : (m.insert k v).entries = ⟨k, v⟩ :: (m.erase k).entries := rfl
  have erased := tally_erase weight m k
  simp only [tally, entries, List.map_cons, List.sum_cons] at erased ⊢
  omega

theorem tally_eq_zero (weight : K → V → Nat) (m : GoMap K V)
    (none_counts : ∀ k v, m.lookup k = some v → weight k v = 0) : tally weight m = 0 := by
  refine List.sum_eq_zero ?_
  intro n mem
  obtain ⟨⟨k, v⟩, belongs, rfl⟩ := List.mem_map.mp mem
  exact none_counts k v ((mem_entries_iff m k v).mp belongs)

theorem tally_congr (weight weight' : K → V → Nat) (m : GoMap K V)
    (same : ∀ k v, m.lookup k = some v → weight k v = weight' k v) :
    tally weight m = tally weight' m := by
  refine congrArg List.sum (List.map_congr_left ?_)
  rintro ⟨k, v⟩ mem
  exact same k v ((mem_entries_iff m k v).mp mem)

theorem share_erase (weight : K → V → Nat) (m : GoMap K V) (k k' : K) :
    share weight (m.erase k) k' = if k' = k then 0 else share weight m k' := by
  unfold share
  split_ifs with same
  · rw [same, AList.lookup_erase, Option.elim_none]
  · rw [AList.lookup_erase_ne same]

/-- The sum is determined by what each key contributes. -/
theorem tally_eq_of_share (weight weight' : K → V → Nat) (m m' : GoMap K V)
    (same : ∀ k, share weight m k = share weight' m' k) : tally weight m = tally weight' m' := by
  induction m using AList.insertRec generalizing m' with
  | H0 =>
    refine (tally_eq_zero weight' m' fun k v found => ?_).symm
    have := same k
    rw [share, share, found, AList.lookup_empty] at this
    exact this.symm
  | IH a b l fresh ih =>
    have absent : share weight l a = 0 := by
      rw [share, AList.lookup_eq_none.mpr fresh, Option.elim_none]
    have added := tally_insert weight l a b
    have removed := tally_erase weight' m' a
    have own := same a
    rw [share, AList.lookup_insert, Option.elim_some] at own
    have rest := ih (m'.erase a) fun k => by
      rw [share_erase]
      split_ifs with at_a
      · rw [at_a, absent]
      · rw [← same k, share, share, AList.lookup_insert_ne at_a]
    omega

/-- A loop over the keys of a map whose body rewrites only the visited entry: afterwards each
entry is what one visit makes of it. `view` reads the map out of the loop's state. -/
theorem foldl_lookup (view : σ → GoMap K V) (body : σ → K → σ) (visit : K → Option V → Option V)
    (own : ∀ s k, (view (body s k)).lookup k = visit k ((view s).lookup k))
    (other : ∀ s k k', k' ≠ k → (view (body s k)).lookup k' = (view s).lookup k')
    (keys : List K) (nodup : keys.Nodup) (s : σ) (k : K) :
    (view (keys.foldl body s)).lookup k =
      if k ∈ keys then visit k ((view s).lookup k) else (view s).lookup k := by
  induction keys generalizing s with
  | nil => simp
  | cons head rest ih =>
    obtain ⟨fresh, nodup⟩ := List.nodup_cons.mp nodup
    rw [List.foldl_cons, ih nodup]
    by_cases same : k = head
    · subst same
      simp [fresh, own]
    · simp [same, other s head k same]

/-- A loop that makes a map out of another: `f` gives the new value of a key, if it is kept. -/
def collect {W : Type} (f : V → Option W) (m : GoMap K V) : GoMap K W :=
  m.entries.foldl (fun out e => (f e.2).elim out fun w => out.insert e.1 w) ∅

theorem foldl_insert_entries (f : V → Option W) (entries : List (Sigma fun _ : K => V))
    (out : GoMap K W) (nodup : entries.NodupKeys) (fresh : ∀ e ∈ entries, e.1 ∉ out) :
    (entries.foldl (fun out e => (f e.2).elim out fun w => out.insert e.1 w) out).entries =
      (entries.filterMap fun e => (f e.2).map (Sigma.mk e.1)).reverse ++ out.entries := by
  induction entries generalizing out with
  | nil => simp
  | cons e entries ih =>
    obtain ⟨unseen, nodup⟩ := List.nodupKeys_cons.mp nodup
    have own : e.1 ∉ out := fresh e List.mem_cons_self
    have rest : ∀ e' ∈ entries, e'.1 ∉ out := fun e' mem => fresh e' (List.mem_cons_of_mem e mem)
    cases kept : f e.2 with
    | none => simpa [kept] using ih out nodup rest
    | some w =>
      have apart : ∀ e' ∈ entries, e'.1 ∉ out.insert e.1 w := by
        intro e' mem inserted
        rcases (AList.mem_insert _).mp inserted with same | old
        · exact unseen (same ▸ List.mem_map_of_mem mem)
        · exact rest e' mem old
      have tail := ih (out.insert e.1 w) nodup apart
      rw [AList.entries_insert_of_notMem own] at tail
      simpa [kept] using tail

theorem collect_entries (f : V → Option W) (m : GoMap K V) :
    (collect f m).entries = (m.entries.filterMap fun e => (f e.2).map (Sigma.mk e.1)).reverse := by
  have loop := foldl_insert_entries f m.entries ∅ m.nodupKeys fun e _ => AList.notMem_empty e.1
  simpa [collect] using loop

/-- Two loops in a row visit the entries in their first order again. -/
theorem collect_collect_entries {X : Type} (f : V → Option W) (g : W → Option X) (m : GoMap K V) :
    (collect g (collect f m)).entries =
      m.entries.filterMap fun e => ((f e.2).bind g).map (Sigma.mk e.1) := by
  rw [collect_entries, collect_entries, List.filterMap_reverse, List.reverse_reverse,
    List.filterMap_filterMap]
  refine List.filterMap_congr fun e _ => ?_
  cases f e.2 <;> rfl

/-- The map with every value replaced. -/
def mapValues {W : Type} (f : V → W) (m : GoMap K V) : GoMap K W where
  entries := m.entries.map fun e => ⟨e.1, f e.2⟩
  nodupKeys := by
    have keys : (m.entries.map fun e => (⟨e.1, f e.2⟩ : Sigma fun _ : K => W)).keys =
        m.entries.keys := by
      simp [List.keys]
    rw [List.NodupKeys, keys]
    exact m.nodupKeys

end GoMap

end LastochkaServer.Lib
