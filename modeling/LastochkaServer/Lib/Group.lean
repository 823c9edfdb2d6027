import LastochkaServer.Lib.GoMap

/-!
# Grouping by a key

A loop that sorts the elements of a list into a map: each element extends the value under its own
key, which is made first if it is missing. The loop fails on an element that has no key.
-/

namespace LastochkaServer.Lib.Group

variable {K V α ε : Type} [DecidableEq K]

/-- What is made of a group of elements; nothing of an empty one. -/
def fill (fresh : V) (extend : V → α → V) : List α → Option V
  | [] => none
  | a :: rest => some ((a :: rest).foldl extend fresh)

/-- One round of the loop. -/
def put (fresh : V) (extend : V → α → V) (m : GoMap K V) (k : K) (a : α) : GoMap K V :=
  m.insert k (extend ((m.lookup k).getD fresh) a)

def groupFrom (key : α → Option K) (failure : ε) (fresh : V) (extend : V → α → V) :
    GoMap K V → List α → Except ε (GoMap K V)
  | m, [] => .ok m
  | m, a :: rest =>
    match key a with
    | some k => groupFrom key failure fresh extend (put fresh extend m k a) rest
    | none => .error failure

def group (key : α → Option K) (failure : ε) (fresh : V) (extend : V → α → V) (xs : List α) :
    Except ε (GoMap K V) := groupFrom key failure fresh extend ∅ xs

section

variable {key : α → Option K} {failure : ε} {fresh : V} {extend : V → α → V} {xs : List α}

theorem groupFrom_returns (m : GoMap K V) (keyed : ∀ a ∈ xs, key a ≠ none) :
    ∃ m', groupFrom key failure fresh extend m xs = .ok m' := by
  induction xs generalizing m with
  | nil => exact ⟨m, rfl⟩
  | cons a rest ih =>
    obtain ⟨first, others⟩ := List.forall_mem_cons.mp keyed
    obtain ⟨k, found⟩ := Option.ne_none_iff_exists'.mp first
    rw [groupFrom, found]
    exact ih _ others

theorem groupFrom_fails {a : α} (m : GoMap K V) (mem : a ∈ xs) (unknown : key a = none) :
    groupFrom key failure fresh extend m xs = .error failure := by
  induction xs generalizing m with
  | nil => cases mem
  | cons b rest ih =>
    rw [groupFrom]
    cases found : key b with
    | none => rfl
    | some k =>
      rcases List.mem_cons.mp mem with rfl | later
      · rw [unknown] at found
        cases found
      · exact ih _ later

/-- The value of a key is folded from the elements with that key, in their order. -/
theorem groupFrom_lookup {m m' : GoMap K V}
    (done : groupFrom key failure fresh extend m xs = .ok m') (k : K) :
    m'.lookup k =
      (xs.filter (key · = some k)).foldl (fun value a => some (extend (value.getD fresh) a))
      (m.lookup k) := by
  induction xs generalizing m with
  | nil =>
    cases done
    rfl
  | cons a rest ih =>
    rw [groupFrom] at done
    cases found : key a with
    | none =>
      rw [found] at done
      cases done
    | some k' =>
      rw [found] at done
      rw [ih done, put]
      by_cases here : k' = k
      · rw [List.filter_cons_of_pos (by rw [found, here, decide_eq_true_iff]), List.foldl_cons, here,
          AList.lookup_insert]
      · rw [List.filter_cons_of_neg (by rw [found, decide_eq_true_iff, Option.some_inj]; exact here),
          AList.lookup_insert_ne (Ne.symm here)]

theorem foldl_fill (xs : List α) :
    xs.foldl (fun value a => some (extend (value.getD fresh) a)) none = fill fresh extend xs := by
  have started : ∀ (v : V) (xs : List α),
      xs.foldl (fun value a => some (extend (value.getD fresh) a)) (some v) =
      some (xs.foldl extend v) := by
    intro v xs
    induction xs generalizing v with
    | nil => rfl
    | cons a rest ih => exact ih (extend v a)
  cases xs with
  | nil => rfl
  | cons a rest => exact started (extend fresh a) rest

end

theorem entries_filter (m : GoMap K V) (k : K) :
    m.entries.filter (fun entry => entry.1 = k) = (m.lookup k).toList.map (Sigma.mk k) := by
  induction m using AList.insertRec with
  | H0 => rfl
  | IH a b m fresh ih =>
    rw [AList.entries_insert_of_notMem fresh]
    by_cases here : a = k
    · subst here
      rw [AList.lookup_eq_none.mpr fresh] at ih
      rw [List.filter_cons_of_pos (by simp), ih, AList.lookup_insert]
      rfl
    · rw [List.filter_cons_of_neg (by simpa using here), ih, AList.lookup_insert_ne (Ne.symm here)]

theorem foldl_insert_entries (xs : List (Sigma fun _ : K => V)) (m : GoMap K V)
    (distinct : xs.NodupKeys)
    (apart : ∀ x ∈ xs, x.1 ∉ m) :
    (xs.foldl (fun m x => m.insert x.1 x.2) m).entries.Perm (xs ++ m.entries) := by
  induction xs generalizing m with
  | nil => exact .refl _
  | cons x rest ih =>
    rw [List.nodupKeys_cons] at distinct
    have fresh : x.1 ∉ m := apart x (List.mem_cons_self ..)
    have apart' : ∀ y ∈ rest, y.1 ∉ m.insert x.1 x.2 := by
      intro y mem present
      rcases (AList.mem_insert m).mp present with same | present
      · exact distinct.1 (same ▸ List.mem_map_of_mem mem)
      · exact apart y (List.mem_cons_of_mem _ mem) present
    refine (ih (m.insert x.1 x.2) distinct.2 apart').trans ?_
    rw [AList.entries_insert_of_notMem fresh]
    exact List.perm_middle

end LastochkaServer.Lib.Group
