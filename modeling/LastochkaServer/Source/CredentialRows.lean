import LastochkaServer.Source.Credentials

/-!
# What the operations do to a credential

The key column identifies the unvalidated credential of a user, method and value, and the validated
credential of a method and value. Each operation of `server/db/postgres/adapter.go:3158-3350` is
described by what becomes of one unvalidated row: it keeps at least its count of failed attempts,
unless it is validated or deleted.
-/

namespace LastochkaServer.Source

open Lib

variable {c d : Credential} {u u' : Uid} {m m' : CredMethod}

theorem uidText_inj : uidText u = uidText u' ↔ u = u' := by
  refine ⟨fun same => ?_, fun same => by rw [same]⟩
  have someone : ∀ uid : Uid, uid ≠ 0 → uidText uid ≠ "" := by
    intro uid named blank
    have text := congrArg (fun s => s.toList.length) blank
    rw [uidText, if_neg named, String.toList_ofList, Bytes.base64_length,
      Bytes.encodeLE_length] at text
    exact absurd text (by decide)
  by_cases first : u = 0
  · by_contra ne
    subst first
    exact someone u' (Ne.symm ne) same.symm
  by_cases second : u' = 0
  · subst second
    exact absurd same (someone u first)
  rw [uidText, uidText, if_neg first, if_neg second, String.ofList_inj] at same
  have bytes := congrArg Bytes.decodeBase64 same
  rw [Bytes.decodeBase64_base64, Bytes.decodeBase64_base64, Option.some_inj] at bytes
  have number := congrArg Bytes.decodeLE bytes
  have small : ∀ uid : Uid, uid.toNat < 256 ^ 8 := fun uid => uid.toNat_lt
  rw [Bytes.decodeLE_encodeLE, Bytes.decodeLE_encodeLE, Nat.mod_eq_of_lt (small u),
    Nat.mod_eq_of_lt (small u')] at number
  exact UInt64.toNat_inj.mp number

theorem synthOf_inj {value value' : String} :
    synthOf m.name value = synthOf m'.name value' ↔ m = m' ∧ value = value' := by
  rw [← String.toList_inj, synthOf_toList, synthOf_toList, cut_at_colon m.name_colon m'.name_colon,
    CredMethod.name_inj, String.toList_inj]

theorem unconfirmedSynthOf_inj {value value' : String} :
    unconfirmedSynthOf u m.name value = unconfirmedSynthOf u' m'.name value' ↔
      u = u' ∧ m = m' ∧ value = value' := by
  rw [← String.toList_inj, unconfirmedSynthOf_toList, unconfirmedSynthOf_toList,
    cut_at_colon (uidText_colon u) (uidText_colon u'), cut_at_colon m.name_colon m'.name_colon,
    CredMethod.name_inj, String.toList_inj, String.toList_inj, uidText_inj]

namespace Credential

/-- The unvalidated credential of a user, method and value. -/
def Awaits (c : Credential) (u : Uid) (m : CredMethod) (value : String) : Prop :=
  c.done = false ∧ c.user = u ∧ c.method = m ∧ c.value = value
  deriving Decidable

/-- The credential that `CredGetActive` looks for. -/
def Active (c : Credential) (u : Uid) (m : CredMethod) : Prop :=
  c.done = false ∧ c.deleted = false ∧ c.user = u ∧ c.method = m
  deriving Decidable

theorem Active.awaits (active : c.Active u m) :
    c.Awaits u m c.value := ⟨active.1, active.2.2.1, active.2.2.2, rfl⟩

end Credential

namespace Credentials

variable {t t' : Credentials} {value value' : String}

theorem same_of_synthetic (first : c ∈ t.rows) (second : d ∈ t.rows)
    (same : c.synthetic = d.synthetic) : c = d :=
  List.inj_on_of_nodup_map t.unique first second same

theorem synthetic_unconfirmed_iff (mem : c ∈ t.rows) :
    c.synthetic = unconfirmedSynthOf u m.name value ↔ c.Awaits u m value := by
  constructor
  · intro same
    have pending := unconfirmed_of_synthetic mem same
    have key := t.keyed c mem
    rw [Credential.key, pending, if_neg Bool.false_ne_true, same] at key
    obtain ⟨rfl, rfl, rfl⟩ := unconfirmedSynthOf_inj.mp key
    exact ⟨pending, rfl, rfl, rfl⟩
  · rintro ⟨pending, rfl, rfl, rfl⟩
    rw [t.keyed c mem, Credential.key, pending, if_neg Bool.false_ne_true]

theorem synthetic_confirmed_iff (mem : c ∈ t.rows) :
    c.synthetic = synthOf m.name value ↔ c.done ∧ c.method = m ∧ c.value = value := by
  rw [t.keyed c mem, Credential.key]
  cases done : c.done with
  | true => rw [if_pos rfl, synthOf_inj]; simp
  | false =>
    simp [(synthOf_ne_unconfirmed m value c.user c.method.name c.value).symm]

theorem awaits_unique (first : c ∈ t.rows) (second : d ∈ t.rows) (one : c.Awaits u m value)
    (other : d.Awaits u m value) : c = d :=
  same_of_synthetic first second
    (((synthetic_unconfirmed_iff first).mpr one).trans
      ((synthetic_unconfirmed_iff second).mpr other).symm)

theorem validated_unique (first : c ∈ t.rows) (second : d ∈ t.rows) (one : c.done)
    (other : d.done) (method : c.method = d.method) (same : c.value = d.value) : c = d :=
  same_of_synthetic first second
    (((synthetic_confirmed_iff first).mpr ⟨one, method, same⟩).trans
      ((synthetic_confirmed_iff second).mpr ⟨other, rfl, rfl⟩).symm)

/-- The credential is validated and belongs to the user. -/
def Validated (t : Credentials) (u : Uid) (m : CredMethod) (value : String) : Prop :=
  ∃ c ∈ t.rows, c.done ∧ c.user = u ∧ c.method = m ∧ c.value = value
  deriving Decidable

/-- The number of failed attempts to validate. -/
def counter (t : Credentials) (u : Uid) (m : CredMethod) (value : String) : Nat :=
  match t.rows.find? fun c => c.Awaits u m value with
  | some c => c.retries
  | none => 0

theorem counter_of_mem (mem : c ∈ t.rows) (awaits : c.Awaits u m value) :
    t.counter u m value = c.retries := by
  unfold counter
  split
  · next found =>
    have chosen := List.find?_some found
    rw [awaits_unique (List.mem_of_find?_eq_some found) mem (of_decide_eq_true chosen) awaits]
  · next absent =>
    exact absurd (decide_eq_true awaits) (List.find?_eq_none.mp absent c mem)

theorem counter_of_absent (absent : ∀ c ∈ t.rows, ¬ c.Awaits u m value) :
    t.counter u m value = 0 := by
  unfold counter
  split
  · next found =>
    have chosen := List.find?_some found
    exact absurd (of_decide_eq_true chosen) (absent _ (List.mem_of_find?_eq_some found))
  · rfl

def credGetActive (t : Credentials) (u : Uid) (m : CredMethod) : Option Credential :=
  t.rows.find? fun c => c.Active u m

theorem credGetActive_some (found : t.credGetActive u m = some c) :
    c ∈ t.rows ∧ c.Awaits u m c.value := by
  have chosen := List.find?_some found
  exact ⟨List.mem_of_find?_eq_some found, (of_decide_eq_true chosen : c.Active u m).awaits⟩

/-- The unvalidated credential is still there, with at least as many failed attempts. -/
def Kept (t t' : Credentials) (u : Uid) (m : CredMethod) (value : String) : Prop :=
  ∀ c ∈ t.rows, c.Awaits u m value → ∃ d ∈ t'.rows, d.Awaits u m value ∧ c.retries ≤ d.retries

theorem Kept.refl : t.Kept t u m value := fun c mem awaits => ⟨c, mem, awaits, Nat.le_refl _⟩

theorem Kept.counter_le (kept : t.Kept t' u m value) :
    t.counter u m value ≤ t'.counter u m value := by
  by_cases present : ∃ c ∈ t.rows, c.Awaits u m value
  · obtain ⟨c, mem, awaits⟩ := present
    obtain ⟨d, later, still, more⟩ := kept c mem awaits
    rw [counter_of_mem mem awaits, counter_of_mem later still]
    exact more
  · rw [counter_of_absent fun c mem awaits => present ⟨c, mem, awaits⟩]
    exact Nat.zero_le _

theorem mem_delete {p : Credential → Bool} : c ∈ (t.delete p).rows ↔ c ∈ t.rows ∧ p c = false := by
  simp [delete]

theorem kept_update {f : Credential → Credential} {same}
    (keeps : ∀ c ∈ t.rows, c.Awaits u m value → (f c).Awaits u m value ∧ c.retries ≤ (f c).retries) :
    t.Kept (t.update f same) u m value := fun c mem awaits =>
  ⟨f c, List.mem_map_of_mem mem, keeps c mem awaits⟩

theorem Kept.insert (kept : t.Kept t' u m value) (keyed : c.synthetic = c.key)
    (free : t'.has c.synthetic = false) :
    t.Kept (t'.insert c keyed (not_mem_of_has free)) u m value := fun old mem awaits =>
  let ⟨d, later, still, more⟩ := kept old mem awaits
  ⟨d, List.mem_append_left _ later, still, more⟩

theorem Kept.trans {t'' : Credentials} (first : t.Kept t' u m value)
    (second : t'.Kept t'' u m value) :
    t.Kept t'' u m value := by
  intro c mem awaits
  obtain ⟨d, later, still, more⟩ := first c mem awaits
  obtain ⟨e, last, yet, most⟩ := second d later still
  exact ⟨e, last, yet, more.trans most⟩

theorem deactivate_kept : t.Kept (t.deactivate u' m') u m value := by
  refine kept_update fun c _ awaits => ?_
  split_ifs
  all_goals exact ⟨awaits, Nat.le_refl _⟩

theorem undelete_kept {resp : String} : t.Kept (t.undelete u' m' value' resp) u m value := by
  refine kept_update fun c _ awaits => ?_
  split_ifs
  · exact ⟨⟨rfl, awaits.2⟩, Nat.le_refl _⟩
  · exact ⟨awaits, Nat.le_refl _⟩

theorem credUpsert_kept (fails done : Bool) (resp : String) :
    t.Kept (t.credUpsert fails u' m' value' done resp).1 u m value ∨
      done ∧ (t.credUpsert fails u' m' value' done resp).1.Validated u m value := by
  unfold credUpsert
  simp only []
  split_ifs with _ confirmed free taken pending
  · exact .inl Kept.refl
  · by_cases same : u' = u ∧ m' = m ∧ value' = value
    · obtain ⟨rfl, rfl, rfl⟩ := same
      exact .inr
        ⟨confirmed, _, List.mem_append_right _ (List.mem_singleton.mpr rfl), rfl, rfl, rfl, rfl⟩
    · have spared :
          t.Kept (t.delete (·.synthetic == unconfirmedSynthOf u' m'.name value')) u m value := by
        refine fun c mem awaits => ⟨c, mem_delete.mpr ⟨mem, ?_⟩, awaits, Nat.le_refl _⟩
        rw [beq_eq_false_iff_ne, ne_eq, synthetic_unconfirmed_iff mem]
        rintro ⟨-, rfl, rfl, rfl⟩
        exact same ⟨awaits.2.1, awaits.2.2.1, awaits.2.2.2⟩
      exact .inl (spared.insert rfl free)
  · exact .inl Kept.refl
  · exact .inl Kept.refl
  · exact .inl (deactivate_kept.insert rfl pending)
  · exact .inl (deactivate_kept.trans undelete_kept)

variable (fails : Bool)

theorem credConfirm_kept :
    t.Kept (t.credConfirm fails u' m').1 u m value ∨
      (t.credConfirm fails u' m').1.Validated u m value := by
  unfold credConfirm
  split_ifs with _ unique any
  · exact .inl Kept.refl
  · by_cases validated : ∃ c ∈ t.rows, c.Awaits u m value ∧ unconfirmedOf u' m' c
    · obtain ⟨c, mem, ⟨-, user, method, same⟩, chosen⟩ := validated
      refine .inr ⟨confirmRow u' m' c, List.mem_map_of_mem mem, ?_⟩
      rw [confirmRow, if_pos chosen]
      exact ⟨rfl, user, method, same⟩
    · refine .inl fun c mem awaits => ⟨confirmRow u' m' c, List.mem_map_of_mem mem, ?_⟩
      rw [confirmRow, if_neg fun chosen => validated ⟨c, mem, awaits, chosen⟩]
      exact ⟨awaits, Nat.le_refl _⟩
  · exact .inl Kept.refl
  · exact .inl Kept.refl

theorem credConfirm_validated (validated : t.Validated u m value) :
    (t.credConfirm fails u' m').1.Validated u m value := by
  unfold credConfirm
  split_ifs with _ unique any
  · exact validated
  · obtain ⟨c, mem, done, about⟩ := validated
    refine ⟨confirmRow u' m' c, List.mem_map_of_mem mem, ?_⟩
    unfold confirmRow
    split_ifs
    · exact ⟨rfl, about⟩
    · exact ⟨done, about⟩
  · exact validated
  · exact validated

theorem credUpsert_validated (resp : String) (free : t.has (synthOf m.name value) = false) :
    ∃ t', t.credUpsert false u m value true resp = (t', .ok true) ∧ t'.Validated u m value := by
  have still :
      (t.delete (·.synthetic == unconfirmedSynthOf u m.name value)).has (synthOf m.name value) =
      false := by
    rw [has, List.any_eq_false] at free ⊢
    exact fun c mem => free c (mem_delete.mp mem).1
  unfold credUpsert
  simp only [Bool.false_eq_true, if_false, if_true, dif_pos still]
  exact ⟨_, rfl, _, List.mem_append_right _ (List.mem_singleton.mpr rfl), rfl, rfl, rfl, rfl⟩

theorem credFail_kept : t.Kept (t.credFail u' m') u m value := by
  refine kept_update fun c _ awaits => ?_
  split_ifs
  · exact ⟨awaits, Nat.le_succ _⟩
  · exact ⟨awaits, Nat.le_refl _⟩

theorem credFail_counter (mem : c ∈ t.rows) (awaits : c.Awaits u m value) :
    (t.credFail u m).counter u m value = t.counter u m value + 1 := by
  rw [counter_of_mem mem awaits]
  refine (counter_of_mem (List.mem_map_of_mem mem) ?_).trans ?_
  · rw [if_pos ⟨awaits.2.1, awaits.2.2.1, awaits.1⟩]
    exact awaits
  · rw [if_pos ⟨awaits.2.1, awaits.2.2.1, awaits.1⟩]

/-- Only a credential without failed attempts is deleted, unless all of the user's are. -/
theorem credDel_kept {method : Option CredMethod} (some' : method ≠ none ∨ u' ≠ u)
    (tried : t.counter u m value ≠ 0) : t.Kept (t.credDel fails u' method value').1 u m value := by
  unfold credDel
  simp only []
  split_ifs
  · exact Kept.refl
  · intro c mem awaits
    refine ⟨c, mem_delete.mpr ⟨mem, ?_⟩, awaits, Nat.le_refl _⟩
    rw [counter_of_mem mem awaits] at tried
    rcases some' with given | other
    · obtain ⟨k, rfl⟩ := Option.ne_none_iff_exists'.mp given
      simp [awaits.1, tried]
    · rw [awaits.2.1]
      simp [Ne.symm other]
  · exact Kept.refl

theorem credDel_other (other : m' ≠ m) :
    t.Kept (t.credDel fails u' (some m') value').1 u m value := by
  unfold credDel
  simp only []
  split_ifs
  · exact Kept.refl
  · intro c mem awaits
    refine ⟨c, mem_delete.mpr ⟨mem, ?_⟩, awaits, Nat.le_refl _⟩
    rw [awaits.2.2.1]
    simp [Ne.symm other]
  · exact Kept.refl

end Credentials

end LastochkaServer.Source
