import LastochkaServer.Lib.Run
import LastochkaServer.Source.CredentialRows

/-!
# Consistency of the credentials table

Any sequence of `CredUpsert`, `CredConfirm`, `CredFail` and `CredDel`, each of which may fail,
leaves a user with at most one active unvalidated credential of a method, gives a validated
credential to one user only, and never takes failed attempts back, except when `CredDel` without a
method deletes all that the user has.
-/

namespace LastochkaServer.Guarantees.CredentialTable

open Source Lib Lib.Run

/-- An operation on the table, and whether the database fails in it. -/
inductive CredOp
  | upsert (user : Uid) (method : CredMethod) (value : String) (done : Bool) (resp : String)
  | confirm (user : Uid) (method : CredMethod)
  | fail (user : Uid) (method : CredMethod)
  | del (user : Uid) (method : Option CredMethod) (value : String)
  deriving DecidableEq

def apply (t : Credentials) : Bool × CredOp → Credentials
  | (fails, .upsert user method value done resp) => (t.credUpsert fails user method value done resp).1
  | (fails, .confirm user method) => (t.credConfirm fails user method).1
  | (fails, .fail user method) => if fails then t else t.credFail user method
  | (fails, .del user method value) => (t.credDel fails user method value).1

/-- `CredDel` with a blank method. -/
def Wipes (u : Uid) (op : Bool × CredOp) : Prop := ∃ value, op.2 = .del u none value

theorem counter_step (t : Credentials) (op : Bool × CredOp) (u : Uid) (m : CredMethod)
    (value : String) :
    t.counter u m value ≤ (apply t op).counter u m value ∨ Wipes u op ∨
      (apply t op).Validated u m value := by
  obtain ⟨fails, op⟩ := op
  cases op with
  | upsert user method address done resp =>
    rcases Credentials.credUpsert_kept (t := t) fails done resp with kept | ⟨-, validated⟩
    · exact .inl kept.counter_le
    · exact .inr (.inr validated)
  | confirm user method =>
    rcases Credentials.credConfirm_kept (t := t) fails with kept | validated
    · exact .inl kept.counter_le
    · exact .inr (.inr validated)
  | fail user method =>
    rw [apply]
    split_ifs
    · exact .inl (Nat.le_refl _)
    · exact .inl Credentials.credFail_kept.counter_le
  | del user method address =>
    by_cases wiped : method = none ∧ user = u
    · obtain ⟨rfl, rfl⟩ := wiped
      exact .inr (.inl ⟨address, rfl⟩)
    · by_cases tried : t.counter u m value = 0
      · exact .inl (by omega)
      · exact .inl (Credentials.credDel_kept fails (not_and_or.mp wiped) tried).counter_le

theorem counter_run (ops : List (Bool × CredOp)) (t : Credentials) (u : Uid) (m : CredMethod)
    (value : String) :
    t.counter u m value ≤ (run apply t ops).counter u m value ∨ (∃ op ∈ ops, Wipes u op) ∨
      ∃ before after, ops = before ++ after ∧ (run apply t before).Validated u m value := by
  induction ops generalizing t with
  | nil => exact .inl (Nat.le_refl _)
  | cons op rest ih =>
    rcases counter_step t op u m value with kept | wiped | validated
    · rcases ih (apply t op) with later | ⟨other, mem, wiped⟩ | ⟨before, after, rfl, validated⟩
      · exact .inl (kept.trans later)
      · exact .inr (.inl ⟨other, List.mem_cons_of_mem _ mem, wiped⟩)
      · exact .inr (.inr ⟨op :: before, after, rfl, validated⟩)
    · exact .inr (.inl ⟨op, List.mem_cons_self, wiped⟩)
    · exact .inr (.inr ⟨[op], rest, rfl, validated⟩)

def OneActive (t : Credentials) : Prop :=
  ∀ u m, ∀ c ∈ t.rows, ∀ d ∈ t.rows, c.Active u m → d.Active u m → c = d

/-- The active credentials were active before. -/
def Descends (t t' : Credentials) (u : Uid) (m : CredMethod) : Prop :=
  ∀ d ∈ t'.rows, d.Active u m → ∃ c ∈ t.rows, c.Active u m ∧ c.value = d.value

variable {t : Credentials} {u user : Uid} {m method : CredMethod}

theorem Descends.of_subset {t' : Credentials}
    (subset : ∀ d ∈ t'.rows, d.Active u m → d ∈ t.rows) : Descends t t' u m := fun d mem active =>
  ⟨d, subset d mem active, active, rfl⟩

theorem active_of_deactivate {c : Credential}
    (mem : c ∈ (t.deactivate user method).rows) (active : c.Active u m) :
    c ∈ t.rows ∧ ¬ (user = u ∧ method = m) := by
  obtain ⟨old, present, rfl⟩ := List.mem_map.mp mem
  split_ifs at active ⊢ with chosen
  · exact absurd active.2.1 Bool.true_eq_false.mp
  · refine ⟨present, ?_⟩
    rintro ⟨rfl, rfl⟩
    exact chosen ⟨active.2.2.1, active.2.2.2, active.1⟩

theorem active_of_undelete {value resp : String}
    {d : Credential} (mem : d ∈ (t.undelete user method value resp).rows) (active : d.Active u m) :
    d ∈ t.rows ∨ d.Awaits user method value := by
  obtain ⟨old, present, rfl⟩ := List.mem_map.mp mem
  split_ifs at active ⊢ with chosen
  · have awaits := (Credentials.synthetic_unconfirmed_iff present).mp chosen
    exact .inr ⟨rfl, awaits.2⟩
  · exact .inl present

variable (t)

theorem credUpsert_active (fails : Bool) (user : Uid) (method : CredMethod) (value : String)
    (done : Bool) (resp : String) (u : Uid) (m : CredMethod) :
    Descends t (t.credUpsert fails user method value done resp).1 u m ∨
      ∀ d ∈ (t.credUpsert fails user method value done resp).1.rows, d.Active u m →
        d.value = value := by
  -- What is active after the new credential has been entered next to the inactive ones.
  have entered : ∀ t' : Credentials, (∀ d ∈ t'.rows, d.Active u m →
      d ∈ (t.deactivate user method).rows ∨ d.Awaits user method value) →
      Descends t t' u m ∨ ∀ d ∈ t'.rows, d.Active u m → d.value = value := by
    intro t' rows
    by_cases same : user = u ∧ method = m
    · refine .inr fun d mem active => ?_
      rcases rows d mem active with old | new
      · exact absurd same (active_of_deactivate old active).2
      · exact new.2.2.2
    · refine .inl (Descends.of_subset fun d mem active => ?_)
      rcases rows d mem active with old | new
      · exact (active_of_deactivate old active).1
      · exact absurd ⟨new.2.1.symm.trans active.2.2.1, new.2.2.1.symm.trans active.2.2.2⟩ same
  unfold Credentials.credUpsert
  simp only []
  split_ifs with _ confirmed free taken pending
  · exact .inl (Descends.of_subset fun d mem _ => mem)
  · refine .inl (Descends.of_subset fun d mem active => ?_)
    rcases List.mem_append.mp mem with old | new
    · exact (Credentials.mem_delete.mp old).1
    · rw [List.mem_singleton.mp new] at active
      exact absurd active.1 Bool.true_eq_false.mp
  · exact .inl (Descends.of_subset fun d mem _ => mem)
  · exact .inl (Descends.of_subset fun d mem _ => mem)
  · refine entered _ fun d mem _ => ?_
    rcases List.mem_append.mp mem with old | new
    · exact .inl old
    · rw [List.mem_singleton.mp new]
      exact .inr ⟨rfl, rfl, rfl, rfl⟩
  · exact entered _ fun d mem active => active_of_undelete mem active

theorem credConfirm_active (fails : Bool) (user u : Uid) (method m : CredMethod) :
    Descends t (t.credConfirm fails user method).1 u m := by
  unfold Credentials.credConfirm
  split_ifs with _ unique any
  · exact Descends.of_subset fun d mem _ => mem
  · refine Descends.of_subset fun d mem active => ?_
    obtain ⟨old, present, rfl⟩ := List.mem_map.mp mem
    unfold Credentials.confirmRow at active ⊢
    split_ifs at active ⊢ with chosen
    · exact absurd active.1 Bool.true_eq_false.mp
    · exact present
  · exact Descends.of_subset fun d mem _ => mem
  · exact Descends.of_subset fun d mem _ => mem

theorem credFail_active (user u : Uid) (method m : CredMethod) :
    Descends t (t.credFail user method) u m := by
  intro d mem active
  obtain ⟨old, present, rfl⟩ := List.mem_map.mp mem
  refine ⟨old, present, ?_⟩
  split_ifs at active ⊢
  all_goals exact ⟨active, rfl⟩

theorem credDel_active (fails : Bool) (user u : Uid) (method : Option CredMethod)
    (value : String) (m : CredMethod) : Descends t (t.credDel fails user method value).1 u m := by
  unfold Credentials.credDel
  simp only []
  refine Descends.of_subset fun d mem _ => ?_
  split_ifs at mem
  · exact mem
  · exact (Credentials.mem_delete.mp mem).1
  · exact mem

theorem oneActive_step (op : Bool × CredOp) (one : OneActive t) : OneActive (apply t op) := by
  have step : ∀ u m, Descends t (apply t op) u m ∨
      ∃ value, ∀ d ∈ (apply t op).rows, d.Active u m → d.value = value := by
    intro u m
    obtain ⟨fails, op⟩ := op
    cases op with
    | upsert user method value done resp =>
      exact (credUpsert_active t fails user method value done resp u m).imp_right fun new =>
        ⟨value, new⟩
    | confirm user method => exact .inl (credConfirm_active t fails user u method m)
    | fail user method =>
      rw [apply]
      split_ifs
      · exact .inl (Descends.of_subset fun d mem _ => mem)
      · exact .inl (credFail_active t user u method m)
    | del user method value => exact .inl (credDel_active t fails user u method value m)
  intro u m c first d second one' other
  -- Active credentials with one value are the same row.
  have same : c.value = d.value := by
    rcases step u m with old | ⟨value, new⟩
    · obtain ⟨c₀, before, active, named⟩ := old c first one'
      obtain ⟨d₀, before', active', named'⟩ := old d second other
      rw [← named, ← named', one u m c₀ before d₀ before' active active']
    · rw [new c first one', new d second other]
  exact Credentials.awaits_unique first second one'.awaits (same ▸ other.awaits)

/-- In every run of the operations a user has at most one active unvalidated credential of a method,
a validated credential belongs to one user, and the failed attempts to validate a credential do not
decrease, unless it is validated meanwhile or all credentials of its user are deleted. -/
theorem table_consistent (ops : List (Bool × CredOp)) :
    OneActive (run apply .empty ops) ∧
    (∀ c ∈ (run apply .empty ops).rows, ∀ d ∈ (run apply .empty ops).rows, c.done → d.done →
      c.method = d.method → c.value = d.value → c.user = d.user) ∧
    ∀ before after, ops = before ++ after → ∀ u m value,
      (run apply .empty before).counter u m value ≤ (run apply .empty ops).counter u m value ∨
      (∃ op ∈ after, Wipes u op) ∨
      ∃ middle rest, after = middle ++ rest ∧
        (run apply .empty (before ++ middle)).Validated u m value := by
  refine ⟨?_, ?_, ?_⟩
  · refine run_preserves (fun t op one => oneActive_step t op one) ?_ ops
    intro u m c member
    exact absurd member List.not_mem_nil
  · intro c first d second one other method value
    rw [Credentials.validated_unique first second one other method value]
  · rintro before after rfl u m value
    have split : ∀ rest, run apply Credentials.empty (before ++ rest) =
        run apply (run apply .empty before) rest := fun rest => List.foldl_append
    simp only [split]
    exact counter_run after _ u m value

/-- A blank method takes the failed attempts of an unvalidated credential back. -/
theorem attempts_wiped :
    (run apply .empty
        [(false, .upsert 1 .tel "+15550001" false "1234"), (false, .fail 1 .tel)]).counter 1
        .tel "+15550001" = 1 ∧
      (run apply .empty [(false, .upsert 1 .tel "+15550001" false "1234"), (false, .fail 1 .tel),
        (false, .del 1 none "")]).rows = [] ∧
      (run apply .empty [(false, .upsert 1 .tel "+15550001" false "1234"), (false, .fail 1 .tel),
        (false, .del 1 none ""), (false, .upsert 1 .tel "+15550001" false "4321")]).counter 1
          .tel "+15550001" = 0 :=
  ⟨by decide, by decide, by decide⟩

end LastochkaServer.Guarantees.CredentialTable
