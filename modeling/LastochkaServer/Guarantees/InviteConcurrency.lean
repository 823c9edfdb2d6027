import LastochkaServer.Source.Invites

/-!
# Concurrent requests to one invite

Updates, revocations and registrations work on the row of an invite in any order. The row lock
serialises registrations, so that in every run `use_count` is the number of committed registrations
and is not above `max_uses` when one commits.

An update reads the row and writes it back in two statements without a lock, the status included: a
revocation between them is lost, and the invite is active again. A registration that finds the
invite expired marks it as such in the transaction that it then rolls back, so that the mark is lost
too (`revocation_and_expiry_lost`). In runs without these two cases a revoked invite stays revoked
and nobody registers with it (`sound_while_careful`).
-/

namespace LastochkaServer.Guarantees.InviteConcurrency

open Lib Lib.Run Source

variable {s : InviteState} {row : Invite} {now : Auth.Time} {tx : RegistrationTx} {user : String}
  {e : InviteEvent}

/-- A transaction before and after one of its own statements. -/
inductive Progress (tx : RegistrationTx) : RegistrationTx → Prop
  | inserted (phase : tx.phase = .selected) : Progress tx { tx with phase := .inserted }
  | duplicate (phase : tx.phase = .selected) :
      Progress tx { tx with phase := .refused "duplicate key value violates unique constraint" }
  | updated (phase : tx.phase = .inserted) :
    Progress tx { tx with row := tx.row.used tx.now, phase := .updated }

/-- The error with which a transaction is rolled back. -/
inductive Failure (tx : RegistrationTx) : String → Prop
  | refused (err : String) (phase : tx.phase = .refused err) : Failure tx err
  | driver : Failure tx "driver error"

/-- What one statement may do. -/
inductive Stepped (s : InviteState) : InviteEvent → InviteState → Prop
  | idle (e : InviteEvent) : Stepped s e s
  | read (op : Nat) (req : UpdateInviteRequest) (item : Invite)
      (merged : s.row.merge req = some item) :
      Stepped s (.read op req) { s with updates := s.updates.insert op item }
  | wrote (op : Nat) (item : Invite) (unlocked : s.tx = none)
      (found : s.updates.lookup op = some item) :
      Stepped s (.write op) { s with row := s.row.overwrite item, updates := s.updates.erase op }
  | revoked (unlocked : s.tx = none) :
    Stepped s .revoke { s with row := s.row.revoke, revoked := true }
  | selected (uid : Uid) (now : Auth.Time) (unlocked : s.tx = none) :
      Stepped s (.select uid now) { s with tx := some (selectForUpdate s.row uid now) }
  | progressed (e : InviteEvent) (tx tx' : RegistrationTx) (locked : s.tx = some tx)
      (moved : Progress tx tx') :
      Stepped s e { s with tx := some tx' }
  | committed (tx : RegistrationTx) (locked : s.tx = some tx) (phase : tx.phase = .updated) :
      Stepped s .commit
        ({ s with row := tx.row, registrations := tx.uid :: s.registrations }.finish tx .committed)
  | rolledBack (tx : RegistrationTx) (err : String) (locked : s.tx = some tx)
      (failed : Failure tx err) :
      Stepped s .rollback (s.finish tx (.failed err))

theorem advance_stepped (locked : s.tx = some tx) (e : InviteEvent) :
    Stepped s e (s.advance tx e) := by
  cases e with
  | insert =>
    simp only [InviteState.advance]
    split
    · next phase =>
      split_ifs
      · exact .progressed _ tx _ locked (.duplicate phase)
      · exact .progressed _ tx _ locked (.inserted phase)
    · exact .idle _
  | update =>
    simp only [InviteState.advance]
    split
    · next phase => exact .progressed _ tx _ locked (.updated phase)
    · exact .idle _
  | commit =>
    simp only [InviteState.advance]
    split
    · next phase => exact .committed tx locked phase
    · exact .idle _
  | rollback =>
    simp only [InviteState.advance]
    split
    · next err phase => exact .rolledBack tx err locked (.refused err phase)
    · exact .rolledBack tx _ locked .driver
  | _ => exact .idle _

theorem unlocked_stepped (unlocked : s.tx = none) (e : InviteEvent) : Stepped s e (s.unlocked e) := by
  cases e with
  | write op =>
    simp only [InviteState.unlocked]
    split
    · next item found => exact .wrote op item unlocked found
    · exact .idle _
  | revoke => exact .revoked unlocked
  | select uid now => exact .selected uid now unlocked
  | _ => exact .idle _

theorem step_stepped (s : InviteState) (e : InviteEvent) : Stepped s e (s.step e) := by
  cases e with
  | read op req =>
    simp only [InviteState.step]
    split
    · next item merged => exact .read op req item merged
    · exact .idle _
  | _ =>
    simp only [InviteState.step]
    split
    · next tx locked => exact advance_stepped locked _
    · next unlocked => exact unlocked_stepped unlocked _

/-- What the transaction has found holds of the row as long as the row is locked. -/
def TxOk (row : Invite) (tx : RegistrationTx) : Prop :=
  match tx.phase with
  | .selected | .inserted => tx.row = row ∧ row.refusal tx.now (userId tx.uid) = none
  | .updated => tx.row = row.used tx.now ∧ row.refusal tx.now (userId tx.uid) = none
  | .refused _ => True

structure Counted (s : InviteState) : Prop where
  tx : ∀ tx, s.tx = some tx → TxOk s.row tx
  counted : s.row.useCount = s.registrations.length
  within : ∀ e ∈ s.ended, e.outcome = .committed → e.row.useCount ≤ e.row.maxUses

theorem refusal_none (usable : row.refusal now user = none) :
    row.status = .active ∧ row.useCount < row.maxUses := by
  unfold Invite.refusal at usable
  split_ifs at usable with inactive expired exhausted self
  exact ⟨not_not.mp inactive, not_le.mp exhausted⟩

theorem refusal_expired (expired : row.refusal now user = some "invite_expired") :
    row.status = .active ∧ row.isExpired now := by
  unfold Invite.refusal at expired
  split_ifs at expired with inactive late exhausted self
  · exact absurd expired (by decide)
  · exact ⟨not_not.mp inactive, late⟩
  · exact absurd expired (by decide)
  · exact absurd expired (by decide)

theorem selectForUpdate_ok (row : Invite) (uid : Uid) (now : Auth.Time) :
    TxOk row (selectForUpdate row uid now) := by
  unfold selectForUpdate
  split
  · next usable => exact ⟨rfl, usable⟩
  · exact trivial

theorem Progress.ok {tx' : RegistrationTx} (moved : Progress tx tx') (ok : TxOk row tx) :
    TxOk row tx' := by
  cases moved with
  | inserted phase =>
    simp only [TxOk, phase] at ok
    exact ok
  | duplicate phase => exact trivial
  | updated phase =>
    simp only [TxOk, phase] at ok
    exact ⟨congrArg (Invite.used · tx.now) ok.1, ok.2⟩

theorem Stepped.counted {s' : InviteState} (stepped : Stepped s e s') (ok : Counted s) :
    Counted s' := by
  cases stepped with
  | idle => exact ok
  | read op req item merged => exact { ok with }
  | wrote op item unlocked found
  | revoked unlocked =>
    refine { ok with tx := fun tx locked => ?_ }
    rw [unlocked] at locked
    cases locked
  | selected uid now unlocked =>
    refine { ok with tx := fun tx locked => ?_ }
    cases locked
    exact selectForUpdate_ok s.row uid now
  | progressed e tx tx' locked moved =>
    refine { ok with tx := fun tx'' same => ?_ }
    cases same
    exact moved.ok (ok.tx tx locked)
  | committed tx locked phase =>
    have held := ok.tx tx locked
    simp only [TxOk, phase] at held
    have left := (refusal_none held.2).2
    refine ⟨fun tx none_left => (by cases none_left), ?_, fun ended mem done => ?_⟩
    · change tx.row.useCount = _
      rw [held.1]
      simp only [Invite.used, InviteState.finish, List.length_cons, ok.counted]
      omega
    · rcases List.mem_cons.mp mem with rfl | earlier
      · change tx.row.useCount ≤ tx.row.maxUses
        rw [held.1]
        simp only [Invite.used]
        omega
      · exact ok.within ended earlier done
  | rolledBack tx err locked failed =>
    refine ⟨fun tx none_left => (by cases none_left), ok.counted, fun ended mem done => ?_⟩
    rcases List.mem_cons.mp mem with rfl | earlier
    · cases done
    · exact ok.within ended earlier done

/-- The invite as it is created, before anybody has used it. -/
def initial (row : Invite) : InviteState := { row := { row with useCount := 0 } }

theorem initial_counted (row : Invite) : Counted (initial row) where
  tx tx locked := by cases locked
  counted := rfl
  within _ mem := by cases mem

/-- An update does not write to a revoked invite what it has read before, and no registration finds
the invite expired. -/
def Careful (s : InviteState) : InviteEvent → Prop
  | .write op =>
    s.tx = none → ∀ item ∈ s.updates.lookup op, s.row.status = .revoked → item.status = .revoked
  | .select _ now => s.tx = none → ¬ (s.row.status = .active ∧ s.row.isExpired now)
  | _ => True

instance (s : InviteState) (e : InviteEvent) : Decidable (Careful s e) := by
  cases e <;> unfold Careful <;> infer_instance

/-- The guarantees for an invite. -/
structure Sound (s : InviteState) : Prop where
  stays_revoked : s.revoked → s.row.status = .revoked
  none_after : ∀ e ∈ s.ended, e.outcome = .committed → e.afterRevocation = false
  counted : s.row.useCount = s.registrations.length
  within : ∀ e ∈ s.ended, e.outcome = .committed → e.row.useCount ≤ e.row.maxUses
  expired : ∀ e ∈ s.ended, e.outcome = .failed "invite_expired" → e.row.status = .expired

/-- What is kept in addition to the counts. -/
structure Kept (s : InviteState) : Prop where
  counts : Counted s
  stays_revoked : s.revoked → s.row.status = .revoked
  none_after : ∀ e ∈ s.ended, e.outcome = .committed → e.afterRevocation = false
  unexpired : ∀ tx, s.tx = some tx → tx.phase ≠ .refused "invite_expired"
  expired : ∀ e ∈ s.ended, e.outcome = .failed "invite_expired" → e.row.status = .expired

theorem selectForUpdate_unexpired {uid : Uid}
    (current : ¬ (row.status = .active ∧ row.isExpired now)) :
    (selectForUpdate row uid now).phase ≠ .refused "invite_expired" := by
  unfold selectForUpdate
  split
  · exact TxPhase.noConfusion
  · next err refused =>
    intro same
    cases same
    exact current (refusal_expired refused)

theorem Stepped.kept {s' : InviteState} (stepped : Stepped s e s') (careful : Careful s e)
    (ok : Kept s) :
    Kept s' := by
  have counts := stepped.counted ok.counts
  cases stepped with
  | idle => exact ok
  | read op req item merged => exact { ok with counts }
  | wrote op item unlocked found =>
    refine { ok with counts, stays_revoked := fun revoked => ?_ }
    exact careful unlocked item found (ok.stays_revoked revoked)
  | revoked unlocked => exact { ok with counts, stays_revoked := fun _ => rfl }
  | selected uid now unlocked =>
    refine { ok with counts, unexpired := fun tx locked => ?_ }
    cases locked
    exact selectForUpdate_unexpired (careful unlocked)
  | progressed e tx tx' locked moved =>
    refine { ok with counts, unexpired := fun tx'' same => ?_ }
    cases same
    cases moved with
    | inserted | updated => exact TxPhase.noConfusion
    | duplicate =>
      intro same
      exact absurd (TxPhase.refused.inj same) (by decide)
  | committed tx locked phase =>
    -- The row was active when it was locked, so it had not been revoked.
    have usable := ok.counts.tx tx locked
    simp only [TxOk, phase] at usable
    have current : s.revoked = false := by
      cases revoked : s.revoked with
      | false => rfl
      | true =>
        have status := ok.stays_revoked revoked
        rw [(refusal_none usable.2).1] at status
        cases status
    refine ⟨counts, fun revoked => ?_, fun ended mem done => ?_,
      fun tx none_left => (by cases none_left), fun ended mem failed => ?_⟩
    · change s.revoked at revoked
      rw [current] at revoked
      cases revoked
    · rcases List.mem_cons.mp mem with rfl | earlier
      · exact current
      · exact ok.none_after ended earlier done
    · rcases List.mem_cons.mp mem with rfl | earlier
      · cases failed
      · exact ok.expired ended earlier failed
  | rolledBack tx err locked failed =>
    refine ⟨counts, ok.stays_revoked, fun ended mem done => ?_,
      fun tx none_left => (by cases none_left), fun ended mem late => ?_⟩
    · rcases List.mem_cons.mp mem with rfl | earlier
      · cases done
      · exact ok.none_after ended earlier done
    · rcases List.mem_cons.mp mem with rfl | earlier
      · cases failed with
        | refused err phase =>
          rw [TxOutcome.failed.inj late] at phase
          exact absurd phase (ok.unexpired tx locked)
        | driver => exact absurd (TxOutcome.failed.inj late) (by decide)
      · exact ok.expired ended earlier late

theorem initial_kept (row : Invite) : Kept (initial row) where
  counts := initial_counted row
  stays_revoked revoked := by cases revoked
  none_after _ mem := by cases mem
  unexpired _ locked := by cases locked
  expired _ mem := by cases mem

/-- In every run in which no update writes over a revocation that it has not seen and no
registration comes too late, the guarantees hold in every state. -/
theorem sound_while_careful (row : Invite) (events : List InviteEvent)
    (careful : Guarded InviteState.step Careful (initial row) events) :
    Sound (run InviteState.step (initial row) events) := by
  have preserved : ∀ (s : InviteState) (e : InviteEvent), Kept s → Careful s e → Kept (s.step e) :=
    fun s e ok careful => (step_stepped s e).kept careful ok
  have kept := run_invariant preserved (initial_kept row) careful
  exact { kept with counted := kept.counts.counted, within := kept.counts.within }

/-- An invite for two that expires at time 100. -/
def forTwo : Invite := { id := "a", inviterUserId := "usrA", maxUses := 2, expiresAt := some 100 }

/-- The invite is revoked while an update of `max_uses` is between its statements; then somebody
registers. -/
def revokedMeanwhile : List InviteEvent :=
  [.read 0 { maxUses := some 5 }, .revoke, .write 0, .select 1 50, .insert, .update, .commit]

/-- Somebody tries to register too late. -/
def tooLate : List InviteEvent := [.select 1 200, .rollback]

/-- A revoked invite is active again and is used; an invite that was refused as expired is still
active. -/
theorem revocation_and_expiry_lost :
    (run InviteState.step (initial forTwo) revokedMeanwhile).revoked ∧
      (run InviteState.step (initial forTwo) revokedMeanwhile).row.status = .active ∧
      (run InviteState.step (initial forTwo) revokedMeanwhile).ended.map
          (fun e => (e.uid, e.outcome, e.afterRevocation)) = [(1, .committed, true)] ∧
      (run InviteState.step (initial forTwo) tooLate).ended.map (fun e => (e.outcome, e.row.status)) =
        [(.failed "invite_expired", .active)] := by
  decide +kernel

/-- One registration, and another one after the revocation. -/
def revokedLater : List InviteEvent :=
  [.read 0 { maxUses := some 5 }, .write 0, .select 1 50, .insert, .update, .commit, .revoke,
    .select 2 60, .rollback]

theorem revokedLater_sound :
    Guarded InviteState.step Careful (initial forTwo) revokedLater ∧
      Sound (run InviteState.step (initial forTwo) revokedLater) := by
  have careful : Guarded InviteState.step Careful (initial forTwo) revokedLater := by decide +kernel
  exact ⟨careful, sound_while_careful forTwo revokedLater careful⟩

end LastochkaServer.Guarantees.InviteConcurrency
