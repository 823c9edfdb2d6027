import LastochkaServer.Source.Topic.Sessions

/-!
# Eviction of a user

`evictUser` (`server/topic.go:3571-3619`) is called when a user unsubscribes, is banned or is
deleted from a topic, and is meant to leave no session that is attached on the user's behalf.
Ordinary sessions of the user always go. A multiplexing session loses one entry of the user only,
so a user attached several times through one cluster node stays attached.
-/

namespace LastochkaServer.Guarantees.Eviction

open Lib Source

/-- The session is attached on behalf of `uid`: an ordinary session has one user, a multiplexing
session a list of them. -/
def Represents (s : SessionKey) (pssd : PerSessionData) (uid : Uid) : Prop :=
  if s.isMultiplex then uid ∈ pssd.muids else pssd.uid = uid
  deriving Decidable

/-- No session of the topic is attached on behalf of `uid`. -/
def Detached (t : Topic) (uid : Uid) : Prop :=
  ∀ s pssd, t.sessions.lookup s = some pssd → ¬ Represents s pssd uid

/-- A record that stays has another user and has lost one entry of `uid`, if it had any. -/
theorem remaining_some {uid : Uid} {pssd left : PerSessionData}
    (stays : remaining uid (some pssd) = some left) :
    uid ≠ 0 ∧ pssd.uid ≠ uid ∧ left.uid = pssd.uid ∧
      left.muids.count uid = pssd.muids.count uid - 1 := by
  simp only [remaining, Option.bind_some, Topic.remRecord] at stays
  by_cases whole : pssd.uid = uid ∨ uid = 0
  · simp [whole] at stays
  · obtain ⟨other, nonzero⟩ := not_or.mp whole
    by_cases listed : uid ∈ pssd.muids
    · have counted := Slice.count_swapRemove pssd.muids uid uid listed
      simp only [if_true] at counted
      simp only [whole, listed, if_true, if_false] at stays
      split at stays
      · next impossible => cases impossible
      · cases stays
      next kept =>
      cases stays
      simp only [Option.some.injEq, Prod.mk.injEq] at kept
      rw [← kept.1]
      exact ⟨nonzero, other, rfl, by dsimp only; omega⟩
    · simp only [whole, listed, if_false, Option.some.injEq] at stays
      subst stays
      have absent : pssd.muids.count uid = 0 := List.count_eq_zero.mpr listed
      exact ⟨nonzero, other, rfl, by omega⟩

theorem remaining_of_repeated {uid : Uid} {pssd : PerSessionData} (nonzero : uid ≠ 0)
    (other : pssd.uid ≠ uid) (repeated : 2 ≤ pssd.muids.count uid) :
    ∃ left, remaining uid (some pssd) = some left := by
  have listed : uid ∈ pssd.muids := List.count_pos_iff.mp (by omega)
  have counted := Slice.count_swapRemove pssd.muids uid uid listed
  simp only [if_true] at counted
  have nonempty : (Slice.swapRemove pssd.muids uid).isEmpty = false := by
    cases res : Slice.swapRemove pssd.muids uid with
    | nil =>
      rw [res, List.count_nil] at counted
      omega
    | cons => rfl
  exact ⟨_, by simp [remaining, Topic.remRecord, nonzero, other, listed, nonempty]; rfl⟩

/-- Eviction detaches the user exactly when no multiplexing session lists the user twice. The zero
uid stands for everybody and always empties the topic. -/
theorem evictUser_detaches_iff (w w' : World) (uid : Uid) (unsub : Bool) (skip : String)
    (returned : evictUser w uid unsub skip = .ok w') :
    Detached w'.topic uid ↔
      uid = 0 ∨ ∀ s pssd, w.topic.sessions.lookup s = some pssd → s.isMultiplex →
        pssd.uid = uid ∨ pssd.muids.count uid ≤ 1 := by
  have after := evictUser_sessions returned
  constructor
  · intro detached
    by_cases nonzero : uid = 0
    · exact .inl nonzero
    refine .inr fun s pssd attached multiplex => ?_
    by_contra twice
    obtain ⟨other, repeated⟩ := not_or.mp twice
    obtain ⟨left, stays⟩ := remaining_of_repeated nonzero other (by omega)
    have still : w'.topic.sessions.lookup s = some left := by rw [after, attached, stays]
    have listed : uid ∈ left.muids := by
      have counted := (remaining_some stays).2.2.2
      exact List.count_pos_iff.mp (by omega)
    exact detached s left still (by simpa [Represents, multiplex] using listed)
  · intro once s left still represents
    rw [after] at still
    cases attached : w.topic.sessions.lookup s with
    | none => simp [attached, remaining] at still
    | some pssd =>
      rw [attached] at still
      obtain ⟨nonzero, other, sameUser, counted⟩ := remaining_some still
      cases multiplex : s.isMultiplex with
      | false =>
        simp only [Represents, multiplex, Bool.false_eq_true, if_false] at represents
        exact other (sameUser.symm.trans represents)
      | true =>
        simp only [Represents, multiplex, if_true] at represents
        have listed : 0 < left.muids.count uid := List.count_pos_iff.mpr represents
        rcases once with zero | once
        · exact nonzero zero
        · rcases once s pssd attached multiplex with same | atMostOnce
          · exact other same
          · omega

/-- A session at another cluster node, as its proxy presents it here. -/
def proxied (sid : String) (uid : Uid) : Session :=
  { sid := sid, proto := .proxy, multi := some ⟨"node2", .multiplex⟩, uid := uid }

/-- A group topic that user 7 has joined from two devices connected to the same other node. -/
def twoDevices : World :=
  { topic := (({ cat := .grp, perUser := (∅ : GoMap Uid PerUserData).insert 7 { online := 2 } } :
      Topic).addSession (proxied "phone" 7) 7 false).addSession (proxied "laptop" 7) 7 false }

/-- After user 7 is deleted from the topic, the multiplexing session still carries user 7. -/
theorem evictUser_leaves_second_device :
    ∃ w', evictUser twoDevices 7 true "" = .ok w' ∧
      w'.topic.sessions.lookup ⟨"node2", .multiplex⟩ = some { muids := [7] } ∧
      ¬ Detached w'.topic 7 := by
  refine ⟨_, rfl, by decide, ?_⟩
  intro detached
  exact detached ⟨"node2", .multiplex⟩ { muids := [7] } (by decide) (by decide)

/-- A topic that user 7 has joined from one device at the other node. -/
def oneDevice : World :=
  { topic := ({ cat := .grp, perUser := (∅ : GoMap Uid PerUserData).insert 7 { online := 1 } } :
      Topic).addSession (proxied "phone" 7) 7 false }

theorem evictUser_detaches_one_device :
    ∃ w', evictUser oneDevice 7 true "" = .ok w' ∧ Detached w'.topic 7 := by
  refine ⟨_, rfl, (evictUser_detaches_iff oneDevice _ 7 true "" rfl).mpr (.inr ?_)⟩
  intro s pssd attached multiplex
  have member := (GoMap.mem_entries_iff _ s pssd).mpr attached
  have only : (⟨s, pssd⟩ : Sigma fun _ : SessionKey => PerSessionData) =
      ⟨⟨"node2", .multiplex⟩, { muids := [7] }⟩ := List.mem_singleton.mp member
  cases only
  exact .inr (by decide)

end LastochkaServer.Guarantees.Eviction
