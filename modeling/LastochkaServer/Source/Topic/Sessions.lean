import LastochkaServer.Lib.Slice
import LastochkaServer.Source.Topic.State

/-!
# Attached sessions

`addSession`, `remSession` and `evictUser` of `server/topic.go:3571-3619, 3934-4001`. A topic
holds ordinary sessions, each for one user, and multiplexing sessions, each for a list of users at
another cluster node.
-/

namespace LastochkaServer.Source

open Lib

namespace Topic

variable {uid : Uid}

/-- `addSession`: `sess` attaches on behalf of `asUid`. -/
def addSession (t : Topic) (sess : Session) (asUid : Uid) (isChanSub : Bool) : Topic :=
  let s := sess.attached
  match t.sessions.lookup s with
  | some pssd =>
    if s.isMultiplex && !sess.background then
      { t with sessions := t.sessions.insert s { pssd with muids := pssd.muids ++ [asUid] } }
    else t
  | none =>
    let pssd : PerSessionData :=
      if s.isMultiplex then
        if sess.background then {} else { muids := [asUid], isChanSub := isChanSub }
      else { uid := asUid, isChanSub := isChanSub }
    { t with sessions := t.sessions.insert s pssd }

/-- What `remSession` makes of the record of a session: the record as it is returned, and whether
the session is detached. `none` when the session is not there on behalf of `asUid`. -/
def remRecord (pssd : PerSessionData) (asUid : Uid) : Option (PerSessionData × Bool) :=
  if pssd.uid = asUid ∨ asUid = 0 then some (pssd, true)
  else if asUid ∈ pssd.muids then
    let muids := Slice.swapRemove pssd.muids asUid
    some ({ pssd with muids := muids }, muids.isEmpty)
  else none

/-- `remSession` on the key under which the topic knows the session. -/
def remSession (t : Topic) (s : SessionKey) (asUid : Uid) : Topic × Option (PerSessionData × Bool) :=
  match t.sessions.lookup s with
  | none => (t, none)
  | some pssd =>
    match remRecord pssd asUid with
    | none => (t, none)
    | some (pssd, true) => ({ t with sessions := t.sessions.erase s }, some (pssd, true))
    | some (pssd, false) => ({ t with sessions := t.sessions.insert s pssd }, some (pssd, false))

end Topic

/-- The body of `evictUser`'s loop over the attached sessions. -/
def evictSession (uid : Uid) (skip : String) (w : World) (s : SessionKey) : World :=
  match w.topic.remSession s uid with
  | (_, none) => w
  | (topic, some (_, removed)) =>
    let w := { w with topic := topic }
    let w := if removed then w.emit (.detachSession s.sid) else w
    if s.sid ≠ skip then w.emit (.queueOut s.sid .noErrEvicted) else w

/-- `evictUser`'s update of the cached per-user data. -/
def forgetUser (w : World) (uid : Uid) (unsub : Bool) : World :=
  let t := w.topic
  match t.perUser.lookup uid with
  | none =>
    if unsub ∧ t.cat = .p2p then { w with topic := t.setPud uid { deleted := true } } else w
  | some pud =>
    if unsub then
      if t.cat = .p2p then { w with topic := t.setPud uid { pud with online := 0, deleted := true } }
      else
        let w := { w with topic := { t with perUser := t.perUser.erase uid }.computePerUserAcsUnion }
        if pud.isChan then w else w.emit (.usersRegisterUser uid false)
    else if pud.isChan then { w with topic := { t with perUser := t.perUser.erase uid } }
    else { w with topic := t.setPud uid { pud with online := 0 } }

/-- `evictUser`: clear what is cached about the user, then detach the user's sessions. -/
def evictUser (w : World) (uid : Uid) (unsub : Bool) (skip : String) : Exec World := do
  let w := forgetUser w uid unsub
  let _ ← w.topic.original uid
  pure (w.topic.sessions.keys.foldl (evictSession uid skip) w)

/-- What is left of a session's record after `remSession`. -/
def remaining (uid : Uid) (record : Option PerSessionData) : Option PerSessionData :=
  record.bind fun pssd =>
    match Topic.remRecord pssd uid with
    | none => some pssd
    | some (_, true) => none
    | some (pssd, false) => some pssd

namespace Topic

theorem remSession_frame (t : Topic) (s : SessionKey) (uid : Uid) :
    (t.remSession s uid).1 = { t with sessions := (t.remSession s uid).1.sessions } := by
  unfold remSession
  cases t.sessions.lookup s with
  | none => rfl
  | some pssd =>
    dsimp only
    split <;> rfl

/-- How `remSession` has found the session: attached for the one user, or for all of them, or with
the user on its list. -/
theorem remSession_some {t topic : Topic} {s : SessionKey} {pssd : PerSessionData} {removed : Bool}
    (found : t.remSession s uid = (topic, some (pssd, removed))) :
    ∃ old, t.sessions.lookup s = some old ∧
      ((old.uid = uid ∨ uid = 0) ∧ pssd = old ∧ topic = { t with sessions := t.sessions.erase s } ∨
        ¬ (old.uid = uid ∨ uid = 0) ∧ uid ∈ old.muids ∧
          pssd = { old with muids := Slice.swapRemove old.muids uid } ∧
          (pssd.muids = [] ∧ topic = { t with sessions := t.sessions.erase s } ∨
            topic = { t with sessions := t.sessions.insert s pssd })) := by
  unfold remSession at found
  cases attached : t.sessions.lookup s with
  | none => simp [attached] at found
  | some old =>
    refine ⟨old, rfl, ?_⟩
    simp only [attached] at found
    unfold remRecord at found
    by_cases whole : old.uid = uid ∨ uid = 0
    · simp only [whole, if_true, Prod.mk.injEq, Option.some.injEq] at found
      exact .inl ⟨whole, found.2.1.symm, found.1.symm⟩
    · by_cases listed : uid ∈ old.muids
      · refine .inr ⟨whole, listed, ?_⟩
        simp only [whole, listed, if_true, if_false] at found
        cases empty : (Slice.swapRemove old.muids uid).isEmpty with
        | true =>
          simp only [empty, Prod.mk.injEq, Option.some.injEq] at found
          obtain ⟨rfl, rfl, -⟩ := found
          exact ⟨rfl, .inl ⟨List.isEmpty_iff.mp empty, rfl⟩⟩
        | false =>
          simp only [empty, Prod.mk.injEq, Option.some.injEq] at found
          obtain ⟨rfl, rfl, -⟩ := found
          exact ⟨rfl, .inr rfl⟩
      · simp [whole, listed] at found

theorem remSession_lookup_self (t : Topic) (s : SessionKey) (uid : Uid) :
    (t.remSession s uid).1.sessions.lookup s = remaining uid (t.sessions.lookup s) := by
  unfold remSession
  cases found : t.sessions.lookup s with
  | none => simpa [remaining] using found
  | some pssd =>
    dsimp [remaining]
    split
    · exact found
    · exact AList.lookup_erase s t.sessions
    · exact AList.lookup_insert t.sessions

theorem remSession_lookup_other (t : Topic) (s s' : SessionKey) (uid : Uid) (other : s' ≠ s) :
    (t.remSession s uid).1.sessions.lookup s' = t.sessions.lookup s' := by
  unfold remSession
  cases t.sessions.lookup s with
  | none => rfl
  | some pssd =>
    dsimp only
    split
    · rfl
    · exact AList.lookup_erase_ne other
    · exact AList.lookup_insert_ne other

end Topic

theorem evictSession_topic (uid : Uid) (skip : String) (w : World) (s : SessionKey) :
    (evictSession uid skip w s).topic = (w.topic.remSession s uid).1 := by
  unfold evictSession
  split
  · next topic res =>
    -- nothing was removed: `remSession` has returned the topic it was given
    have unchanged : topic = w.topic := by
      unfold Topic.remSession at res
      split at res
      · exact (congrArg Prod.fst res).symm
      · split at res <;> simp_all
    rw [res, unchanged]
  · next topic record removed res =>
    rw [res]
    split <;> split <;> rfl

@[simp] theorem evictSession_store (uid : Uid) (skip : String) (w : World) (s : SessionKey) :
    (evictSession uid skip w s).store = w.store := by
  unfold evictSession
  split
  · rfl
  · split <;> split <;> rfl

theorem forgetUser_frame (w : World) (uid : Uid) (unsub : Bool) :
    (forgetUser w uid unsub).topic =
        { w.topic with
          perUser := (forgetUser w uid unsub).topic.perUser
          modeWantUnion := (forgetUser w uid unsub).topic.modeWantUnion
          modeGivenUnion := (forgetUser w uid unsub).topic.modeGivenUnion } ∧
      (forgetUser w uid unsub).store = w.store := by
  unfold forgetUser
  dsimp only
  cases w.topic.perUser.lookup uid with
  | none =>
    split_ifs <;> exact ⟨rfl, rfl⟩
  | some pud =>
    dsimp only
    split_ifs <;> exact ⟨rfl, rfl⟩

@[simp] theorem forgetUser_sessions (w : World) (uid : Uid) (unsub : Bool) :
    (forgetUser w uid unsub).topic.sessions = w.topic.sessions := by
  rw [(forgetUser_frame w uid unsub).1]

@[simp] theorem forgetUser_store (w : World) (uid : Uid) (unsub : Bool) :
    (forgetUser w uid unsub).store = w.store :=
  (forgetUser_frame w uid unsub).2

theorem evictSessions_frame (uid : Uid) (skip : String) (keys : List SessionKey) (w : World) :
    (keys.foldl (evictSession uid skip) w).topic =
        { w.topic with sessions := (keys.foldl (evictSession uid skip) w).topic.sessions } ∧
      (keys.foldl (evictSession uid skip) w).store = w.store := by
  induction keys generalizing w with
  | nil => exact ⟨rfl, rfl⟩
  | cons s rest ih =>
    obtain ⟨topic, store⟩ := ih (evictSession uid skip w s)
    rw [List.foldl_cons]
    refine ⟨?_, by rw [store, evictSession_store]⟩
    rw [topic, evictSession_topic, Topic.remSession_frame]

section

variable (ran : evictUser w uid unsub skip = .ok w')
include ran

theorem evictUser_eq :
    w' = w.topic.sessions.keys.foldl (evictSession uid skip) (forgetUser w uid unsub) := by
  unfold evictUser at ran
  cases name : (forgetUser w uid unsub).topic.original uid with
  | error p => simp [name, bind, Except.bind] at ran
  | ok n => simpa [name, bind, Except.bind, pure, Except.pure] using ran.symm

/-- After an eviction every record is what `remSession` leaves of it. -/
theorem evictUser_sessions (s : SessionKey) :
    w'.topic.sessions.lookup s = remaining uid (w.topic.sessions.lookup s) := by
  rw [evictUser_eq ran]
  have swept := GoMap.foldl_lookup (fun w : World => w.topic.sessions) (evictSession uid skip)
    (fun _ => remaining uid)
    (fun w s => by rw [evictSession_topic, Topic.remSession_lookup_self])
    (fun w s s' other => by rw [evictSession_topic, Topic.remSession_lookup_other _ _ _ _ other])
    w.topic.sessions.keys w.topic.sessions.keys_nodup (forgetUser w uid unsub) s
  rw [swept, forgetUser_sessions]
  split
  · rfl
  · next absent =>
    rw [AList.lookup_eq_none.mpr absent]
    rfl

/-- Apart from the session map an eviction is `forgetUser`. -/
theorem evictUser_frame :
    w'.topic = { (forgetUser w uid unsub).topic with sessions := w'.topic.sessions } ∧
      w'.store = w.store := by
  rw [evictUser_eq ran]
  obtain ⟨topic, store⟩ :=
    evictSessions_frame uid skip w.topic.sessions.keys (forgetUser w uid unsub)
  exact ⟨topic, by rw [store, forgetUser_store]⟩

end

end LastochkaServer.Source
