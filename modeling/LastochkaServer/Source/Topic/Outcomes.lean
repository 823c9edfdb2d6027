import LastochkaServer.Lib.Except
import LastochkaServer.Source.Topic.Subscriptions

/-!
# How the subscription requests end

One inversion for each handler of `Subscriptions`: what has been computed, stored and applied when
it returns. What is true of the cache, the store or the counters after a request is derived from
these.
-/

namespace LastochkaServer.Source

open Lib AccessMode

variable {r : SubRequest} {m : AccessMode} {n : NewSub} {old userData : PerUserData}
  {res : Except String (Option MsgAccessMode)} {cached : Option PerUserData}

section

variable {cfg : Config} {fail : Faults} {w w' : World} {new : PerUserData} {isChan : Bool}
  {skip : String}

/-- The user is not cached, or has left the P2P topic. -/
def Topic.Absent (t : Topic) (uid : Uid) : Prop :=
  ∀ pud, t.perUser.lookup uid = some pud → pud.deleted

theorem newSubModes_shape (got : newSubModes cfg fail w r m cached = .ok (.ok n)) :
    n.userData = { cached.getD {} with
      modeWant := n.userData.modeWant, modeGiven := n.userData.modeGiven, isChan :=
  n.userData.isChan } := by
  unfold newSubModes at got
  split at got
  · cases got
    rfl
  split at got
  · unfold newSysSub at got
    split at got
    · cases got
    · cases got
      rfl
  split at got
  · unfold newChannelSub at got
    split at got
    · cases got
    · cases got
      rfl
  · unfold newOtherSub at got
    split at got
    · cases got
    · obtain ⟨given, -, got⟩ := bind_ok got
      obtain ⟨want, -, got⟩ := bind_ok got
      cases got
      rfl

/-- Data of a user who is gone are cleared. -/
def PerUserData.revived (pud : PerUserData) : PerUserData :=
  if pud.deleted then { pud with deleted := false, delID := 0, readID := 0, recvID := 0 } else pud

theorem newSubData_ok (got : newSubData cfg fail w r m cached = .ok (.ok n)) :
    ∃ modes : NewSub, newSubModes cfg fail w r m cached = .ok (.ok modes) ∧
      modes.userData.modeGiven.isJoiner ∧
      (w.topic.cat = .grp → r.asChan = false → w.topic.subsCount < cfg.maxSubscriberCount) ∧
      ∃ privateData, n = { modes with userData := { modes.userData.revived with privateData } } := by
  unfold newSubData at got
  split at got
  · cases got
  next room =>
  obtain ⟨modes, found, got⟩ := bind_ok got
  cases modes with
  | error rej => cases got
  | ok modes =>
    dsimp only at got
    split at got
    · cases got
    next joiner =>
    refine ⟨modes, found, by simpa using joiner, ?_, _, (Except.ok.inj (Except.ok.inj got)).symm⟩
    intro group addressed
    simpa [group, addressed] using room

theorem updatedSubData_shape {t : Topic} {ownerChange : Bool}
    (got : updatedSubData cfg t r m old = .ok (.ok (new, ownerChange))) :
    new = { old with modeWant := new.modeWant, modeGiven := new.modeGiven } := by
  unfold updatedSubData at got
  split at got
  · cases got
  split at got
  · split at got
    · cases got
      rfl
    · obtain ⟨access, -, got⟩ := bind_ok got
      cases got
      rfl
  split at got
  · cases got
  split at got
  · cases got
  · cases got
    rfl

theorem notifySubChange_ok {uid actor : Uid} {oldWant oldGiven newWant newGiven : AccessMode}
    (ran : notifySubChange w uid actor isChan oldWant oldGiven newWant newGiven skip = .ok w') :
    w' = w.emit (.notifySubChange uid actor isChan oldWant oldGiven newWant newGiven skip) := by
  unfold notifySubChange at ran
  dsimp only at ran
  split at ran
  · cases other : w.topic.p2pOtherUser uid with
    | error p => simp [other, bind, Except.bind] at ran
    | ok u => simpa [other, bind, Except.bind, pure, Except.pure] using ran.symm
  · simpa [bind, Except.bind, pure, Except.pure] using ran.symm

theorem reportChange_ok {changed : Bool} {uid actor : Uid} {oldWant oldGiven : AccessMode}
    {userData : PerUserData} (ran :
      reportChange w changed uid actor isChan oldWant oldGiven userData skip = .ok w') :
    w'.topic = w.topic ∧ w'.store = w.store := by
  unfold reportChange at ran
  split at ran
  · rw [notifySubChange_ok ran]
    split_ifs
    · exact ⟨rfl, rfl⟩
    · unfold updateUnread
      split_ifs <;> exact ⟨rfl, rfl⟩
  · cases ran
    exact ⟨rfl, rfl⟩

theorem refuse_frame (w : World) (sid : String) (rej : Rejection) :
    (w.refuse sid rej).topic = w.topic ∧ (w.refuse sid rej).store = w.store := by
  unfold World.refuse
  split <;> exact ⟨rfl, rfl⟩

theorem saveNewSub_topic (saved : saveNewSub fail w r n = .ok w') : w'.topic = w.topic := by
  unfold saveNewSub at saved
  dsimp only at saved
  split_ifs at saved <;> cases saved <;> rfl

theorem saveUpdatedSub_topic (saved : saveUpdatedSub fail w r old new = .ok w') :
    w'.topic = w.topic := by
  unfold saveUpdatedSub at saved
  dsimp only at saved
  split_ifs at saved <;> cases saved <;> rfl

/-- Why a request for the own subscription is refused. -/
inductive SelfRefusal (cfg : Config) (fail : Faults) (w : World) (r : SubRequest) : Rejection → Prop
  | malformed {text : String} (asked : requestedMode r.want = .error text) :
      SelfRefusal cfg fail w r ⟨some .errMalformed, text⟩
  | notJoined {m : AccessMode} {rejection : Rejection} (asked : requestedMode r.want = .ok m)
      (absent : w.topic.Absent r.asUid)
      (computed : newSubData cfg fail w r m (w.topic.perUser.lookup r.asUid) =
        .ok (.error rejection)) :
      SelfRefusal cfg fail w r rejection
  | notCreated {m : AccessMode} {n : NewSub} {rejection : Rejection}
      (asked : requestedMode r.want = .ok m) (absent : w.topic.Absent r.asUid)
      (computed : newSubData cfg fail w r m (w.topic.perUser.lookup r.asUid) = .ok (.ok n))
      (unsaved : saveNewSub fail w r n = .error rejection) : SelfRefusal cfg fail w r rejection
  | notChanged {m : AccessMode} {old : PerUserData} {rejection : Rejection}
      (asked : requestedMode r.want = .ok m)
      (cached : w.topic.perUser.lookup r.asUid = some old) (present : old.deleted = false)
      (computed : updatedSubData cfg w.topic r m old = .ok (.error rejection)) :
    SelfRefusal cfg fail w r rejection
  | notSaved {m : AccessMode} {old new : PerUserData} {ownerChange : Bool} {rejection : Rejection}
      (asked : requestedMode r.want = .ok m) (cached : w.topic.perUser.lookup r.asUid = some old)
      (present : old.deleted = false)
      (computed : updatedSubData cfg w.topic r m old = .ok (.ok (new, ownerChange)))
      (unsaved : saveUpdatedSub fail w r old (updatedPrivate r new) = .error rejection) :
      SelfRefusal cfg fail w r rejection

/-- How `thisUserSub` ends. -/
inductive SelfOutcome (cfg : Config) (fail : Faults) (w : World) (r : SubRequest) (w' : World)
    (result : Except String (Option MsgAccessMode)) : Prop
  | refused (rejection : Rejection) (why : SelfRefusal cfg fail w r rejection)
      (same : w' = w.refuse r.sess.sid rejection) (answer : result = .error rejection.err)
  | joined (m : AccessMode) (n : NewSub) (stored : World) (asked : requestedMode r.want = .ok m)
      (absent : w.topic.Absent r.asUid)
      (computed : newSubData cfg fail w r m (w.topic.perUser.lookup r.asUid) = .ok (.ok n))
      (saved : saveNewSub fail w r n = .ok stored)
      (applied : applySub
        (if r.asChan then stored else stored.emit (.usersRegisterUser r.asUid true)) r n.oldWant
        n.oldGiven n.userData = .ok (w', result))
  | changed (m : AccessMode) (old new : PerUserData) (ownerChange : Bool) (stored handed : World)
      (asked : requestedMode r.want = .ok m) (cached : w.topic.perUser.lookup r.asUid = some old)
      (present : old.deleted = false)
      (computed : updatedSubData cfg w.topic r m old = .ok (.ok (new, ownerChange)))
      (saved : saveUpdatedSub fail w r old (updatedPrivate r new) = .ok stored)
      (owned : changeOwner fail stored r.asUid ownerChange = .ok (handed, .ok ()))
      (applied : applySub handed r old.modeWant old.modeGiven (updatedPrivate r new) =
        .ok (w', result))
  /-- A store failure has stopped the acceptance of a transfer half way. -/
  | interrupted (m : AccessMode) (old new : PerUserData) (ownerChange : Bool) (stored handed : World)
      (rejection : Rejection) (asked : requestedMode r.want = .ok m)
      (cached : w.topic.perUser.lookup r.asUid = some old) (present : old.deleted = false)
      (computed : updatedSubData cfg w.topic r m old = .ok (.ok (new, ownerChange)))
      (saved : saveUpdatedSub fail w r old (updatedPrivate r new) = .ok stored)
      (stopped : changeOwner fail stored r.asUid ownerChange = .ok (handed, .error rejection))
      (same : w' = handed.refuse r.sess.sid rejection) (answer : result = .error rejection.err)

theorem thisUserNewSub_outcome (asked : requestedMode r.want = .ok m)
    (absent : w.topic.Absent r.asUid)
    (ran : thisUserNewSub cfg fail w r m (w.topic.perUser.lookup r.asUid) = .ok (w', res)) :
    SelfOutcome cfg fail w r w' res := by
  obtain ⟨got, found, ran⟩ := bind_ok ran
  cases got with
  | error rej =>
    cases ran
    exact .refused rej (.notJoined asked absent found) rfl rfl
  | ok n =>
    dsimp only at ran
    split at ran
    · next rej unsaved =>
      cases ran
      exact .refused rej (.notCreated asked absent found unsaved) rfl rfl
    · next stored saved => exact .joined m n stored asked absent found saved ran

theorem thisUserSub_outcome (ran : thisUserSub cfg fail w r = .ok (w', res)) :
    SelfOutcome cfg fail w r w' res := by
  unfold thisUserSub at ran
  split at ran
  · next text asked =>
    cases ran
    exact .refused _ (.malformed asked) rfl rfl
  next m asked =>
  split at ran
  · next cached =>
    rw [← cached] at ran
    exact thisUserNewSub_outcome asked (by simp [Topic.Absent, cached]) ran
  next old cached =>
  split at ran
  · next removed =>
    rw [← cached] at ran
    exact thisUserNewSub_outcome asked (by simp [Topic.Absent, cached, removed]) ran
  next present =>
  have present : old.deleted = false := Bool.not_eq_true _ ▸ present
  obtain ⟨got, found, ran⟩ := bind_ok ran
  cases got with
  | error rej =>
    cases ran
    exact .refused rej (.notChanged asked cached present found) rfl rfl
  | ok data =>
    obtain ⟨new, ownerChange⟩ := data
    dsimp only at ran
    split at ran
    · next rej unsaved =>
      cases ran
      exact .refused rej (.notSaved asked cached present found unsaved) rfl rfl
    next stored saved =>
    obtain ⟨⟨handed, outcome⟩, owned, ran⟩ := bind_ok ran
    cases outcome with
    | error rej =>
      cases ran
      exact .interrupted m old new ownerChange stored handed rej asked cached present found saved
        owned rfl rfl
    | ok _ =>
      exact .changed m old new ownerChange stored handed asked cached present found saved owned ran

/-- The invitation is stored and cached. -/
def World.invite (w : World) (target : Uid) (want given : AccessMode) : World :=
  { w with
    store := w.store.createSub .topic target want given none
    topic :=
      (w.topic.setPud target { modeGiven := given, modeWant := want }).computePerUserAcsUnion }.emit
      (.usersRegisterUser target true)

variable {r : GrantRequest}

theorem inviteUser_ok (ran : inviteUser cfg fail w r m = .ok (.ok (w', userData))) :
    ∃ want given, invitedGiven cfg w.topic m = .ok given ∧
      invitedWant fail w.store r.target given = .ok want ∧
      want.isJoiner ∧ userData = { modeGiven := given, modeWant := want } ∧
      w' = w.invite r.target want given := by
  unfold inviteUser at ran
  split at ran
  · cases ran
  obtain ⟨given, chosen, ran⟩ := bind_ok ran
  split at ran
  · cases ran
  next want wanted =>
  split at ran
  · cases ran
  next joiner =>
  split at ran
  · cases ran
  cases ran
  exact ⟨want, given, chosen, wanted, by simpa using joiner, rfl, rfl⟩

theorem changeGiven_ok (granted : changeGiven fail w r m old = .ok (w', userData)) :
    (m = modeUnset ∨ m = old.modeGiven) ∧ w' = w ∧ userData = old ∨
      m ≠ modeUnset ∧ m ≠ old.modeGiven ∧ (w.topic.owner = r.target → m.isOwner ∧ m.isJoiner) ∧
        fail .subsUpdate = false ∧ userData = { old with modeGiven := m } ∧
        w' = { w with
          store := w.store.updateSub .topic r.target fun sub => { sub with modeGiven := m }
          topic := w.topic.setPud r.target { old with modeGiven := m } } := by
  unfold changeGiven at granted
  split at granted
  · next same =>
    cases granted
    exact .inl ⟨same, rfl, rfl⟩
  next explicit =>
  split at granted
  · cases granted
  next permitted =>
  split at granted
  · cases granted
  next works =>
  cases granted
  refine .inr
    ⟨(not_or.mp explicit).1, (not_or.mp explicit).2, ?_, Bool.not_eq_true _ ▸ works, rfl, rfl⟩
  intro own
  simpa [own] using permitted

/-- How `anotherUserSub` ends. -/
inductive GrantOutcome (cfg : Config) (fail : Faults) (w : World) (r : GrantRequest) (w' : World)
    (result : Except String (Option MsgAccessMode)) : Prop
  | refused (rejection : Rejection) (same : w' = w.refuse r.sess.sid rejection)
      (answer : result = .error rejection.err)
      (why : grantedMode cfg w.topic r = .error rejection ∨
        (∃ m, grantedMode cfg w.topic r = .ok m ∧ w.topic.Absent r.target ∧
          inviteUser cfg fail w r m = .ok (.error rejection)) ∨
        ∃ m old, grantedMode cfg w.topic r = .ok m ∧ w.topic.perUser.lookup r.target = some old ∧
          old.deleted = false ∧ changeGiven fail w r m old = .error rejection)
  | invited (m : AccessMode) (stored : World) (userData : PerUserData)
      (checked : grantedMode cfg w.topic r = .ok m)
      (absent : w.topic.Absent r.target)
      (made : inviteUser cfg fail w r m = .ok (.ok (stored, userData)))
      (applied : applyGrant stored r modeUnset modeUnset userData = .ok (w', result))
  | changed (m : AccessMode) (old userData : PerUserData) (stored : World)
      (checked : grantedMode cfg w.topic r = .ok m)
      (cached : w.topic.perUser.lookup r.target = some old) (present : old.deleted = false)
      (granted : changeGiven fail w r m old = .ok (stored, userData))
      (applied : applyGrant stored r old.modeWant old.modeGiven userData = .ok (w', result))

theorem anotherUserSub_outcome
    (ran : anotherUserSub cfg fail w r = .ok (w', res)) : GrantOutcome cfg fail w r w' res := by
  unfold anotherUserSub at ran
  split at ran
  · next rej checked =>
    cases ran
    exact .refused rej rfl rfl (.inl checked)
  next m checked =>
  dsimp only at ran
  split at ran
  · next missing =>
    have absent : w.topic.Absent r.target := fun pud cached => by
      simpa [cached, Option.filter] using missing
    obtain ⟨outcome, made, ran⟩ := bind_ok ran
    cases outcome with
    | error rej =>
      cases ran
      exact .refused rej rfl rfl (.inr (.inl ⟨m, checked, absent, made⟩))
    | ok done => exact .invited m done.1 done.2 checked absent made ran
  next old found =>
  obtain ⟨cached, present⟩ := Option.filter_eq_some_iff.mp found
  have present : old.deleted = false := by simpa using present
  split at ran
  · next rej refused =>
    cases ran
    exact .refused rej rfl rfl (.inr (.inr ⟨m, old, checked, cached, present, refused⟩))
  · next stored userData granted =>
      exact .changed m old userData stored checked cached present granted ran

section

variable {asUid user : Uid} {original : Addressing} {sess : Session} {res : Except String Unit}

theorem deletableSub_ok {t : Topic} {pud : PerUserData}
    (checked : deletableSub t asUid original user = .ok pud) :
    t.perUser.lookup user = some pud ∧ t.cat ≠ .p2p ∧ (user ≠ 0 ∧ user ≠ asUid) ∧
      (t.pud asUid).mode.isAdmin ∧
      pud.mode.isOwner = false := by
  unfold deletableSub at checked
  split at checked
  · cases checked
  · cases checked
  split_ifs at checked with admin other p2p
  split at checked
  · cases checked
  next found =>
  split_ifs at checked with owner
  cases checked
  exact ⟨found, p2p, not_or.mp other, by simpa using admin, Bool.not_eq_true _ ▸ owner⟩

/-- The state in which a user is evicted: the store has changed, and the others have been told. -/
def World.parting (w : World) (store : Store) (sess : Session) (reply : Reply) (uid actor : Uid)
    (asChan : Bool)
    (pud : PerUserData) : World :=
  let told := if asChan then [.channelSubUnsub uid false]
    else if pud.mode.isReader then [.usersUpdateUnread uid (pud.readID - w.topic.lastID)] else []
  let oldWant := if asChan then modeCChnReader else pud.modeWant
  let oldGiven := if asChan then modeCChnReader else pud.modeGiven
  { w with
    store := store
    out := w.out ++ .queueOut sess.sid reply :: told ++
      [.notifySubChange uid actor asChan oldWant oldGiven modeUnset modeUnset sess.sid] }

@[simp] theorem World.parting_topic (w : World) (store : Store) (sess : Session) (reply : Reply)
    (uid actor : Uid)
    (asChan : Bool) (pud : PerUserData) :
    (w.parting store sess reply uid actor asChan pud).topic = w.topic := rfl

/-- How `replyDelSub` ends. -/
inductive DelSubOutcome (w : World) (sess : Session) (asUid : Uid) (original : Addressing)
    (user : Uid) (w' : World) : Prop
  | refused (rejection : Rejection) (same : w' = w.refuse sess.sid rejection)
  | removed (pud : PerUserData) (reply : Reply)
      (checked : deletableSub w.topic asUid original user = .ok pud)
      (gone : evictUser
        (w.parting ((w.store.deleteSub .topic user).getD w.store) sess reply user asUid false pud)
        user true "" = .ok w')

theorem replyDelSub_outcome (ran : replyDelSub fail w sess asUid original user = .ok (w', res)) :
    DelSubOutcome w sess asUid original user w' := by
  unfold replyDelSub at ran
  split at ran
  · cases ran
    exact .refused _ rfl
  next pud checked =>
  split at ran
  · cases ran
    exact .refused ⟨some .errUnknown, "store failure"⟩ rfl
  obtain ⟨notified, reported, ran⟩ := bind_ok ran
  obtain ⟨evicted, gone, ran⟩ := bind_ok ran
  cases ran
  rw [notifySubChange_ok reported] at gone
  cases deleted : w.store.deleteSub .topic user with
  | some store =>
    refine .removed pud .noErr checked ?_
    rw [← gone, deleted]
    cases reads : pud.mode.isReader <;> simp [World.parting, World.emit, reads]
  | none =>
    refine .removed pud .infoNoAction checked ?_
    rw [← gone, deleted]
    cases reads : pud.mode.isReader <;> simp [World.parting, World.emit, reads]

/-- How `replyLeaveUnsub` ends. -/
inductive LeaveUnsubOutcome (w : World) (sess : Session) (asUid : Uid) (original : Addressing)
    (w' : World) : Prop
  | refused (rejection : Rejection) (same : w' = w.refuse sess.sid rejection)
  | removed (asChan : Bool) (store : Store) (evicted : World) (other : w.topic.owner ≠ asUid)
      (verified : w.topic.verifyChannelAccess original = .ok asChan)
      (deleted : w.store.deleteSub (if (w.topic.pud asUid).isChan then .channel else .topic) asUid =
        some store)
      (gone : evictUser (w.parting store sess .noErr asUid asUid asChan (w.topic.pud asUid)) asUid
        true sess.sid =
        .ok evicted) (same : w' = { evicted with topic := evicted.topic.countUnsub })

theorem replyLeaveUnsub_outcome (ran : replyLeaveUnsub fail w sess asUid original = .ok (w', res)) :
    LeaveUnsubOutcome w sess asUid original w' := by
  unfold replyLeaveUnsub at ran
  split at ran
  · cases ran
  split at ran
  · cases ran
    exact .refused ⟨some .errPermissionDenied, ""⟩ rfl
  next other =>
  split at ran
  · cases ran
    exact .refused ⟨some .errNotFound, ""⟩ rfl
  next asChan verified =>
  split at ran
  · cases ran
    exact .refused ⟨some .errUnknown, ""⟩ rfl
  split at ran
  · cases ran
    exact .refused ⟨some .infoNoAction, ""⟩ rfl
  next store deleted =>
  obtain ⟨notified, reported, ran⟩ := bind_ok ran
  obtain ⟨evicted, gone, ran⟩ := bind_ok ran
  cases ran
  rw [notifySubChange_ok reported] at gone
  refine .removed asChan store evicted other verified deleted ?_ rfl
  rw [← gone]
  cases asChan <;> cases reads : (w.topic.pud asUid).mode.isReader <;>
    simp [World.parting, World.emit, reads]

end

end

end LastochkaServer.Source
