import LastochkaServer.Source.Topic.Outcomes

/-!
# What subscribers leave alone

The requests of subscribers change the subscriptions, the sessions, the owner and the member count
of a topic. Its messages, their numbers, the default access modes and the call in progress stay.
-/

namespace LastochkaServer.Source

open Lib AccessMode

variable {r : SubRequest} {oldWant oldGiven : AccessMode}
  {res : Except String (Option MsgAccessMode)} {skip : String} {userData : PerUserData} {asUid : Uid}
  {isChan : Bool} {sess : Session} {original : Addressing}

structure Fixture where
  cat : TopicCat
  isChan : Bool
  lastID : Int
  delID : Int
  accessAuth : AccessMode
  accessAnon : AccessMode
  readOnly : Bool
  currentCall : Option VideoCall
  users : GoMap Uid User
  seqId : Int
  messages : List Message
  reactions : GoMap (Int × Uid) String

def World.fixture (w : World) : Fixture where
  cat := w.topic.cat
  isChan := w.topic.isChan
  lastID := w.topic.lastID
  delID := w.topic.delID
  accessAuth := w.topic.accessAuth
  accessAnon := w.topic.accessAnon
  readOnly := w.topic.readOnly
  currentCall := w.topic.currentCall
  users := w.store.users
  seqId := w.store.seqId
  messages := w.store.messages
  reactions := w.store.reactions

section

variable {cfg : Config} {fail : Faults} {w w' : World} {uid actor : Uid}

theorem fixture_congr (topic : w'.topic = w.topic) (store : w'.store = w.store) :
    w'.fixture = w.fixture := by
  unfold World.fixture
  rw [topic, store]

theorem updateSub_fixture (w : World) (name : Addressing) (uid : Uid)
    (update : Subscription → Subscription) :
    ({ w with store := w.store.updateSub name uid update } : World).fixture = w.fixture := by
  unfold Store.updateSub
  split <;> rfl

theorem deleteSub_fixture {name : Addressing} {store : Store}
    (deleted : w.store.deleteSub name uid = some store) :
    ({ w with store := store } : World).fixture = w.fixture := by
  obtain ⟨sub, -, rfl⟩ := Option.map_eq_some_iff.mp deleted
  rfl

theorem evictUser_fixture {unsub : Bool} (ran : evictUser w uid unsub skip = .ok w') :
    w'.fixture = w.fixture := by
  obtain ⟨topic, store⟩ := evictUser_frame ran
  have forgotten := (forgetUser_frame w uid unsub).1
  unfold World.fixture
  rw [topic, store, forgotten]

theorem reportChange_fixture {changed : Bool}
    (ran : reportChange w changed uid actor isChan oldWant oldGiven userData skip = .ok w') :
    w'.fixture = w.fixture :=
  fixture_congr (reportChange_ok ran).1 (reportChange_ok ran).2

theorem saveNewSub_fixture {n : NewSub} (saved : saveNewSub fail w r n = .ok w') :
    w'.fixture = w.fixture := by
  unfold saveNewSub at saved
  dsimp only at saved
  split_ifs at saved <;> cases saved
  · rfl
  · exact updateSub_fixture w _ _ _
  · rfl

theorem saveUpdatedSub_fixture {old new : PerUserData}
    (saved : saveUpdatedSub fail w r old new = .ok w') : w'.fixture = w.fixture := by
  unfold saveUpdatedSub at saved
  dsimp only at saved
  split at saved
  · cases saved
    rfl
  split at saved
  · cases saved
  · cases saved
    exact updateSub_fixture w _ _ _

theorem changeOwner_fixture {ownerChange : Bool} {res : Except Rejection Unit}
    (ran : changeOwner fail w asUid ownerChange = .ok (w', res)) : w'.fixture = w.fixture := by
  unfold changeOwner at ran
  split at ran
  · cases ran
    rfl
  split at ran
  · cases ran
    rfl
  split at ran
  · cases ran
    exact updateSub_fixture w _ _ _
  · obtain ⟨notified, reported, ran⟩ := bind_ok ran
    cases ran
    rw [notifySubChange_ok reported]
    exact updateSub_fixture w _ _ _

theorem applySub_fixture (ran : applySub w r oldWant oldGiven userData = .ok (w', res)) :
    w'.fixture = w.fixture := by
  obtain ⟨reported, report, ran⟩ := bind_ok ran
  have kept : reported.fixture = w.fixture := (reportChange_fixture report).trans rfl
  dsimp only at ran
  split at ran
  · obtain ⟨evicted, gone, ran⟩ := bind_ok ran
    cases ran
    exact (evictUser_fixture gone).trans kept
  split at ran <;> cases ran <;> exact kept

theorem refuse_fixture (w : World) (sid : String) (rej : Rejection) :
    (w.refuse sid rej).fixture = w.fixture := by
  unfold World.refuse
  split <;> rfl

theorem thisUserSub_fixture (ran : thisUserSub cfg fail w r = .ok (w', res)) :
    w'.fixture = w.fixture := by
  cases thisUserSub_outcome ran with
  | refused rej _ same =>
    rw [same]
    exact refuse_fixture ..
  | joined _ _ stored _ _ _ saved applied =>
    refine (applySub_fixture applied).trans
      ((?_ : _ = stored.fixture).trans (saveNewSub_fixture saved))
    split_ifs <;> rfl
  | changed _ _ _ _ _ _ _ _ _ _ saved owned applied =>
    exact (applySub_fixture applied).trans
      ((changeOwner_fixture owned).trans (saveUpdatedSub_fixture saved))
  | interrupted _ _ _ _ _ _ _ _ _ _ _ saved stopped same =>
    rw [same]
    exact (refuse_fixture ..).trans
      ((changeOwner_fixture stopped).trans (saveUpdatedSub_fixture saved))

theorem applyGrant_fixture {r : GrantRequest}
    (ran : applyGrant w r oldWant oldGiven userData = .ok (w', res)) : w'.fixture = w.fixture := by
  obtain ⟨reported, report, ran⟩ := bind_ok ran
  have kept : reported.fixture = w.fixture := reportChange_fixture report
  dsimp only at ran
  split at ran
  · obtain ⟨evicted, gone, ran⟩ := bind_ok ran
    cases ran
    exact (evictUser_fixture gone).trans kept
  · cases ran
    exact kept

theorem anotherUserSub_fixture {r : GrantRequest}
    (ran : anotherUserSub cfg fail w r = .ok (w', res)) : w'.fixture = w.fixture := by
  cases anotherUserSub_outcome ran with
  | refused rej same =>
    rw [same]
    exact refuse_fixture ..
  | invited m stored userData _ _ made applied =>
    obtain ⟨want, given, -, -, -, -, rfl⟩ := inviteUser_ok made
    exact (applyGrant_fixture applied).trans rfl
  | changed m old userData stored _ _ _ granted applied =>
    rw [applyGrant_fixture applied]
    rcases changeGiven_ok granted with ⟨-, rfl, -⟩ | ⟨-, -, -, -, -, rfl⟩
    · rfl
    · exact (updateSub_fixture w _ _ _ :)

theorem replyDelSub_fixture {user : Uid} {res : Except String Unit}
    (ran : replyDelSub fail w sess asUid original user = .ok (w', res)) : w'.fixture = w.fixture := by
  cases replyDelSub_outcome ran with
  | refused rej same =>
    rw [same]
    exact refuse_fixture ..
  | removed pud reply _ gone =>
    refine (evictUser_fixture gone).trans ?_
    cases deleted : w.store.deleteSub .topic user with
    | none => rfl
    | some store => exact deleteSub_fixture deleted

theorem replyLeaveUnsub_fixture {res : Except String Unit}
    (ran : replyLeaveUnsub fail w sess asUid original = .ok (w', res)) : w'.fixture = w.fixture := by
  cases replyLeaveUnsub_outcome ran with
  | refused rej same =>
    rw [same]
    exact refuse_fixture ..
  | removed asChan store evicted _ _ deleted gone same =>
    rw [same]
    exact (evictUser_fixture gone).trans (deleteSub_fixture deleted)

end

end LastochkaServer.Source
