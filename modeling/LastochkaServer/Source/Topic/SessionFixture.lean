import LastochkaServer.Source.Topic.SessionOutcomes

/-!
# What sessions leave alone

The coming and going of sessions changes of a topic what the requests of their users change, and
nothing else: `attend_fixture`.
-/

namespace LastochkaServer.Source

open Lib AccessMode

variable {cfg : Config} {fail : Faults} {w w' : World}

theorem Replied.fixture (replies : Replied w w') : w'.fixture = w.fixture := by
  induction replies with
  | silent => rfl
  | replied _ _ _ ih => exact ih

theorem foldl_addOnline_frame (t : Topic) (muids : List Uid) :
    muids.foldl (fun t uid => t.addOnline uid (-1)) t =
      { t with perUser := (muids.foldl (fun t uid => t.addOnline uid (-1)) t).perUser } := by
  induction muids generalizing t with
  | nil => rfl
  | cons uid rest ih =>
    rw [List.foldl_cons, ih]
    rfl

theorem forgetReader_frame (asChan : Bool) (t : Topic) (uid : Uid) :
    forgetReader asChan t uid = { t with perUser := (forgetReader asChan t uid).perUser } := by
  unfold forgetReader
  split_ifs <;> rfl

theorem foldl_forgetReader_frame (asChan : Bool) (t : Topic) (muids : List Uid) :
    muids.foldl (forgetReader asChan) t =
      { t with perUser := (muids.foldl (forgetReader asChan) t).perUser } := by
  induction muids generalizing t with
  | nil => rfl
  | cons uid rest ih =>
    rw [List.foldl_cons, ih, forgetReader_frame]

theorem leaving_frame (t : Topic) (uids : List Uid) (counted asChan : Bool) :
    t.leaving uids counted asChan =
      { t with perUser := (t.leaving uids counted asChan).perUser } := by
  unfold Topic.leaving
  rw [foldl_forgetReader_frame]
  cases counted with
  | false => rfl
  | true =>
    dsimp
    rw [foldl_addOnline_frame]

theorem handleLeaveRequest_fixture {r : LeaveRequest} {removed : Bool}
    (ran : handleLeaveRequest fail w r = .ok (w', removed)) : w'.fixture = w.fixture := by
  cases handleLeaveRequest_left ran with
  | kept replies => exact replies.fixture
  | unsubscribed _ replies replied => exact (replyLeaveUnsub_fixture replied).trans replies.fixture
  | departed _ replies found left =>
    have frame := Topic.remSession_frame w.topic r.sess.attached r.user
    rw [found, ← replies.frame.1] at frame
    dsimp only at frame
    rw [← replies.fixture, leaveUsers_eq found left, leaving_frame, frame]
    rfl

theorem attachSession_fixture (w : World) (r : SubRequest) (newsub : Bool) :
    (w.setTopic (attachSession w.topic r newsub)).fixture = w.fixture := by
  rw [attachSession_eq]
  cases r.sess.background <;> rfl

theorem subscriptionReply_fixture {r : SubRequest} {res : Except String Bool}
    (ran : subscriptionReply cfg fail w r = .ok (w', res)) : w'.fixture = w.fixture := by
  obtain ⟨⟨changed, outcome⟩, done, ran⟩ := bind_ok ran
  have kept := thisUserSub_fixture done
  cases outcome with
  | error text =>
    cases ran
    exact kept
  | ok modeChanged =>
    obtain ⟨name, -, ran⟩ := bind_ok ran
    cases ran
    refine Eq.trans ?_ kept
    split_ifs
    · exact (attachSession_fixture changed r _ :)
    · rfl

theorem leaveTopic_fixture (fail : Faults) (v : Service) (r : LeaveRequest) :
    (leaveTopic fail v r).world.fixture = v.world.fixture := by
  unfold leaveTopic
  split
  · rfl
  · next left =>
    have kept := handleLeaveRequest_fixture left
    split_ifs <;> exact kept

theorem registerSession_fixture (cfg : Config) (fail : Faults) (v : Service) (r : SubRequest) :
    (registerSession cfg fail v r).1.world.fixture = v.world.fixture := by
  unfold registerSession
  split_ifs
  · rfl
  · rfl
  · rfl
  split
  · rfl
  · next subscribed =>
    have kept := subscriptionReply_fixture subscribed
    dsimp only
    split_ifs <;> exact kept

theorem attend_fixture (cfg : Config) (fail : Faults) (v : Service) (e : SessionEvent) :
    (attend cfg fail v e).world.fixture = v.world.fixture := by
  have happened := attend_happened cfg fail v e
  generalize (attend cfg fail v e).world = w at happened
  cases happened with
  | kept _ replies => exact replies.fixture
  | subscribed _ _ _ replied => exact subscriptionReply_fixture replied
  | setSelf _ _ _ _ done replies => exact replies.fixture.trans (thisUserSub_fixture done)
  | setOther _ _ _ _ done replies => exact replies.fixture.trans (anotherUserSub_fixture done)
  | removed _ _ _ _ replied => exact replyDelSub_fixture replied
  | unsubscribed _ _ _ _ replies replied =>
    exact (replyLeaveUnsub_fixture replied).trans replies.fixture
  | departed _ _ _ cleared =>
    obtain ⟨w₀, sessions, replies, rfl⟩ := cleared
    rw [leaving_frame]
    exact replies.fixture
  | raised _ sess =>
    rw [sessToForeground_eq]
    cases v.world.topic.risen sess <;> rfl

end LastochkaServer.Source
