import LastochkaServer.Source.Topic.Attach

/-!
# Events of sessions by their cases

`Happened` inverts `attend` once for all views of a topic: which handler has been called at an
event, and the world it has left. Replies are the only effects that are added around the handlers.
-/

namespace LastochkaServer.Source

open Lib

variable {cfg : Config} {fail : Faults} {v : Service} {e : SessionEvent} {w w' : World}
  {r : LeaveRequest}

/-- Replies have been sent, and nothing else. -/
inductive Replied (w : World) : World → Prop
  | silent : Replied w w
  | replied (sid : String) (reply : Reply) {w' : World} (before : Replied w w') :
      Replied w (w'.emit (.queueOut sid reply))

theorem Replied.frame (replies : Replied w w') : w'.topic = w.topic ∧ w'.store = w.store := by
  induction replies with
  | silent => exact ⟨rfl, rfl⟩
  | replied _ _ _ ih => exact ih

/-- Replies have been sent and sessions removed. -/
def Cleared (w w' : World) : Prop :=
  ∃ w₀ sessions, Replied w w₀ ∧ w' = w₀.setTopic { w₀.topic with sessions := sessions }

/-- Who leaves with a session, and whether their online counters change. -/
def LeaveRequest.leavers (r : LeaveRequest) (t : Topic) : List Uid × Bool :=
  match t.remSession r.sess.attached r.user with
  | (_, none) => ([], false)
  | (_, some (pssd, _)) =>
    if pssd.isChanSub ≠ r.asChan t then ([], false)
    else if r.leaver pssd ≠ 0 then ([r.leaver pssd], !r.sess.background)
    else (pssd.muids, true)

/-- The cached users after `uids` have left. -/
def Topic.leaving (t : Topic) (uids : List Uid) (counted asChan : Bool) : Topic :=
  uids.foldl (forgetReader asChan)
    (bif counted then uids.foldl (fun t uid => t.addOnline uid (-1)) t else t)

theorem leaveUsers_eq {t topic after : Topic} {pssd : PerSessionData} {removed : Bool}
    (found : t.remSession r.sess.attached r.user = (topic, some (pssd, removed)))
    (left : leaveUsers topic r pssd = .ok after) :
    after = topic.leaving (r.leavers t).1 (r.leavers t).2 (r.asChan t) := by
  have frame := Topic.remSession_frame t r.sess.attached r.user
  rw [found] at frame
  have frame : topic = { t with sessions := topic.sessions } := frame
  have asChan : r.asChan topic = r.asChan t := by rw [frame]; rfl
  unfold leaveUsers at left
  unfold LeaveRequest.leavers
  rw [found]
  dsimp only at left ⊢
  rw [asChan] at left
  split_ifs at left ⊢ with other known background listed
  · cases left
    rfl
  · cases left
    rw [background]
    rfl
  · cases left
    rw [show r.sess.background = false from Bool.not_eq_true _ ▸ background]
    rfl
  · cases left
    rfl
  · cases left
    rw [not_not.mp listed]
    rfl

/-- How `handleLeaveRequest` ends. -/
inductive Left (fail : Faults) (w : World) (r : LeaveRequest) : World → Bool → Prop
  | kept {w' : World} (replies : Replied w w') : Left fail w r w' false
  | unsubscribed (asks : r.init ∧ r.unsub) {start w' : World} (replies : Replied w start)
      {result : Except String Unit}
      (replied : replyLeaveUnsub fail start r.sess r.user r.original = .ok (w', result)) :
    Left fail w r w' false
  | departed (stays : ¬(r.init ∧ r.unsub)) {start : World} (replies : Replied w start)
      {topic after : Topic} {pssd : PerSessionData} {gone : Bool}
      (found : w.topic.remSession r.sess.attached r.user = (topic, some (pssd, gone)))
      (left : leaveUsers topic r pssd = .ok after) : Left fail w r (start.setTopic after) true

theorem handleLeaveRequest_left {removed : Bool}
    (ran : handleLeaveRequest fail w r = .ok (w', removed)) :
    Left fail w r w' removed := by
  obtain ⟨start, replies, ran⟩ : ∃ start, Replied w start ∧
    leaveOrUnsub fail start r = .ok (w', removed) := by
    refine ⟨_, ?_, ran⟩
    split
    · exact .replied _ _ .silent
    · exact .silent
  unfold leaveOrUnsub at ran
  split at ran
  · cases ran
    split
    · exact .kept (.replied _ _ replies)
    · exact .kept replies
  split at ran
  · next asks =>
    obtain ⟨⟨left, res⟩, replied, same⟩ := map_ok ran
    cases same
    exact .unsubscribed asks replies replied
  next stays =>
  rw [replies.frame.1] at ran
  split at ran
  · cases ran
    exact .kept replies
  · next found =>
    obtain ⟨after, left, same⟩ := map_ok ran
    cases same
    exact .departed stays replies found left

/-- The user whose session comes to the foreground. -/
def Topic.risen (t : Topic) (sess : Session) : Option Uid :=
  (t.sessions.lookup sess.attached).bind fun pssd =>
    if pssd.isChanSub then none else some (if sess.attached.isMultiplex then sess.uid else pssd.uid)

theorem sessToForeground_eq (t : Topic) (sess : Session) :
    sessToForeground t sess = (t.risen sess).elim t fun uid => t.addOnline uid 1 := by
  unfold sessToForeground Topic.risen
  cases t.sessions.lookup sess.attached with
  | none => rfl
  | some pssd =>
    dsimp
    split <;> rfl

namespace SessionEvent

/-- The request with which a session leaves at an event. -/
def departure (v : Service) : SessionEvent → Option LeaveRequest
  | .leave sess asUid original false _ =>
    let sess := v.own sess
    if sess.isMultiplex ∨ (sess.multi.isNone ∧ !v.linked sess.toSessionKey) then none
    else some { sess := sess, asUid := asUid, original := original }
  | .lost s =>
    (Service.keyed s false).bind fun sess =>
      if s.isMultiplex ∨ v.linked s then some { sess := sess, init := false } else none
  | .dropped s => (Service.keyed s (v.background s)).map fun sess => { sess := sess, init := false }
  | _ => none

/-- The session that an event brings to the foreground. -/
def raised (v : Service) : SessionEvent → Option Session
  | .foreground s =>
    (Service.keyed s false).bind fun sess =>
      if v.background s ∧ !s.isMultiplex ∧ v.linked s ∧ v.world.topic.supd then some sess else none
  | .remoteForeground sess => if sess.multi.isSome ∧ v.world.topic.supd then some sess else none
  | _ => none

end SessionEvent

/-- The world after an event. -/
inductive Happened (cfg : Config) (fail : Faults) (v : Service) : SessionEvent → World → Prop
  | kept (e : SessionEvent) {w : World} (replies : Replied v.world w) : Happened cfg fail v e w
  | subscribed (r : SubRequest) (authenticated : r.asUid ≠ 0)
      (named : r.asChan → v.world.topic.isChan) {w : World} {res : Except String Bool}
      (replied : subscriptionReply cfg fail v.world { r with sess := v.own r.sess } = .ok (w, res)) :
      Happened cfg fail v (.subscribe r authenticated) w
  | setSelf (r : SetSubRequest) (authenticated : r.asUid ≠ 0)
      (named : r.asChan → v.world.topic.isChan)
      (own : r.target = r.asUid) {stored w : World} {result : Except String (Option MsgAccessMode)}
      (done : thisUserSub cfg fail v.world r.toSub = .ok (stored, result))
      (replies : Replied stored w) :
      Happened cfg fail v (.setSub r authenticated) w
  | setOther (r : SetSubRequest) (authenticated : r.asUid ≠ 0) (other : r.target ≠ r.asUid)
      (someone : r.target ≠ 0) {stored w : World} {result : Except String (Option MsgAccessMode)}
      (done : anotherUserSub cfg fail v.world r.toGrant = .ok (stored, result))
      (replies : Replied stored w) :
      Happened cfg fail v (.setSub r authenticated) w
  | removed (sess : Session) (asUid : Uid) (original : Addressing) (user : Uid) {w : World}
      {result : Except String Unit}
      (replied : replyDelSub fail v.world sess asUid original user = .ok (w, result)) :
      Happened cfg fail v (.delSub sess asUid original user) w
  | unsubscribed (sess : Session) (asUid : Uid) (original : Addressing) (authenticated : asUid ≠ 0)
      {start w : World} (replies : Replied v.world start) {result : Except String Unit}
      (replied : replyLeaveUnsub fail start (v.own sess) asUid original = .ok (w, result)) :
      Happened cfg fail v (.leave sess asUid original true authenticated) w
  | departed (e : SessionEvent) (r : LeaveRequest) (leaves : e.departure v = some r) {start : World}
      (cleared : Cleared v.world start) :
      Happened cfg fail v e (start.setTopic (start.topic.leaving (r.leavers v.world.topic).1
        (r.leavers v.world.topic).2 (r.asChan v.world.topic)))
  | raised (e : SessionEvent) (sess : Session) (raises : e.raised v = some sess) :
      Happened cfg fail v e (v.world.setTopic (sessToForeground v.world.topic sess))

theorem registerSession_happened (r : SubRequest) (authed : r.asUid ≠ 0) :
    Happened cfg fail v (.subscribe r authed)
      (registerSession cfg fail v { r with sess := v.own r.sess }).1.world := by
  unfold registerSession
  split
  · exact .kept _ (.replied _ _ .silent)
  split
  · exact .kept _ (.replied _ _ .silent)
  split
  · exact .kept _ (.replied _ _ .silent)
  next addressed =>
  split
  · exact .kept _ .silent
  next w res replied =>
  have happened : Happened cfg fail v (.subscribe r authed) w := by
    refine .subscribed r authed (fun channel => ?_) replied
    simpa [misaddressed, channel] using addressed
  dsimp only
  split <;> exact happened

/-- The session may have left the background just before. -/
theorem leaveTopic_happened {v' : Service} (world : v'.world = v.world)
    (leaves : e.departure v = some r) (detaches : ¬(r.init ∧ r.unsub)) :
    Happened cfg fail v e (leaveTopic fail v' r).world := by
  unfold leaveTopic
  rw [world]
  split
  · rw [world]
    exact .kept _ .silent
  next w removed left =>
  have happened : Happened cfg fail v e w := by
    cases handleLeaveRequest_left left with
    | kept replies => exact .kept _ replies
    | unsubscribed asks => exact absurd asks detaches
    | departed _ replies found gone =>
      have frame := Topic.remSession_frame v.world.topic r.sess.attached r.user
      rw [found, ← replies.frame.1] at frame
      rw [leaveUsers_eq found gone]
      exact .departed e r leaves ⟨_, _, replies, congrArg (World.setTopic _) frame⟩
  split <;> exact happened

theorem unsubscribe_happened (sess : Session) (asUid : Uid) (original : Addressing)
    (authed : asUid ≠ 0) :
    Happened cfg fail v (.leave sess asUid original true authed)
      (leaveTopic fail v
        { sess := v.own sess, asUid := asUid, original := original, unsub := true }).world := by
  unfold leaveTopic
  split
  · exact .kept _ .silent
  next w removed left =>
  have happened : Happened cfg fail v (.leave sess asUid original true authed) w := by
    cases handleLeaveRequest_left left with
    | kept replies => exact .kept _ replies
    | unsubscribed _ replies replied => exact .unsubscribed sess asUid original authed replies replied
    | departed stays => exact absurd ⟨rfl, rfl⟩ stays
  split <;> exact happened

theorem replySetSub_happened {r : SetSubRequest} {res : Except String Unit}
    (authed : r.asUid ≠ 0) (named : r.asChan → v.world.topic.isChan)
    (replied : replySetSub cfg fail v.world r = .ok (w, res)) :
    Happened cfg fail v (.setSub r authed) w := by
  unfold replySetSub at replied
  split at replied
  · cases replied
    exact .kept _ (.replied _ _ .silent)
  next parsed =>
  obtain ⟨⟨stored, outcome⟩, done, replied⟩ := bind_ok replied
  have replies : Replied stored w := by
    cases outcome with
    | error text =>
      cases replied
      exact .silent
    | ok modeChanged => cases modeChanged <;> cases replied <;> exact .replied _ _ .silent
  unfold setSub at done
  dsimp only at done
  split at done
  · next own => exact .setSelf r authed named own done replies
  next other =>
  have someone : r.target ≠ 0 := by
    intro zero
    apply parsed
    unfold SetSubRequest.target at zero
    cases user : r.user with
    | none =>
      rw [user] at zero
      exact absurd zero authed
    | some uid =>
      rw [user] at zero
      exact congrArg some zero
  exact .setOther r authed other someone done replies

theorem attend_happened (cfg : Config) (fail : Faults) (v : Service) (e : SessionEvent) :
    Happened cfg fail v e (attend cfg fail v e).world := by
  cases e with
  | subscribe r authed =>
    simp only [attend]
    split
    · exact .kept _ .silent
    · exact registerSession_happened r authed
  | leave sess asUid original unsub authed =>
    simp only [attend]
    split
    · exact .kept _ .silent
    next ordinary =>
    split
    · exact .kept _ (.replied _ _ .silent)
    next linked =>
    cases unsub with
    | true => exact unsubscribe_happened sess asUid original authed
    | false =>
      refine leaveTopic_happened rfl ?_ (by simp)
      simp only [SessionEvent.departure]
      rw [if_neg (not_or.mpr ⟨ordinary, linked⟩)]
  | setSub r authed =>
    simp only [attend]
    split
    · exact .kept _ (.replied _ _ .silent)
    next addressed =>
    split
    · exact .kept _ .silent
    · next w res replied =>
      refine replySetSub_happened authed (fun channel => ?_) replied
      simpa [misaddressed, channel] using addressed
  | delSub sess asUid original user =>
    simp only [attend]
    split
    · exact .kept _ .silent
    · next w res replied => exact .removed sess asUid original user replied
  | lost s =>
    simp only [attend]
    split
    · exact .kept _ .silent
    next sess keyed =>
    split
    · next linked =>
      refine leaveTopic_happened rfl ?_ (by simp)
      simp only [SessionEvent.departure, keyed, Option.bind_some]
      exact if_pos linked
    · exact .kept _ .silent
  | dropped s =>
    simp only [attend]
    split
    · exact .kept _ .silent
    · next sess keyed =>
      refine leaveTopic_happened rfl ?_ (by simp)
      simp [SessionEvent.departure, keyed]
  | foreground s =>
    simp only [attend]
    split
    · exact .kept _ .silent
    next sess keyed =>
    split
    · next background =>
      split
      · next linked =>
        refine .raised _ sess ?_
        simp only [SessionEvent.raised, keyed, Option.bind_some]
        exact if_pos ⟨background.1, background.2, linked⟩
      · exact .kept _ .silent
    · exact .kept _ .silent
  | remoteForeground sess =>
    simp only [attend]
    split
    · next remote => exact .raised _ sess (if_pos remote)
    · exact .kept _ .silent
  | detached s =>
    simp only [attend]
    split
    all_goals exact .kept _ .silent

end LastochkaServer.Source
