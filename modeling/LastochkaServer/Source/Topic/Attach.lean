import LastochkaServer.Source.Topic.Presence

/-!
# Attaching and leaving

`registerSession`, `subscriptionReply`, `handleLeaveRequest` and `sessToForeground` of
`server/topic.go:341-380, 726-890, 1391-1490`, with the part of a session that they depend on:
whether the session is linked to the topic (`s.subs`) and whether it is in the background.

A multiplexing session stands for the sessions of one cluster node. Its requests arrive on
short-lived proxy sessions, which carry the user and the background flag of the remote session.

Left out: `mostRecentSession`, `fndRemovePublic` and the notifications of `me` and `fnd` topics.
-/

namespace LastochkaServer.Source

open Lib AccessMode

def World.setTopic (w : World) (topic : Topic) : World := { w with topic := topic }

@[simp] theorem World.setTopic_topic (w : World) (topic : Topic) : (w.setTopic topic).topic = topic :=
  rfl

namespace Topic

/-- Change the online counter of a user. -/
def addOnline (t : Topic) (uid : Uid) (change : Int) : Topic :=
  let pud := t.pud uid
  t.setPud uid { pud with online := pud.online + change }

end Topic

/-- The part of `subscriptionReply` that attaches the session. -/
def attachSession (t : Topic) (r : SubRequest) (newsub : Bool) : Topic :=
  let t := t.addSession r.sess r.asUid r.asChan
  let t := if r.sess.background then t else t.addOnline r.asUid 1
  if t.cat = .grp ∧ newsub then { t with subCnt := t.subCnt + 1 } else t

/-- The user is not subscribed yet, so the request is for a new subscription. -/
def isNewsub (t : Topic) (r : SubRequest) : Bool :=
  r.newsub || ((t.cat == .p2p || t.cat == .grp) &&
    ((t.perUser.lookup r.asUid).map (·.deleted)).getD true)

/-- The user may join with the mode reported, if one is reported. -/
def hasJoined (modeChanged : Option MsgAccessMode) : Bool :=
  match modeChanged with
  | none => true
  | some acs =>
    match parseAcs acs.mode with
    | .ok m => m.isJoiner
    | .error _ => true

/-- `subscriptionReply`: the error, or whether the session has been attached. -/
def subscriptionReply (cfg : Config) (fail : Faults) (w : World) (r : SubRequest) :
    Exec (World × Except String Bool) := do
  let newsub := isNewsub w.topic r
  match ← thisUserSub cfg fail w { r with newsub := newsub } with
  | (w, .error text) => return (w, .error text)
  | (w, .ok modeChanged) =>
    let joined := hasJoined modeChanged
    let w := if joined then w.setTopic (attachSession w.topic r newsub) else w
    let _ ← w.topic.original r.asUid
    return (w.emit (.queueOut r.sess.sid .noErr), .ok joined)

/-- The session has been attached. -/
@[simp] def hasAttached : Except String Bool → Bool
  | .ok joined => joined
  | .error _ => false

/-- What `handleLeaveRequest` reads of the message. The loss of a session is reported by a message
with `init` unset and nothing else. -/
structure LeaveRequest where
  sess : Session
  init : Bool := true
  asUid : Uid := 0
  original : Addressing := .topic
  unsub : Bool := false

/-- The user on whose behalf the session leaves. -/
def LeaveRequest.user (r : LeaveRequest) : Uid := if r.init then r.asUid else 0

/-- The session leaves as a channel reader. A wrong name is reported and then ignored. -/
def LeaveRequest.asChan (r : LeaveRequest) (t : Topic) : Bool :=
  r.init && r.original == .channel && t.isChan

/-- The one user who leaves: a proxy session names the user, an ordinary session has one. Zero when
a multiplexing session is dropped with all its users. -/
def LeaveRequest.leaver (r : LeaveRequest) (pssd : PerSessionData) : Uid :=
  if r.sess.isProxy then r.user else pssd.uid

/-- In a group topic a channel reader without online sessions is forgotten. -/
def forgetReader (asChan : Bool) (t : Topic) (uid : Uid) : Topic :=
  if t.cat = .grp ∧ (t.pud uid).online = 0 ∧ asChan then { t with perUser := t.perUser.erase uid }
  else t

/-- The accounting of `handleLeaveRequest` for a session that has been removed. -/
def leaveUsers (t : Topic) (r : LeaveRequest) (pssd : PerSessionData) : Exec Topic :=
  let asChan := r.asChan t
  if pssd.isChanSub ≠ asChan then .ok t
  else
    let uid := r.leaver pssd
    if uid ≠ 0 then
      let t := if r.sess.background then t else t.addOnline uid (-1)
      .ok (forgetReader asChan t uid)
    else if pssd.muids ≠ [] then
      let t := pssd.muids.foldl (fun t uid => t.addOnline uid (-1)) t
      .ok (pssd.muids.foldl (forgetReader asChan) t)
    else if r.sess.isCluster then .ok t
    else .error .cannotDetermineUid

/-- `handleLeaveRequest` after the name is checked. -/
def leaveOrUnsub (fail : Faults) (w : World) (r : LeaveRequest) : Exec (World × Bool) :=
  if w.topic.inactive then
    .ok (if r.user ≠ 0 ∧ r.init then w.emit (.queueOut r.sess.sid .errLocked) else w, false)
  else if r.init ∧ r.unsub then
    (fun done => (done.1, false)) <$> replyLeaveUnsub fail w r.sess r.user r.original
  else
    match w.topic.remSession r.sess.attached r.user with
    | (_, none) => .ok (w, false)
    | (topic, some (pssd, _)) =>
      (fun topic => (w.setTopic topic, true)) <$> leaveUsers topic r pssd

/-- `handleLeaveRequest`; the result says whether the session has been removed from the topic. -/
def handleLeaveRequest (fail : Faults) (w : World) (r : LeaveRequest) : Exec (World × Bool) :=
  let wrong := r.init && r.original == .channel && !w.topic.isChan
  leaveOrUnsub fail (if wrong then w.emit (.queueOut r.sess.sid .errNotFound) else w) r

/-- `sessToForeground`. For a multiplexing session the source also appends the user to the list of
the session's users, but in a copy of the record that is then lost. -/
def sessToForeground (t : Topic) (sess : Session) : Topic :=
  match t.sessions.lookup sess.attached with
  | none => t
  | some pssd =>
    if pssd.isChanSub then t
    else t.addOnline (if sess.attached.isMultiplex then sess.uid else pssd.uid) 1

namespace Topic

theorem addOnline_online (t : Topic) (uid v : Uid) (change : Int) :
    (t.addOnline uid change).online v = t.online v + if v = uid then change else 0 := by
  unfold addOnline online
  rw [pud_setPud]
  split_ifs with same
  · rw [same]
  · rw [Int.add_zero]

theorem addOnline_gone (t : Topic) (uid v : Uid) (change : Int) :
    (t.addOnline uid change).gone v = t.gone v := by
  unfold addOnline gone
  rw [pud_setPud]
  split_ifs with same
  · rw [same]
  · rfl

@[simp] theorem addOnline_sessions (t : Topic) (uid : Uid) (change : Int) :
    (t.addOnline uid change).sessions = t.sessions := rfl

/-- A user taken off the list one by one loses one attachment for each entry. -/
theorem foldl_addOnline (t : Topic) (muids : List Uid) :
    (muids.foldl (fun t uid => t.addOnline uid (-1)) t).sessions = t.sessions ∧
      (∀ v, (muids.foldl (fun t uid => t.addOnline uid (-1)) t).gone v = t.gone v) ∧
      ∀ v, (muids.foldl (fun t uid => t.addOnline uid (-1)) t).online v =
        t.online v - (muids.count v : Int) := by
  induction muids generalizing t with
  | nil => exact ⟨rfl, fun _ => rfl, fun v => by simp⟩
  | cons uid rest ih =>
    obtain ⟨sessions, gone, online⟩ := ih (t.addOnline uid (-1))
    refine ⟨sessions, fun v => ?_, fun v => ?_⟩
    · exact (gone v).trans (addOnline_gone t uid v (-1))
    · refine (online v).trans ?_
      rw [addOnline_online, List.count_cons]
      by_cases same : uid = v
      · subst same
        simp only [if_true, BEq.rfl, Nat.cast_add, Nat.cast_one]
        omega
      · simp [same, Ne.symm same]

end Topic

theorem attachSession_eq (t : Topic) (r : SubRequest) (newsub : Bool) :
    attachSession t r newsub =
      { bif r.sess.background then t else t.addOnline r.asUid 1 with
        sessions := (t.addSession r.sess r.asUid r.asChan).sessions
        subCnt := t.subCnt + if t.cat = .grp ∧ newsub then 1 else 0 } := by
  obtain ⟨sessions, added⟩ : ∃ sessions, t.addSession r.sess r.asUid r.asChan =
    { t with sessions := sessions } := by
    unfold Topic.addSession
    dsimp only
    split
    · split <;> exact ⟨_, rfl⟩
    · exact ⟨_, rfl⟩
  unfold attachSession
  rw [added]
  cases r.sess.background <;> simp only [Bool.false_eq_true, if_false, if_true] <;>
    change (if t.cat = .grp ∧ newsub then _ else _) =
      _ <;> split_ifs <;> first | rfl | rw [Int.add_zero]; rfl

open Topic

theorem forgetReader_presence (asChan : Bool) (t : Topic) (uid : Uid) :
    (forgetReader asChan t uid).sessions = t.sessions ∧
      (∀ v, (forgetReader asChan t uid).gone v → t.gone v) ∧
      ∀ v, (forgetReader asChan t uid).online v = t.online v := by
  unfold forgetReader
  split_ifs with empty
  · refine ⟨rfl, fun v left => ?_, fun v => ?_⟩
    · rw [Topic.gone, pud_erase] at left
      split_ifs at left
      exact left
    · rw [Topic.online, pud_erase]
      split_ifs with same
      · rw [same, Topic.online, empty.2.1]
      · rfl
  · exact ⟨rfl, fun _ left => left, fun _ => rfl⟩

theorem foldl_forgetReader (asChan : Bool) (t : Topic) (muids : List Uid) :
    (muids.foldl (forgetReader asChan) t).sessions = t.sessions ∧
      (∀ v, (muids.foldl (forgetReader asChan) t).gone v → t.gone v) ∧
      ∀ v, (muids.foldl (forgetReader asChan) t).online v = t.online v := by
  induction muids generalizing t with
  | nil => exact ⟨rfl, fun _ left => left, fun _ => rfl⟩
  | cons uid rest ih =>
    obtain ⟨sessions, gone, online⟩ := ih (forgetReader asChan t uid)
    obtain ⟨sessions', gone', online'⟩ := forgetReader_presence asChan t uid
    exact ⟨sessions.trans sessions', fun v left => gone' v (gone v left),
      fun v => (online v).trans (online' v)⟩

/-- How many attachments of `v` the accounting of `handleLeaveRequest` takes off. -/
def departures (t : Topic) (r : LeaveRequest) (pssd : PerSessionData) (v : Uid) : Nat :=
  if pssd.isChanSub ≠ r.asChan t then 0
  else
    let uid := r.leaver pssd
    if uid ≠ 0 then if r.sess.background then 0 else if v = uid then 1 else 0
    else pssd.muids.count v

section departures

variable {t : Topic} {r : LeaveRequest} {pssd : PerSessionData}

theorem departures_misnamed (other : pssd.isChanSub ≠ r.asChan t) (v : Uid) :
    departures t r pssd v = 0 :=
  if_pos other

theorem departures_one (same : pssd.isChanSub = r.asChan t) (nonzero : r.leaver pssd ≠ 0)
    (v : Uid) : departures t r pssd v =
      if r.sess.background then 0 else if v = r.leaver pssd then 1 else 0 := by
  unfold departures
  rw [if_neg (not_not.mpr same)]
  exact if_pos nonzero

theorem departures_all (same : pssd.isChanSub = r.asChan t) (zero : r.leaver pssd = 0) (v : Uid) :
    departures t r pssd v = pssd.muids.count v := by
  unfold departures
  rw [if_neg (not_not.mpr same)]
  exact if_neg (not_not.mpr zero)

end departures

theorem leaveUsers_presence {t t' : Topic} {r : LeaveRequest} {pssd : PerSessionData}
    (ran : leaveUsers t r pssd = .ok t') :
    t'.sessions = t.sessions ∧ (∀ v, t'.gone v → t.gone v) ∧
      ∀ v, t'.online v = t.online v - (departures t r pssd v : Int) := by
  unfold leaveUsers at ran
  unfold departures
  dsimp only at ran ⊢
  split_ifs at ran ⊢ with chan known background listed
  · cases ran
    exact ⟨rfl, fun _ left => left, fun v => by simp⟩
  · cases ran
    obtain ⟨sessions, gone, online⟩ := forgetReader_presence (r.asChan t) t
      (r.leaver pssd)
    exact ⟨sessions, gone, fun v => by rw [online v]; simp⟩
  · cases ran
    obtain ⟨sessions, gone, online⟩ := forgetReader_presence (r.asChan t)
      (t.addOnline (r.leaver pssd) (-1))
      (r.leaver pssd)
    refine ⟨sessions, fun v left => ?_, fun v => ?_⟩
    · rw [← addOnline_gone t (r.leaver pssd) v (-1)]
      exact gone v left
    · rw [online v, addOnline_online]
      split_ifs <;> omega
  · cases ran
    obtain ⟨sessions, gone, online⟩ := foldl_addOnline t pssd.muids
    obtain ⟨sessions', gone', online'⟩ := foldl_forgetReader (r.asChan t)
      (pssd.muids.foldl (fun t uid => t.addOnline uid (-1)) t) pssd.muids
    refine ⟨sessions'.trans sessions, fun v left => ?_, fun v => (online' v).trans (online v)⟩
    rw [← gone v]
    exact gone' v left
  · cases ran
    have empty : pssd.muids = [] := not_not.mp listed
    exact ⟨rfl, fun _ left => left, fun v => by simp [empty]⟩

structure Service where
  world : World
  /-- The session has a link to the topic (`s.getSub(t.name) != nil`). -/
  linked : SessionKey → Bool := fun _ => false
  /-- `s.background` of sessions at this node. -/
  background : SessionKey → Bool := fun _ => false

namespace Service

/-- A session at this node with its current background flag. -/
def own (v : Service) (sess : Session) : Session :=
  if sess.multi.isNone then { sess with background := v.background sess.toSessionKey } else sess

/-- The session itself, as it is known to the topic. -/
def keyed (s : SessionKey) (background : Bool) : Option Session :=
  if proxy : s.proto = .proxy then none
  else some
    { toSessionKey := s, background := background
      multi_iff_proxy := by simpa using proxy
      multi_multiplex := SessionKey.none_multiplex }

def link (v : Service) (s : SessionKey) (linked : Bool) : Service :=
  { v with linked := fun s' => if s' = s then linked else v.linked s' }

/-- The session leaves the background. -/
def awaken (v : Service) (s : SessionKey) : Service :=
  { v with background := fun s' => if s' = s then false else v.background s' }

def reply (v : Service) (sess : Session) (reply : Reply) : Service :=
  { v with world := v.world.emit (.queueOut sess.sid reply) }

end Service

/-- What happens to a topic and its sessions. Requests are made by authenticated users. -/
inductive SessionEvent
  /-- `{sub}` -/
  | subscribe (r : SubRequest) (authenticated : r.asUid ≠ 0)
  /-- `{leave}`, with or without `unsub` -/
  | leave (sess : Session) (asUid : Uid) (original : Addressing) (unsub : Bool)
      (authenticated : asUid ≠ 0)
  /-- `{set sub}` -/
  | setSub (r : SetSubRequest) (authenticated : r.asUid ≠ 0)
  /-- `{del what=sub}` -/
  | delSub (sess : Session) (asUid : Uid) (original : Addressing) (user : Uid)
  /-- The connection of a session is lost (`cleanUp`), or a cluster node is gone. -/
  | lost (s : SessionKey)
  /-- A session that does not take its messages is dropped from the topic. -/
  | dropped (s : SessionKey)
  /-- The background timer of a session fires. -/
  | foreground (s : SessionKey)
  /-- The background timer of a session at another node has fired. -/
  | remoteForeground (sess : Session)
  /-- A session learns that the topic has detached it. -/
  | detached (s : SessionKey)

/-- `unregisterSession` for a request, and the session's link afterwards. -/
def leaveTopic (fail : Faults) (v : Service) (r : LeaveRequest) : Service :=
  match handleLeaveRequest fail v.world r with
  | .error _ => v
  | .ok (w, removed) =>
    let v := { v with world := w }
    if removed ∧ r.sess.multi.isNone then v.link r.sess.toSessionKey false else v

/-- `registerSession`, and whether `handleSubscription` has returned without an error. -/
def registerSession (cfg : Config) (fail : Faults) (v : Service) (r : SubRequest) : Service × Bool :=
  if v.world.topic.inactive then (v.reply r.sess .errLocked, false)
  else if r.sess.multi.isNone ∧ v.linked r.sess.toSessionKey then
    (v.reply r.sess .infoAlreadySubscribed, false)
  else if misaddressed v.world r.asChan then (v.reply r.sess .errNotFound, false)
  else
    match subscriptionReply cfg fail v.world r with
    | .error _ => (v, false)
    | .ok (w, res) =>
      let v := { v with world := w }
      (if hasAttached res ∧ r.sess.multi.isNone then v.link r.sess.toSessionKey true else v, res.isOk)

/-- One event. A multiplexing session makes no requests of its own and has no timer. A panic stops
the server, so nothing follows it. -/
def attend (cfg : Config) (fail : Faults) (v : Service) : SessionEvent → Service
  | .subscribe r _ =>
    if r.sess.isMultiplex then v else (registerSession cfg fail v { r with sess := v.own r.sess }).1
  | .leave sess asUid original unsub _ =>
    let sess := v.own sess
    if sess.isMultiplex then v
    else if sess.multi.isNone ∧ !v.linked sess.toSessionKey then
      v.reply sess (if unsub then .errAttachFirst else .infoNotJoined)
    else leaveTopic fail v { sess := sess, asUid := asUid, original := original, unsub := unsub }
  | .setSub r _ =>
    if misaddressed v.world r.asChan then v.reply r.sess .errNotFound
    else
      match replySetSub cfg fail v.world r with
      | .error _ => v
      | .ok (w, _) => { v with world := w }
  | .delSub sess asUid original user =>
    match replyDelSub fail v.world sess asUid original user with
    | .error _ => v
    | .ok (w, _) => { v with world := w }
  | .lost s =>
    match Service.keyed s false with
    | none => v
    | some sess =>
      let v := v.awaken s
      if s.isMultiplex ∨ v.linked s then leaveTopic fail v { sess := sess, init := false } else v
  | .dropped s =>
    match Service.keyed s (v.background s) with
    | none => v
    | some sess => leaveTopic fail v { sess := sess, init := false }
  | .foreground s =>
    match Service.keyed s false with
    | none => v
    | some sess =>
      if v.background s ∧ !s.isMultiplex then
        let v := v.awaken s
        if v.linked s ∧ v.world.topic.supd then
          { v with world := v.world.setTopic (sessToForeground v.world.topic sess) }
        else v
      else v
  | .remoteForeground sess =>
    if sess.multi.isSome ∧ v.world.topic.supd then
      { v with world := v.world.setTopic (sessToForeground v.world.topic sess) }
    else v
  | .detached s =>
    -- the topic has removed the session before it sends the notice
    if (v.world.topic.sessions.lookup s).isSome then v else v.link s false

/-- The checks of the handler turn the request down: who grants or removes may not do so, or it is
the owner who unsubscribes. -/
def SessionEvent.denied (cfg : Config) (t : Topic) : SessionEvent → Bool
  | .leave _ asUid _ unsub _ => unsub && decide (t.owner = asUid)
  | .setSub r _ => decide (r.target ≠ r.asUid) && !(grantedMode cfg t r.toGrant).isOk
  | .delSub _ asUid original user => !(deletableSub t asUid original user).isOk
  | _ => false

theorem replyDelSub_denied (fail : Faults) {w : World} (sess : Session) {asUid user : Uid}
    {original : Addressing} (denied : (deletableSub w.topic asUid original user).isOk = false) :
    ∃ out res, replyDelSub fail w sess asUid original user = .ok ({ w with out := out }, res) := by
  unfold replyDelSub
  cases checked : deletableSub w.topic asUid original user with
  | ok pud =>
    rw [checked] at denied
    cases denied
  | error rejection =>
    obtain ⟨out, refused⟩ := refuse_out w sess.sid rejection
    exact ⟨out, _, congrArg (fun w' => Except.ok (w', Except.error rejection.err)) refused⟩

theorem handleLeaveRequest_owner (fail : Faults) {w : World} {r : LeaveRequest} (init : r.init)
    (unsub : r.unsub) (named : r.user ≠ 0) (owner : w.topic.owner = r.user) :
    ∃ out, handleLeaveRequest fail w r = .ok ({ w with out := out }, false) := by
  have stays (w' : World) (same : w'.topic = w.topic) (store : w'.store = w.store) :
      ∃ out, leaveOrUnsub fail w' r = .ok ({ w with out := out }, false) := by
    obtain ⟨topic, rows, out⟩ := w'
    subst same store
    unfold leaveOrUnsub replyLeaveUnsub
    split
    · split_ifs <;> exact ⟨_, rfl⟩
    · rw [if_pos ⟨init, unsub⟩]
      exact ⟨_, rfl⟩
  unfold handleLeaveRequest
  dsimp only
  split_ifs
  · exact stays _ rfl rfl
  · exact stays _ rfl rfl

theorem attend_denied {cfg : Config} (fail : Faults) {v : Service} {e : SessionEvent}
    (denied : e.denied cfg v.world.topic) :
    ∃ out, attend cfg fail v e = { v with world := { v.world with out := out } } := by
  cases e with
  | leave sess asUid original unsub authed =>
    obtain ⟨rfl, owner⟩ : unsub ∧ v.world.topic.owner = asUid := by
      simpa [SessionEvent.denied] using denied
    simp only [attend]
    split_ifs
    · exact ⟨v.world.out, rfl⟩
    · exact ⟨_, rfl⟩
    · obtain ⟨out, stays⟩ := handleLeaveRequest_owner fail
        (r := { sess := v.own sess, asUid := asUid, original := original, unsub := true })
        rfl rfl authed owner
      unfold leaveTopic
      rw [stays]
      exact ⟨out, rfl⟩
  | setSub r authed =>
    obtain ⟨other, checked⟩ : r.target ≠ r.asUid ∧
        (grantedMode cfg v.world.topic r.toGrant).isOk = false := by
      simpa [SessionEvent.denied] using denied
    obtain ⟨out, res, ran⟩ := replySetSub_denied fail other checked
    simp only [attend, ran]
    split_ifs
    · exact ⟨_, rfl⟩
    · exact ⟨out, rfl⟩
  | delSub sess asUid original user =>
    have checked : (deletableSub v.world.topic asUid original user).isOk = false := by
      simpa [SessionEvent.denied] using denied
    obtain ⟨out, res, ran⟩ := replyDelSub_denied fail sess checked
    simp only [attend, ran]
    exact ⟨out, rfl⟩
  | _ => cases denied

end LastochkaServer.Source
