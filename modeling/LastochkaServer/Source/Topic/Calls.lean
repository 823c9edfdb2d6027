import LastochkaServer.Source.Topic.SessionFixture
import LastochkaServer.Source.Topic.Publish

/-!
# Broadcasts and calls

`broadcastToSessions` and `unregisterSession` (`server/topic.go:306-337, 1302-1388`),
`handlePubBroadcast` (`server/topic.go:1093-1146`) and the video calls of `server/calls.go:205-506`.

A session that does not take a broadcast is dropped, dropping a participant ends the call, and the
end of a call is saved as a message and broadcast. The source bounds this recursion by nothing; here
a broadcast gets `fuel`, and running out of it is an outcome of its own.

Left out: the name under which a recipient knows the topic (a session of a P2P topic gets a message
only if its user is cached, so the name is always found), pushes, plug-ins and timers. The header of
the message that started a call is not fetched by the source either.
-/

namespace LastochkaServer.Source

open Lib AccessMode

variable {r : PubRequest} {callDidTimeout : Bool}

/-- How a handler fails to return. -/
inductive Stop
  | panic (p : Panic)
  | outOfFuel
  deriving DecidableEq, Repr

abbrev Handler := Except Stop

def Exec.run {α : Type} (x : Exec α) : Handler α := x.mapError .panic

theorem Exec.run_ok {α : Type} {x : Exec α} {a : α} : Exec.run x = .ok a ↔ x = .ok a := by
  cases x <;> simp [Exec.run, Except.mapError]

def isChannel (name : String) : Bool := name.toList.take 3 == ['c', 'h', 'n']

/-- `types.ChnToGrp`, for the name of a channel. -/
def chnToGrp (name : String) : String := String.ofList (['g', 'r', 'p'] ++ name.toList.drop 3)

def Broadcast.skipSid : Broadcast → String
  | .data _ skipSid => skipSid
  | .hangUp _ | .react _ _ => ""

namespace Topic

/-- The session gets the broadcast. A multiplexing session gets every one, but of the two sessions
of a node that reads a channel under both names only one does. -/
def receives (t : Topic) (msg : Broadcast) (s : SessionKey) (pssd : PerSessionData) : Bool :=
  if s.isMultiplex then
    !(pssd.isChanSub && isChannel s.sid && (t.sessions.lookup ⟨chnToGrp s.sid, .multiplex⟩).isSome)
  else
    s.sid != msg.skipSid &&
      match msg with
      | .data _ _ => t.userIsReader pssd.uid || pssd.isChanSub
      | .hangUp _ | .react _ _ => !pssd.isChanSub && t.userIsReader pssd.uid

/-- The sessions that get the `n`-th broadcast, in the order in which they are visited. -/
def recipients (t : Topic) (env : Env) (n : Nat) (msg : Broadcast) : List SessionKey :=
  (env.order n t.sessions.keys).filter fun s => (t.sessions.lookup s).any (t.receives msg s)

/-- `t.currentCall`, where the source dereferences it. -/
def ongoingCall (t : Topic) : Exec VideoCall :=
  match t.currentCall with
  | some call => .ok call
  | none => .error .nilDereference

def setCall (t : Topic) (call : Option VideoCall) : Topic := { t with currentCall := call }

end Topic

/-- A broadcast. -/
abbrev Cast := Broadcast → Server → Handler Server

def saveAndBroadcastMessage (env : Env) (cast : Cast) (v : Server) (r : PubRequest) :
    Handler (Server × Except Reply Unit) := do
  let (v, result) ← Exec.run (saveMessage env v r)
  match result with
  | .error reply => return (v, .error reply)
  | .ok () =>
    let v ← cast (.data v.topic.lastID (if r.noEcho then r.sess.sid else "")) v
    return (v, .ok ())

/-- The states of a call as the header of a message reports them. -/
inductive CallState
  | accepted | finished | disconnected | missed | declined
  deriving DecidableEq, Repr

def CallState.text : CallState → String
  | .accepted => "accepted"
  | .finished => "finished"
  | .disconnected => "disconnected"
  | .missed => "missed"
  | .declined => "declined"

namespace VideoCall

def originator (call : VideoCall) : Option CallParty :=
  (call.parties.entries.map (·.2)).find? (·.isOriginator)

/-- The user returned by `getCallOriginator`, zero where there is none. -/
def originatorUid (call : VideoCall) : Uid := (call.originator.map (·.uid)).getD 0

/-- `messageHead`, for a message without a header of its own. -/
def messageHead (call : VideoCall) (newState : CallState) (duration : Nat) : Head :=
  let head : Head := (∅ : Head).insert "replace" (.str (":" ++ toString call.seq))
  let head := head.insert "webrtc" (.str newState.text)
  let head := if duration > 0 then head.insert "webrtc-duration" (.num duration) else head
  if call.contentMime ≠ .null then head.insert "mime" call.contentMime else head

/-- How the call has ended. Without an `actor` the server ends it. -/
def endState (call : VideoCall) (actor : Option Uid) (callDidTimeout : Bool) : CallState :=
  match actor with
  | some uid =>
    if call.parties.len = 2 then .finished
    else if uid = call.originatorUid then .missed
    else .declined
  | none => if callDidTimeout then .missed else .disconnected

/-- The message that replaces the one that has started the call. -/
def replacement (call : VideoCall) (sess : Session) (newState : CallState) (duration : Nat) :
    PubRequest :=
  { sess := sess
    asUid := call.originatorUid
    head := some (call.messageHead newState duration)
    content := call.content }

/-- The call ends when the session goes: a participant's session, or the multiplexing session of a
participant at another node. -/
def involves (call : VideoCall) (s : SessionKey) : Bool :=
  if s.isMultiplex then
    call.parties.entries.any fun e => e.2.sess.isProxy && e.2.sess.multi == some s
  else (call.parties.lookup s.sid).isSome

end VideoCall

def infoCallSubsOffline (v : Server) (target : Uid) (event : CallEvent) (seq : Int) : Exec Server :=
  let pud := v.topic.pud target
  if target = 0 || pud.deleted || !pud.mode.isPresencer || !pud.mode.isReader then .ok v
  else (fun _ => v.emit (.infoCall target event seq)) <$> v.topic.original target

/-- The last loop of `maybeEndCallInProgress`: the call is looked up for each user. -/
def informSubscriber (v : Server) (target : Uid) : Exec Server := do
  let call ← v.topic.ongoingCall
  infoCallSubsOffline v target .hangUp call.seq

def maybeEndCallInProgress (env : Env) (cast : Cast) (v : Server) (actor : Option Uid)
    (sess : Session) (callDidTimeout : Bool) : Handler Server :=
  match v.topic.currentCall with
  | none => .ok v
  | some call => do
    let replaceWith := call.endState actor callDidTimeout
    let duration := if replaceWith = .finished then env.callDuration v.saves else 0
    let (v, _) ← saveAndBroadcastMessage env cast v (call.replacement sess replaceWith duration)
    -- the broadcast may have ended the call
    let call ← Exec.run v.topic.ongoingCall
    let v ← cast (.hangUp call.seq) v
    let v ← Exec.run (v.topic.perUser.keys.foldlM informSubscriber v)
    return v.setTopic (v.topic.setCall none)

def terminateCallInProgress (env : Env) (cast : Cast) (v : Server) (callDidTimeout : Bool) :
    Handler Server :=
  match v.topic.currentCall with
  | none => .ok v
  | some call =>
    match call.originator with
    | none => .ok (v.setTopic (v.topic.setCall none))
    | some party =>
      if party.uid = 0 then .ok (v.setTopic (v.topic.setCall none))
      else do
        let _ ← Exec.run (v.topic.original party.uid)
        maybeEndCallInProgress env cast v none party.sess callDidTimeout

/-- The first part of `unregisterSession`. -/
def endCallOf (env : Env) (cast : Cast) (v : Server) (s : SessionKey) : Handler Server :=
  match v.topic.currentCall with
  | none => .ok v
  | some call => if call.involves s then terminateCallInProgress env cast v false else .ok v

def unregisterSession (env : Env) (cast : Cast) (v : Server) (r : LeaveRequest) : Handler Server := do
  let v ← endCallOf env cast v r.sess.toSessionKey
  let (w, _) ← Exec.run (handleLeaveRequest env.leaveFaults v.world r)
  return { v with world := w }

/-- A session that has not taken a broadcast is dropped. -/
def dropSession (env : Env) (cast : Cast) (v : Server) (s : SessionKey) : Handler Server :=
  match Service.keyed s (env.background s) with
  | none => .ok v
  | some sess => unregisterSession env cast v { sess := sess, init := false }

/-- `broadcastToSessions`, where `cast` does the broadcasts that follow from dropped sessions. -/
def broadcastWith (env : Env) (cast : Cast) (msg : Broadcast) (v : Server) : Handler Server :=
  let recipients := v.topic.recipients env v.casts msg
  let dropSessions := recipients.filter (env.refuses v.casts)
  let v := { v with casts := v.casts + 1 }.emit (.broadcast msg recipients)
  dropSessions.foldlM (dropSession env cast) v

def broadcastToSessions (env : Env) : Nat → Cast
  | 0 => fun _ _ => .error .outOfFuel
  | fuel + 1 => broadcastWith env (broadcastToSessions env fuel)

def handleCallInvite (t : Topic) (r : PubRequest) : Topic :=
  t.setCall (some
    { parties := (∅ : GoMap String CallParty).insert r.sess.sid
        { uid := r.asUid, isOriginator := true, sess := r.sess }
      seq := t.lastID
      content := r.content
      contentMime := (r.head.bind (·.lookup "mime")).getD .null })

/-- `handleReactionCarrier`; the result is the reply to the sender. -/
def handleReactionCarrier (env : Env) (cast : Cast) (v : Server) (r : PubRequest) (seq : Int)
    (op : ReactionOp) : Handler (Server × Option Reply) :=
  let emoji := if op = .add then reactionEmojiFromContent r.content else ""
  if op = .add ∧ !isValidReactionEmoji emoji then
    .ok (v.emit (.queueOut r.sess.sid .errMalformed), some .errMalformed)
  else
    match storeReaction env v r.asUid seq op emoji with
    | none => .ok (v, none)
    | some v => do
      let _ ← Exec.run (v.topic.original r.asUid)
      let v ← cast (.react seq r.asUid) v
      return (v.emit (.queueOut r.sess.sid .noErr), some .noErr)

/-- `handlePubBroadcast`; the result is the reply to the sender. -/
def handlePubBroadcast (env : Env) (fuel : Nat) (v : Server) (r : PubRequest) :
    Handler (Server × Option Reply) := do
  match ← Exec.run (pubRefusal env v.topic r) with
  | some reply => return (v.emit (.queueOut r.sess.sid reply), some reply)
  | none =>
    match parseReactionCarrier r with
    | some (seq, op) => handleReactionCarrier env (broadcastToSessions env fuel) v r seq op
    | none =>
      let seq := v.topic.lastID + 1
      match ← saveAndBroadcastMessage env (broadcastToSessions env fuel) v r with
      | (v, .error reply) => return (v, some reply)
      | (v, .ok ()) =>
        let reply := if r.id = "" then none else some (.noErrAccepted seq)
        let v := if r.isCall then v.setTopic (handleCallInvite v.topic r) else v
        return (v, reply)

/-- `{note what=call}`. -/
structure CallNote where
  sess : Session
  asUid : Uid
  original : Addressing := .topic
  seqId : Int
  event : CallEvent

/-- `isCallParticipant`. -/
def VideoCall.isParticipant (call : VideoCall) (sid : String) (uid : Uid) : Bool :=
  (call.parties.lookup sid).isSome || call.parties.entries.any fun e => e.2.uid == uid

/-- `ringing` and `accept`, from a callee. -/
def answerCall (env : Env) (cast : Cast) (v : Server) (call : VideoCall) (originator : CallParty)
    (r : CallNote) : Handler Server := do
  let _ ← Exec.run (v.topic.original originator.uid)
  let forward (v : Server) : Server :=
    v.emit (.forwardCall originator.sess.sid r.event call.seq r.asUid)
  if r.event = .accept then
    match ← saveAndBroadcastMessage env cast v (call.replacement r.sess .accepted 0) with
    | (v, .error _) => return v
    | (v, .ok ()) =>
      -- the broadcast may have ended the call
      let call ← Exec.run v.topic.ongoingCall
      let callee : CallParty := { uid := r.asUid, isOriginator := false, sess := r.sess }
      let v := v.setTopic (v.topic.setCall
        (some { call with parties := call.parties.insert r.sess.sid callee }))
      let v ← Exec.run (infoCallSubsOffline v r.asUid r.event call.seq)
      return forward v
  else return forward v

/-- `offer`, `answer` and `ice-candidate`: passed on to the other participant. -/
def exchangeMetadata (v : Server) (call : VideoCall) (r : CallNote) : Handler Server :=
  if call.parties.len ≠ 2 ∨ (call.parties.lookup r.sess.sid).isNone then .ok v
  else
    match call.parties.entries.find? (·.1 ≠ r.sess.sid) with
    | none => .ok v
    | some other => do
      let _ ← Exec.run (v.topic.original other.2.uid)
      return v.emit (.forwardCall other.2.sess.sid r.event call.seq r.asUid)

/-- Whether a request to hang up is heeded. -/
def mayHangUp (call : VideoCall) (r : CallNote) : Exec Bool :=
  if call.parties.len = 2 then .ok (call.isParticipant r.sess.sid r.asUid)
  else if call.parties.len = 1 ∧ r.asUid = call.originatorUid then
    match call.originator with
    | some originator => .ok (originator.sess.sid == r.sess.sid)
    | none => .error .nilDereference
  else .ok true

def handleCallEvent (env : Env) (cast : Cast) (v : Server) (r : CallNote) : Handler Server :=
  match v.topic.currentCall with
  | none => .ok v
  | some call =>
    if v.topic.inactive ∨ call.seq ≠ r.seqId ∨ (v.topic.perUser.lookup r.asUid).isNone then .ok v
    else
      match r.event with
      | .ringing | .accept =>
        if call.parties.len ≠ 1 then .ok v
        else
          match call.originator with
          | none => terminateCallInProgress env cast v false
          | some originator =>
            if originator.sess.sid = r.sess.sid ∨ originator.uid = r.asUid then .ok v
            else answerCall env cast v call originator r
      | .offer | .answer | .iceCandidate => exchangeMetadata v call r
      | .hangUp => do
        if ← Exec.run (mayHangUp call r) then
          maybeEndCallInProgress env cast v (some r.asUid) r.sess false
        else return v
      | .unexpected => .ok v

/-- The part of `handleNoteBroadcast` that concerns calls. -/
def handleCallNote (env : Env) (cast : Cast) (v : Server) (r : CallNote) : Handler Server :=
  if v.topic.inactive ∨ r.seqId > v.topic.lastID then .ok v
  else
    match v.topic.verifyChannelAccess r.original with
    | .error _ => .ok v
    | .ok _ => handleCallEvent env cast v r

/-- `refreshCallPartySession`: a participant has subscribed from a new session. -/
def refreshCallPartySession (t : Topic) (sess : Session) (asUid : Uid) : Topic :=
  let uid := if asUid = 0 then sess.uid else asUid
  match t.currentCall with
  | none => t
  | some call =>
    if uid = 0 then t
    else
      match call.parties.entries.find? fun e => e.2.uid == uid && e.1 != sess.sid with
      | none => t
      | some ⟨sid, party⟩ =>
        t.setCall (some { call with
          parties := (call.parties.erase sid).insert sess.sid { party with sess := sess } })

/-- What happens to a topic with a call. Requests are made by authenticated users. -/
inductive TopicEvent
  | note (r : CallNote)
  /-- A session leaves or is lost. -/
  | unregister (r : LeaveRequest) (authenticated : r.init → r.asUid ≠ 0)
  /-- Nobody has answered in time. -/
  | callTimeout

def handleTopicEvent (env : Env) (fuel : Nat) (v : Server) : TopicEvent → Handler Server
  | .note r => handleCallNote env (broadcastToSessions env fuel) v r
  | .unregister r _ => unregisterSession env (broadcastToSessions env fuel) v r
  | .callTimeout => terminateCallInProgress env (broadcastToSessions env fuel) v true

/-- Nothing is said in the topic: messages, their numbers and the call stay. -/
structure Silent (w w' : World) : Prop where
  cat : w'.topic.cat = w.topic.cat
  lastID : w'.topic.lastID = w.topic.lastID
  currentCall : w'.topic.currentCall = w.topic.currentCall
  messages : w'.store.messages = w.store.messages

theorem Silent.refl (w : World) : Silent w w := ⟨rfl, rfl, rfl, rfl⟩

theorem silent_of_fixture {w w' : World} (kept : w'.fixture = w.fixture) : Silent w w' :=
  ⟨(congrArg Fixture.cat kept :), (congrArg Fixture.lastID kept :),
    (congrArg Fixture.currentCall kept :), (congrArg Fixture.messages kept :)⟩

theorem handleLeaveRequest_silent {fail : Faults} {w w' : World} {r : LeaveRequest} {removed : Bool}
    (ran : handleLeaveRequest fail w r = .ok (w', removed)) : Silent w w' :=
  silent_of_fixture (handleLeaveRequest_fixture ran)

-- Broadcasts, dropped sessions and ended calls are nested as deep as the fuel allows.  What the
-- single steps preserve, a whole broadcast preserves.

/-- The message replaces one that has started a call. -/
def PubRequest.FromCall (r : PubRequest) : Prop :=
  ∃ (call : VideoCall) (sess : Session) (state : CallState) (duration : Nat), r =
    call.replacement sess state duration

theorem PubRequest.FromCall.noFiles (fromCall : r.FromCall) : r.attachments = [] := by
  obtain ⟨call, sess, state, duration, rfl⟩ := fromCall
  rfl

structure BroadcastInvariant (env : Env) (inv : Server → Prop) : Prop where
  /-- The only messages that the server writes are about calls. -/
  save : ∀ v v' r result, r.FromCall → inv v → saveMessage env v r = .ok (v', result) → inv v'
  sent : ∀ v, inv v → inv { v with casts := v.casts + 1 }
  emit : ∀ v e, inv v → inv (v.emit e)
  ended : ∀ v, inv v → inv (v.setTopic (v.topic.setCall none))
  leave : ∀ (v : Server) w sess removed, inv v →
    handleLeaveRequest env.leaveFaults v.world { sess := sess, init := false } = .ok (w, removed) →
    inv { v with world := w }

/-- The broadcast preserves the invariant. -/
def Preserves (inv : Server → Prop) (cast : Cast) : Prop :=
  ∀ msg v v', inv v → cast msg v = .ok v' → inv v'

section

variable {env : Env} {inv : Server → Prop} {cast : Cast} {v v' : Server}

theorem infoCallSubsOffline_ok {target : Uid} {event : CallEvent} {seq : Int}
    (ran : infoCallSubsOffline v target event seq = .ok v') : v' = v ∨ ∃ e, v' = v.emit e := by
  unfold infoCallSubsOffline at ran
  dsimp only at ran
  split at ran
  · cases ran
    exact .inl rfl
  · obtain ⟨name, -, rfl⟩ := map_ok ran
    exact .inr ⟨_, rfl⟩

theorem saveAndBroadcastMessage_preserves (preserves : Preserves inv cast) {res : Except Reply Unit}
    (saved : ∀ v' res, saveMessage env v r = .ok (v', res) → inv v')
    (ran : saveAndBroadcastMessage env cast v r = .ok (v', res)) : inv v' := by
  obtain ⟨⟨stored, result'⟩, written, ran⟩ := bind_ok ran
  have holds := saved _ _ (Exec.run_ok.mp written)
  cases result' with
  | error reply =>
    cases ran
    exact holds
  | ok u =>
    obtain ⟨sent, broadcast, ran⟩ := bind_ok ran
    cases ran
    exact preserves _ _ _ holds broadcast

end

namespace BroadcastInvariant

variable {env : Env} {inv : Server → Prop} {cast : Cast} {v v' : Server} {s : SessionKey}

variable (rule : BroadcastInvariant env inv)
include rule

theorem informSubscriber {target : Uid} (holds : inv v) (ran : informSubscriber v target = .ok v') :
    inv v' := by
  unfold Source.informSubscriber at ran
  obtain ⟨call, -, ran⟩ := bind_ok ran
  obtain rfl | ⟨e, rfl⟩ := infoCallSubsOffline_ok ran
  · exact holds
  · exact rule.emit v e holds

section

variable (preserves : Preserves inv cast)
include preserves

theorem maybeEndCallInProgress {actor : Option Uid} {sess : Session} (holds : inv v)
    (ran : maybeEndCallInProgress env cast v actor sess callDidTimeout = .ok v') : inv v' := by
  unfold Source.maybeEndCallInProgress at ran
  split at ran
  · cases ran
    exact holds
  obtain ⟨⟨saved, res⟩, done, ran⟩ := bind_ok ran
  have holds : inv saved := saveAndBroadcastMessage_preserves preserves
    (fun _ _ written => rule.save _ _ _ _ ⟨_, _, _, _, rfl⟩ holds written) done
  obtain ⟨ongoing, -, ran⟩ := bind_ok ran
  obtain ⟨sent, broadcast, ran⟩ := bind_ok ran
  obtain ⟨informed, loop, ran⟩ := bind_ok ran
  cases ran
  exact rule.ended _ (foldlM_invariant (fun _ _ _ holds step => rule.informSubscriber holds step)
    (preserves _ _ _ holds broadcast) (Exec.run_ok.mp loop))

theorem terminateCallInProgress (holds : inv v)
    (ran : terminateCallInProgress env cast v callDidTimeout = .ok v') : inv v' := by
  unfold Source.terminateCallInProgress at ran
  split at ran
  · cases ran
    exact holds
  split at ran
  · cases ran
    exact rule.ended v holds
  split at ran
  · cases ran
    exact rule.ended v holds
  · obtain ⟨name, -, ran⟩ := bind_ok ran
    exact rule.maybeEndCallInProgress preserves holds ran

theorem endCallOf (holds : inv v)
    (ran : endCallOf env cast v s = .ok v') : inv v' := by
  unfold Source.endCallOf at ran
  split at ran
  · cases ran
    exact holds
  split at ran
  · exact rule.terminateCallInProgress preserves holds ran
  · cases ran
    exact holds

theorem dropSession (holds : inv v)
    (ran : dropSession env cast v s = .ok v') : inv v' := by
  unfold Source.dropSession at ran
  split at ran
  · cases ran
    exact holds
  unfold unregisterSession at ran
  obtain ⟨ended, done, ran⟩ := bind_ok ran
  obtain ⟨⟨w, removed⟩, left, ran⟩ := bind_ok ran
  cases ran
  exact rule.leave ended w _ removed (rule.endCallOf preserves holds done) (Exec.run_ok.mp left)

theorem broadcastWith : Preserves inv (broadcastWith env cast) := by
  intro msg v v' holds ran
  unfold Source.broadcastWith at ran
  exact foldlM_invariant (fun _ _ _ holds step => rule.dropSession preserves holds step)
    (rule.emit _ _ (rule.sent v holds)) ran

end

theorem broadcastToSessions (fuel : Nat) : Preserves inv (broadcastToSessions env fuel) := by
  induction fuel with
  | zero =>
    intro msg v v' _ ran
    cases ran
  | succ fuel ih => exact rule.broadcastWith ih

/-- A publish preserves what its own message, a reaction and a new call preserve. -/
theorem handlePubBroadcast {fuel : Nat} {reply : Option Reply}
    (saved : ∀ v' res, saveMessage env v r = .ok (v', res) → inv v')
    (reacted : ∀ uid seq op emoji v', storeReaction env v uid seq op emoji = some v' → inv v')
    (invited : ∀ v, inv v → inv (v.setTopic (handleCallInvite v.topic r))) (holds : inv v)
    (ran : handlePubBroadcast env fuel v r = .ok (v', reply)) : inv v' := by
  have preserves := rule.broadcastToSessions fuel
  unfold Source.handlePubBroadcast at ran
  obtain ⟨refusal, -, ran⟩ := bind_ok ran
  cases refusal with
  | some reply' =>
    cases ran
    exact rule.emit _ _ holds
  | none =>
    dsimp only at ran
    split at ran
    · next seq op carried =>
      unfold handleReactionCarrier at ran
      dsimp only at ran
      generalize (if op = .add then reactionEmojiFromContent r.content else "") = emoji at ran
      split at ran
      · cases ran
        exact rule.emit _ _ holds
      split at ran
      · cases ran
        exact holds
      next stored done =>
      obtain ⟨name, -, ran⟩ := bind_ok ran
      obtain ⟨sent, broadcast, ran⟩ := bind_ok ran
      cases ran
      exact rule.emit _ _ (preserves _ _ _ (reacted _ _ _ _ _ done) broadcast)
    · obtain ⟨⟨stored, res⟩, done, ran⟩ := bind_ok ran
      have holds := saveAndBroadcastMessage_preserves preserves saved done
      cases res with
      | error reply' =>
        cases ran
        exact holds
      | ok u =>
        cases ran
        split_ifs
        · exact invited _ holds
        · exact holds

end BroadcastInvariant

end LastochkaServer.Source
