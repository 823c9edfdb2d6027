import LastochkaServer.Source.Topic.Calls

/-!
# Termination of calls

A call ends with a message and a broadcast, both while the call is still recorded. If a session of a
participant does not take one of them, the session is dropped, which ends the same call once more:
the handler then either recurses without end or comes back to a call that is gone and dereferences
nil. `call_event_handled_iff` says that this is the only way in which a call event, a leave or the
loss of a session goes wrong.
-/

namespace LastochkaServer.Guarantees.CallTermination

open Lib Source

variable {w : World} {s : SessionKey} {r : LeaveRequest} {sess : Session} {t'' : Topic}
  {pssd : PerSessionData} {uid : Uid} {msg : Broadcast} {callDidTimeout : Bool} {actor : Option Uid}
  {sessions : List SessionKey} {e : TopicEvent} {fuel : Nat}

/-- A topic of two users. Ordinary sessions have a user, and nobody is a channel reader. -/
structure Paired (t : Topic) : Prop where
  cat : t.cat = .p2p
  users : ∀ uid, ∃ other, (t.perUser.lookup other).isSome ∧ other ≠ uid
  user : ∀ s pssd, t.sessions.lookup s = some pssd → s.isMultiplex = false → pssd.uid ≠ 0
  plain : ∀ s pssd, t.sessions.lookup s = some pssd → pssd.isChanSub = false
  attached : ∀ s pssd, t.sessions.lookup s = some pssd → s.isProxy = false

/-- A call in progress between users of the topic. -/
structure InCall (t : Topic) (call : VideoCall) : Prop where
  current : t.currentCall = some call
  originator : ∃ party, call.originator = some party ∧ party.uid ≠ 0
  cached : ∀ e ∈ call.parties.entries, (t.perUser.lookup e.2.uid).isSome

/-- A topic of two users with a call in progress. -/
structure OnCall (t : Topic) (call : VideoCall) : Prop extends Paired t, InCall t call

/-- The permissions in force stay, and cached users stay cached. -/
structure SameUsers (t t' : Topic) : Prop where
  mode : ∀ uid, (t'.pud uid).mode = (t.pud uid).mode
  cached : ∀ uid, (t.perUser.lookup uid).isSome → (t'.perUser.lookup uid).isSome

theorem SameUsers.refl (t : Topic) : SameUsers t t := ⟨fun _ => rfl, fun _ => id⟩

theorem SameUsers.trans {t t' : Topic} (first : SameUsers t t') (second : SameUsers t' t'') :
    SameUsers t t'' :=
  ⟨fun uid => (second.mode uid).trans (first.mode uid),
    fun uid known => second.cached uid (first.cached uid known)⟩

/-- Sessions may have gone; nothing else that matters for a call has changed. -/
structure Trimmed (t t' : Topic) : Prop where
  cat : t'.cat = t.cat
  currentCall : t'.currentCall = t.currentCall
  users : SameUsers t t'
  sessions : ∀ s pssd, t'.sessions.lookup s = some pssd → t.sessions.lookup s = some pssd

theorem Trimmed.refl (t : Topic) : Trimmed t t := ⟨rfl, rfl, .refl t, fun _ _ => id⟩

theorem Trimmed.trans {t t' : Topic} (first : Trimmed t t') (second : Trimmed t' t'') :
    Trimmed t t'' where
  cat := second.cat.trans first.cat
  currentCall := second.currentCall.trans first.currentCall
  users := first.users.trans second.users
  sessions s pssd attached := first.sessions s pssd (second.sessions s pssd attached)

variable {t t' : Topic} {call : VideoCall}

theorem Paired.trimmed (paired : Paired t) (trimmed : Trimmed t t') : Paired t' where
  cat := trimmed.cat.trans paired.cat
  users uid := by
    obtain ⟨other, known, ne⟩ := paired.users uid
    exact ⟨other, trimmed.users.cached other known, ne⟩
  user s pssd attached := paired.user s pssd (trimmed.sessions s pssd attached)
  plain s pssd attached := paired.plain s pssd (trimmed.sessions s pssd attached)
  attached s pssd attached := paired.attached s pssd (trimmed.sessions s pssd attached)

theorem OnCall.trimmed (onCall : OnCall t call) (trimmed : Trimmed t t') : OnCall t' call where
  toPaired := onCall.toPaired.trimmed trimmed
  current := trimmed.currentCall.trans onCall.current
  originator := onCall.originator
  cached e party := trimmed.users.cached e.2.uid (onCall.cached e party)

/-- Whether a session gets a broadcast depends on its record and on the permissions of its user. -/
theorem receives_trimmed (paired : Paired t) (trimmed : Trimmed t t') (msg : Broadcast)
    (attached : t.sessions.lookup s = some pssd) :
    t'.receives msg s pssd = t.receives msg s pssd := by
  unfold Topic.receives
  cases multiplex : s.isMultiplex with
  | true => simp [paired.plain s pssd attached]
  | false =>
    have known : pssd.uid ≠ 0 := paired.user s pssd attached multiplex
    have reader : t'.userIsReader pssd.uid = t.userIsReader pssd.uid := by
      have mode := trimmed.users.mode pssd.uid
      unfold PerUserData.mode at mode
      simp [Topic.userIsReader, Topic.getPerUserAcs, known, mode]
    simp [reader]

theorem original_of_cached (paired : Paired t) (cached : (t.perUser.lookup uid).isSome) :
    ∃ name, t.original uid = .ok name := by
  obtain ⟨pud, known⟩ := Option.isSome_iff_exists.mp cached
  unfold Topic.original
  rw [paired.cat]
  rw [known]
  exact ⟨_, rfl⟩

theorem InCall.originator_cached (inCall : InCall t call) :
    (t.perUser.lookup call.originatorUid).isSome := by
  obtain ⟨party, found, -⟩ := inCall.originator
  have mem := List.mem_of_find?_eq_some found
  obtain ⟨e, entry, rfl⟩ := List.mem_map.mp mem
  rw [VideoCall.originatorUid, found]
  exact inCall.cached e entry

theorem OnCall.originator_named {party : CallParty} (onCall : OnCall t call)
    (found : call.originator = some party) : ∃ name, t.original party.uid = .ok name := by
  have named := original_of_cached onCall.toPaired onCall.originator_cached
  rwa [VideoCall.originatorUid, found] at named

theorem addOnline_sameUsers (t : Topic) (uid : Uid) (change : Int) :
    SameUsers t (t.addOnline uid change) := by
  refine ⟨fun v => ?_, fun v known => ?_⟩
  · unfold Topic.addOnline
    rw [Topic.pud_setPud]
    split_ifs with same
    · rw [same]
      rfl
    · rfl
  · unfold Topic.addOnline Topic.setPud
    by_cases same : v = uid
    · subst same
      simp [AList.lookup_insert]
    · rwa [AList.lookup_insert_ne same]

theorem foldl_addOnline_sameUsers (t : Topic) (muids : List Uid) :
    SameUsers t (muids.foldl (fun t uid => t.addOnline uid (-1)) t) := by
  induction muids generalizing t with
  | nil => exact .refl t
  | cons uid rest ih => exact (addOnline_sameUsers t uid (-1)).trans (ih _)

theorem foldl_forgetReader_p2p (p2p : t.cat = .p2p) (asChan : Bool) (muids : List Uid) :
    muids.foldl (forgetReader asChan) t = t := by
  induction muids with
  | nil => rfl
  | cons uid rest ih => rw [List.foldl_cons, forgetReader, if_neg (by simp [p2p]), ih]

theorem leaving_p2p (p2p : t.cat = .p2p) (uids : List Uid) (counted asChan : Bool) :
    SameUsers t (t.leaving uids counted asChan) := by
  unfold Topic.leaving
  cases counted with
  | false =>
    rw [cond_false, foldl_forgetReader_p2p p2p]
    exact .refl t
  | true =>
    rw [cond_true, foldl_forgetReader_p2p (by rw [foldl_addOnline_frame]; exact p2p)]
    exact foldl_addOnline_sameUsers t uids

/-- A record with a user, or of a session of the cluster, can be accounted for. -/
theorem leaveUsers_returns (known : r.leaver pssd ≠ 0 ∨ r.sess.isCluster) :
    ∃ t', leaveUsers t r pssd = .ok t' := by
  unfold leaveUsers
  dsimp only
  split
  · exact ⟨_, rfl⟩
  split
  · exact ⟨_, rfl⟩
  next all =>
  split
  · exact ⟨_, rfl⟩
  rw [if_pos (known.resolve_left all)]
  exact ⟨_, rfl⟩

theorem notifySubChange_returns (paired : Paired w.topic) (uid actor : Uid) (isChan : Bool)
    (oldWant oldGiven newWant newGiven : AccessMode) (skip : String) :
    ∃ w', notifySubChange w uid actor isChan oldWant oldGiven newWant newGiven skip = .ok w' := by
  obtain ⟨other, known, ne⟩ := paired.users uid
  have found : (w.topic.perUser.keys.find? (· ≠ uid)).isSome :=
    List.find?_isSome.mpr ⟨other, AList.lookup_isSome.mp known, by simpa using ne⟩
  obtain ⟨first, found⟩ := Option.isSome_iff_exists.mp found
  have returns : w.topic.p2pOtherUser uid = .ok first := by
    unfold Topic.p2pOtherUser
    rw [found]
    exact if_pos paired.cat
  unfold notifySubChange
  dsimp only
  split
  · rw [returns]
    exact ⟨_, rfl⟩
  · exact ⟨_, rfl⟩

theorem evictUser_returns (p2p : w.topic.cat = .p2p) (uid : Uid) (skip : String) :
    ∃ w', evictUser w uid true skip = .ok w' := by
  obtain ⟨pud, cached⟩ : ∃ pud, (forgetUser w uid true).topic = w.topic.setPud uid pud := by
    unfold forgetUser
    dsimp only
    cases w.topic.perUser.lookup uid with
    | none =>
      rw [if_pos ⟨rfl, p2p⟩]
      exact ⟨_, rfl⟩
    | some pud =>
      dsimp only
      rw [if_pos rfl, if_pos p2p]
      exact ⟨_, rfl⟩
  have known : (forgetUser w uid true).topic.original uid = .ok pud.topicName := by
    rw [cached, Topic.original, show (w.topic.setPud uid pud).cat = .p2p from p2p]
    simp [Topic.setPud, AList.lookup_insert]
  unfold evictUser
  dsimp only
  rw [known]
  exact ⟨_, rfl⟩

theorem finishUnsub_returns (paired : Paired w.topic) (sess : Session) (asUid : Uid) (asChan : Bool) :
    ∃ res, finishUnsub w sess asUid asChan = .ok res := by
  have rest : ∀ w₁ : World, w₁.topic = w.topic → ∀ oldWant oldGiven, ∃ res,
      (do
        let w ← notifySubChange w₁ asUid asUid asChan oldWant oldGiven AccessMode.modeUnset
          AccessMode.modeUnset sess.sid
        let w ← evictUser w asUid true sess.sid
        return ({ w with topic := w.topic.countUnsub }, Except.ok ()) :
          Exec (World × Except String Unit)) = .ok res := by
    intro w₁ topic oldWant oldGiven
    have paired : Paired w₁.topic := by rwa [topic]
    obtain ⟨notified, reported⟩ := notifySubChange_returns paired asUid asUid asChan oldWant oldGiven
      AccessMode.modeUnset AccessMode.modeUnset sess.sid
    have p2p : notified.topic.cat = .p2p := by
      rw [notifySubChange_ok reported]
      exact paired.cat
    obtain ⟨evicted, gone⟩ := evictUser_returns p2p asUid sess.sid
    rw [reported]
    exact ⟨_, by simp only [bind, Except.bind, gone]; rfl⟩
  refine rest _ ?_ _ _
  split_ifs <;> rfl

theorem replyLeaveUnsub_returns (fail : Faults) (paired : Paired w.topic) (sess : Session)
    {asUid : Uid}
    (authed : asUid ≠ 0) (original : Addressing) :
    ∃ res, replyLeaveUnsub fail w sess asUid original = .ok res := by
  unfold replyLeaveUnsub
  rw [if_neg authed]
  split
  · exact ⟨_, rfl⟩
  split
  · exact ⟨_, rfl⟩
  split
  · exact ⟨_, rfl⟩
  split
  · exact ⟨_, rfl⟩
  · next store _ => exact finishUnsub_returns (w := { w with store := store }) paired sess asUid _

theorem handleLeaveRequest_returns (fail : Faults) (paired : Paired w.topic)
    (authed : r.init → r.asUid ≠ 0) : ∃ res, handleLeaveRequest fail w r = .ok res := by
  unfold handleLeaveRequest
  obtain ⟨w₀, topic, start⟩ : ∃ w₀ : World, w₀.topic = w.topic ∧ w₀ =
      if (r.init && r.original == .channel && !w.topic.isChan) then
        w.emit (.queueOut r.sess.sid .errNotFound) else w := by
    refine ⟨_, ?_, rfl⟩
    split_ifs <;> rfl
  dsimp only
  rw [← start]
  have paired : Paired w₀.topic := by rwa [topic]
  unfold leaveOrUnsub
  split
  · exact ⟨_, rfl⟩
  split
  · next unsubscribes =>
    obtain ⟨res, left⟩ := replyLeaveUnsub_returns fail paired r.sess
      (show r.user ≠ 0 by rw [LeaveRequest.user, if_pos unsubscribes.1]; exact authed unsubscribes.1)
      r.original
    rw [left]
    exact ⟨_, rfl⟩
  split
  · exact ⟨_, rfl⟩
  next topic' pssd gone found =>
  have known : r.leaver pssd ≠ 0 ∨ r.sess.isCluster := by
    cases cluster : r.sess.isCluster with
    | true => exact .inr rfl
    | false =>
      rw [SessionKey.isCluster, Bool.or_eq_false_iff] at cluster
      have own : r.sess.attached = r.sess.toSessionKey := by
        have single := r.sess.multi_iff_proxy
        rw [show (r.sess.proto == .proxy) = false from cluster.1, Option.isSome_eq_false_iff,
          Option.isNone_iff_eq_none] at single
        rw [Session.attached, single, Option.getD_none]
      obtain ⟨old, attached, change⟩ := Topic.remSession_some found
      have uid : pssd.uid = old.uid := by
        rcases change with ⟨-, rfl, -⟩ | ⟨-, -, rfl, -⟩ <;> rfl
      refine .inl ?_
      rw [LeaveRequest.leaver, cluster.1, uid]
      rw [own] at attached
      exact paired.user _ old attached cluster.2
  obtain ⟨left, done⟩ := leaveUsers_returns (t := topic') known
  rw [done]
  exact ⟨_, rfl⟩

/-- A session that is lost or dropped leaves; the others stay. -/
theorem handleLeaveRequest_trimmed {fail : Faults} {w' : World} {removed : Bool}
    (p2p : w.topic.cat = .p2p)
    (ran : handleLeaveRequest fail w { sess := sess, init := false } = .ok (w', removed)) :
    Trimmed w.topic w'.topic ∧
      ∀ s, s ≠ sess.attached → w'.topic.sessions.lookup s = w.topic.sessions.lookup s := by
  cases handleLeaveRequest_left ran with
  | kept replies =>
    rw [replies.frame.1]
    exact ⟨.refl _, fun _ _ => rfl⟩
  | unsubscribed asks => cases asks.1
  | @departed _ _ _ topic after _ _ found left =>
    obtain ⟨old, attached, ⟨-, rfl, rest⟩ | ⟨notAll, -⟩⟩ := Topic.remSession_some found
    · obtain ⟨kept, changed⟩ : SameUsers topic after ∧
        after = { topic with perUser := after.perUser } := by
        rw [leaveUsers_eq found left]
        exact ⟨leaving_p2p (by rw [rest]; exact p2p) _ _ _, leaving_frame ..⟩
      rw [rest] at kept
      rw [World.setTopic_topic, changed, rest]
      exact ⟨⟨rfl, rfl, ⟨kept.mode, kept.cached⟩, fun s record present =>
        (GoMap.lookup_erase_eq_some.mp present).2⟩, fun s other => AList.lookup_erase_ne other⟩
    · exact absurd (.inr rfl) notAll

variable {env : Env} {cast : Cast} {v v' : Server}

/-- The session of a participant does not take the `n`-th broadcast. -/
def Stuck (env : Env) (t : Topic) (call : VideoCall) (n : Nat) (msg : Broadcast) : Prop :=
  ∃ s pssd, t.sessions.lookup s = some pssd ∧ call.involves s ∧
    t.receives msg s pssd ∧ env.refuses n s

/-- The sessions of the participants stay. -/
structure Kept (call : VideoCall) (t t' : Topic) : Prop extends Trimmed t t' where
  involved : ∀ s, call.involves s → t'.sessions.lookup s = t.sessions.lookup s

theorem Kept.refl (call : VideoCall) (t : Topic) : Kept call t t := ⟨.refl t, fun _ _ => rfl⟩

theorem Kept.trans (first : Kept call t t') (second : Kept call t' t'') : Kept call t t'' :=
  ⟨first.toTrimmed.trans second.toTrimmed,
    fun s involved => (second.involved s involved).trans (first.involved s involved)⟩

theorem Kept.stuck_iff (kept : Kept call t t') (paired : Paired t) (n : Nat) (msg : Broadcast) :
    Stuck env t' call n msg ↔ Stuck env t call n msg := by
  constructor
  · rintro ⟨s, pssd, attached, involved, receives, refuses⟩
    have attached := kept.sessions s pssd attached
    rw [receives_trimmed paired kept.toTrimmed msg attached] at receives
    exact ⟨s, pssd, attached, involved, receives, refuses⟩
  · rintro ⟨s, pssd, attached, involved, receives, refuses⟩
    rw [← receives_trimmed paired kept.toTrimmed msg attached] at receives
    exact ⟨s, pssd, (kept.involved s involved).trans attached, involved, receives, refuses⟩

theorem countMessage_kept (call : VideoCall) (t : Topic) (uid : Uid) :
    Kept call t (t.countMessage uid) := by
  have frame := t.countMessage_frame uid
  have sessions : (t.countMessage uid).sessions = t.sessions := (congrArg Topic.sessions frame :)
  refine ⟨⟨(congrArg Topic.cat frame :), (congrArg Topic.currentCall frame :), ⟨fun v => ?_,
    fun v known => ?_⟩, fun s pssd attached => by rwa [sessions] at attached⟩,
    fun s _ => by rw [sessions]⟩
  · unfold Topic.pud GoMap.getD
    rw [Topic.countMessage_lookup]
    cases t.perUser.lookup v with
    | none => rfl
    | some pud =>
      split_ifs <;> rfl
  · rw [Topic.countMessage_lookup, Option.isSome_map]
    exact known

theorem MessageSaved.kept {r : PubRequest} (done : MessageSaved v r v') :
    Kept call v.topic v'.topic := by
  rw [done.topic]
  exact countMessage_kept call _ _

theorem mem_dropSessions {n : Nat} :
    s ∈ (t.recipients env n msg).filter (env.refuses n) ↔
      ∃ pssd, t.sessions.lookup s = some pssd ∧ t.receives msg s pssd ∧
        env.refuses n s := by
  unfold Topic.recipients
  rw [List.mem_filter, List.mem_filter, (env.order_perm n t.sessions.keys).mem_iff,
    Option.any_eq_true]
  constructor
  · rintro ⟨⟨-, pssd, attached, receives⟩, refuses⟩
    exact ⟨pssd, attached, receives, refuses⟩
  · rintro ⟨pssd, attached, receives, refuses⟩
    have present : s ∈ t.sessions := by
      rw [← AList.lookup_isSome, attached]
      rfl
    exact ⟨⟨present, pssd, attached, receives⟩, refuses⟩

theorem keyed_ordinary (ordinary : s.isProxy = false) (background : Bool) :
    ∃ sess, Service.keyed s background = some sess ∧ sess.toSessionKey = s ∧ sess.multi = none := by
  unfold Service.keyed
  rw [dif_neg (by simpa [SessionKey.isProxy] using ordinary)]
  exact ⟨_, rfl, rfl, rfl⟩

theorem maybeEndCallInProgress_over
    (ran : maybeEndCallInProgress env cast v actor sess callDidTimeout = .ok v') :
    v'.topic.currentCall = none := by
  unfold maybeEndCallInProgress at ran
  split at ran
  · next callOver =>
    cases ran
    exact callOver
  obtain ⟨saved, -, ran⟩ := bind_ok ran
  obtain ⟨ongoing, -, ran⟩ := bind_ok ran
  obtain ⟨sent, -, ran⟩ := bind_ok ran
  obtain ⟨informed, -, ran⟩ := bind_ok ran
  cases ran
  rfl

theorem terminateCallInProgress_over
    (ran : terminateCallInProgress env cast v callDidTimeout = .ok v') :
    v'.topic.currentCall = none := by
  unfold terminateCallInProgress at ran
  split at ran
  · next callOver =>
    cases ran
    exact callOver
  split at ran
  · cases ran
    rfl
  split at ran
  · cases ran
    rfl
  · obtain ⟨name, -, ran⟩ := bind_ok ran
    exact maybeEndCallInProgress_over ran

/-- A call does not outlive the session of a participant, and goes on without the others. -/
theorem unregisterSession_call (current : v.topic.currentCall = some call)
    (ran : unregisterSession env cast v r = .ok v') :
    v'.topic.currentCall = if call.involves r.sess.toSessionKey then none else some call := by
  obtain ⟨ended, done, ran⟩ := bind_ok ran
  obtain ⟨⟨w, removed⟩, left, ran⟩ := bind_ok ran
  cases ran
  refine (handleLeaveRequest_silent (Exec.run_ok.mp left)).currentCall.trans ?_
  unfold endCallOf at done
  rw [current] at done
  dsimp only at done
  split_ifs at done ⊢
  · exact terminateCallInProgress_over done
  · cases done
    exact current

theorem unregisterSession_over (callOver : v.topic.currentCall = none)
    (ran : unregisterSession env cast v r = .ok v') : v'.topic.currentCall = none := by
  unfold unregisterSession endCallOf at ran
  rw [callOver] at ran
  obtain ⟨ended, done, ran⟩ := bind_ok ran
  obtain ⟨⟨w, removed⟩, left, ran⟩ := bind_ok ran
  cases done
  cases ran
  exact (handleLeaveRequest_silent (Exec.run_ok.mp left)).currentCall.trans callOver

theorem dropSession_over (callOver : v.topic.currentCall = none)
    (ran : dropSession env cast v s = .ok v') : v'.topic.currentCall = none := by
  unfold dropSession at ran
  split at ran
  · cases ran
    exact callOver
  · exact unregisterSession_over callOver ran

theorem dropSessions_end_call (current : v.topic.currentCall = some call) (dropped : s ∈ sessions)
    (ordinary : s.isProxy = false) (involved : call.involves s)
    (ran : sessions.foldlM (dropSession env cast) v = .ok v') : v'.topic.currentCall = none := by
  induction sessions generalizing v with
  | nil => cases dropped
  | cons first rest ih =>
    obtain ⟨next, done, ran⟩ := bind_ok ran
    have callOver (ended : next.topic.currentCall = none) : v'.topic.currentCall = none :=
      foldlM_invariant (fun _ _ _ callOver step => dropSession_over callOver step) ended ran
    unfold dropSession at done
    split at done
    · next proxy =>
      cases done
      rcases List.mem_cons.mp dropped with rfl | later
      · obtain ⟨sess, known, -⟩ := keyed_ordinary ordinary (env.background s)
        rw [known] at proxy
        cases proxy
      · exact ih current later ran
    next sess known =>
    have after := unregisterSession_call current done
    have key : sess.toSessionKey = first := by
      unfold Service.keyed at known
      split_ifs at known
      cases known
      rfl
    rw [key] at after
    rcases List.mem_cons.mp dropped with rfl | later
    · rw [if_pos involved] at after
      exact callOver after
    · split_ifs at after
      · exact callOver after
      · exact ih after later ran

/-- A broadcast that the session of a participant does not take ends the call, if it returns. -/
theorem broadcastWith_stuck (onCall : OnCall v.topic call)
    (stuck : Stuck env v.topic call v.casts msg)
    (ran : broadcastWith env cast msg v = .ok v') :
    v'.topic.currentCall = none := by
  obtain ⟨s, pssd, attached, involved, receives, refuses⟩ := stuck
  have dropped := mem_dropSessions.mpr ⟨pssd, attached, receives, refuses⟩
  refine dropSessions_end_call ?_ dropped (onCall.attached s pssd attached) involved ran
  exact onCall.current

/-- Sessions of users who are not in the call are dropped. -/
structure Dropped (call : VideoCall) (v v' : Server) : Prop where
  kept : Kept call v.topic v'.topic
  messages : v'.world.store.messages = v.world.store.messages
  casts : v'.casts = v.casts

theorem Dropped.trans {v'' : Server} (first : Dropped call v v') (second : Dropped call v' v'') :
    Dropped call v v'' :=
  ⟨first.kept.trans second.kept, second.messages.trans first.messages,
    second.casts.trans first.casts⟩

section

variable (cast) (onCall : OnCall v.topic call)
include onCall

theorem dropSession_other (ordinary : s.isProxy = false) (other : call.involves s = false) :
    ∃ v', dropSession env cast v s = .ok v' ∧ Dropped call v v' := by
  obtain ⟨sess, known, rfl, own⟩ := keyed_ordinary ordinary (env.background s)
  obtain ⟨⟨w, removed⟩, left⟩ :=
    handleLeaveRequest_returns (r := { sess := sess, init := false }) env.leaveFaults onCall.toPaired
    (fun init => by cases init)
  obtain ⟨trimmed, rest⟩ := handleLeaveRequest_trimmed onCall.cat left
  rw [Session.attached, own, Option.getD_none] at rest
  refine ⟨{ v with world := w }, ?_, ⟨⟨trimmed, fun s involved => rest s ?_⟩,
    (handleLeaveRequest_silent left).messages, rfl⟩⟩
  · unfold dropSession unregisterSession endCallOf
    rw [known, onCall.current]
    dsimp only
    rw [if_neg (by simp [other])]
    simp only [bind, Except.bind, Exec.run_ok.mpr left]
    rfl
  · rintro rfl
    rw [involved] at other
    cases other

theorem dropSessions_others (others : ∀ s ∈ sessions, s.isProxy = false ∧ call.involves s = false) :
    ∃ v', sessions.foldlM (dropSession env cast) v = .ok v' ∧ Dropped call v v' := by
  induction sessions generalizing v with
  | nil => exact ⟨v, rfl, .refl _ _, rfl, rfl⟩
  | cons s rest ih =>
    obtain ⟨ordinary, other⟩ := others s (by simp)
    obtain ⟨next, done, first⟩ := dropSession_other cast onCall ordinary other
    obtain ⟨v', ran, second⟩ := ih (onCall.trimmed first.kept.toTrimmed)
      fun s later => others s (by simp [later])
    refine ⟨v', ?_, first.trans second⟩
    rw [List.foldlM_cons, done]
    exact ran

theorem broadcastWith_returns (free : ¬ Stuck env v.topic call v.casts msg) :
    ∃ v', broadcastWith env cast msg v = .ok v' ∧ Kept call v.topic v'.topic ∧
      v'.world.store.messages = v.world.store.messages ∧ v'.casts = v.casts + 1 := by
  have others : ∀ s ∈ (v.topic.recipients env v.casts msg).filter (env.refuses v.casts),
      s.isProxy = false ∧ call.involves s = false := by
    intro s mem
    obtain ⟨pssd, attached, receives, refuses⟩ := mem_dropSessions.mp mem
    refine ⟨onCall.attached s pssd attached, ?_⟩
    rw [← Bool.not_eq_true]
    exact fun involved => free ⟨s, pssd, attached, involved, receives, refuses⟩
  let sent := { v with casts := v.casts + 1 }.emit
    (.broadcast msg (v.topic.recipients env v.casts msg))
  obtain ⟨v', ran, dropped⟩ :=
    dropSessions_others (v := sent) cast ⟨onCall.toPaired, onCall.toInCall⟩ others
  exact ⟨v', ran, dropped.kept, dropped.messages, dropped.casts⟩

end

/-- The message that replaces the one that started the call can be stored. -/
def Saves (env : Env) (v : Server) (call : VideoCall) : Prop :=
  v.topic.writable call.originatorUid ∧
    v.world.store.Insertable (env.saveFaults v.saves) (v.topic.lastID + 1)
  deriving Decidable

/-- The sessions of the participants take the message, if it is stored. -/
def SavesFreely (env : Env) (v : Server) (call : VideoCall) : Prop :=
  Saves env v call → ¬ Stuck env v.topic call v.casts (.data (v.topic.lastID + 1) "")

/-- What is left after the message has been saved, where that is possible, and broadcast. -/
structure Replaced (env : Env) (v : Server) (call : VideoCall) (r : PubRequest)
    (v' : Server) : Prop where
  kept : Kept call v.topic v'.topic
  messages : v'.world.store.messages =
    v.world.store.messages ++ if Saves env v call then [r.message v.topic] else []
  casts : v'.casts = if Saves env v call then v.casts + 1 else v.casts

theorem storable_replacement (sess : Session) (newState : CallState) (duration : Nat) :
    Storable env v (call.replacement sess newState duration) ↔ Saves env v call := Iff.rfl

section replacement

variable (onCall : OnCall v.topic call)
include onCall

theorem replacement_written (env : Env) (sess : Session) (newState : CallState) (duration : Nat) :
    ∃ v' res, saveMessage env v (call.replacement sess newState duration) = .ok (v', res) := by
  obtain ⟨name, known⟩ := original_of_cached onCall.toPaired onCall.originator_cached
  exact saveMessage_returns known (linkSafe_nil rfl)

theorem replacement_saved (saves : Saves env v call) (sess : Session) (newState : CallState)
    (duration : Nat) :
    ∃ saved, MessageSaved v (call.replacement sess newState duration) saved ∧ ∀ cast,
      saveAndBroadcastMessage env cast v (call.replacement sess newState duration) =
        (·, .ok ()) <$> cast (.data (v.topic.lastID + 1) "") saved := by
  obtain ⟨saved, res, written⟩ := replacement_written onCall env sess newState duration
  obtain ⟨rfl, done⟩ :=
    saveMessage_saved ((storable_replacement ..).mpr saves) (linkSafe_nil rfl) written
  refine ⟨saved, done, fun cast => ?_⟩
  have lastID : saved.topic.lastID = v.topic.lastID + 1 := by
    rw [done.topic, Topic.countMessage_lastID]
  unfold saveAndBroadcastMessage
  rw [Exec.run_ok.mpr written, ← lastID]
  rfl

theorem replacement_refused (rejected : ¬ Saves env v call) (sess : Session) (newState : CallState)
    (duration : Nat) :
    ∃ refused reply, MessageRefused v refused ∧ ∀ cast,
      saveAndBroadcastMessage env cast v (call.replacement sess newState duration) =
        .ok (refused, .error reply) := by
  obtain ⟨refused, res, written⟩ := replacement_written onCall env sess newState duration
  obtain ⟨⟨reply, rfl⟩, done⟩ :=
    saveMessage_refused (mt (storable_replacement ..).mp rejected) written
  refine ⟨refused, reply, done, fun cast => ?_⟩
  unfold saveAndBroadcastMessage
  rw [Exec.run_ok.mpr written]
  rfl

theorem replacement_stuck {newState : CallState} {duration : Nat} {res : Except Reply Unit}
    (saves : Saves env v call)
    (stuck : Stuck env v.topic call v.casts (.data (v.topic.lastID + 1) ""))
    (ran : saveAndBroadcastMessage env (broadcastToSessions env fuel) v
      (call.replacement sess newState duration) = .ok (v', res)) :
    res = .ok () ∧ v'.topic.currentCall = none := by
  obtain ⟨saved, done, sends⟩ := replacement_saved onCall saves sess newState duration
  rw [sends] at ran
  obtain ⟨sent, broadcast, same⟩ := map_ok ran
  cases same
  have kept : Kept call v.topic saved.topic := MessageSaved.kept done
  cases fuel with
  | zero => cases broadcast
  | succ fuel =>
    refine ⟨rfl, broadcastWith_stuck (onCall.trimmed kept.toTrimmed) ?_ broadcast⟩
    rw [done.casts]
    exact (kept.stuck_iff onCall.toPaired _ _).mpr stuck

theorem replacement_returns (fuel : Nat) (free : SavesFreely env v call) (sess : Session)
    (newState : CallState)
    (duration : Nat) : ∃ v' res, saveAndBroadcastMessage env (broadcastToSessions env (fuel + 1)) v
      (call.replacement sess newState duration) = .ok (v', res) ∧
      Replaced env v call (call.replacement sess newState duration) v' := by
  by_cases saves : Saves env v call
  · obtain ⟨saved, done, ran⟩ := replacement_saved onCall saves sess newState duration
    have kept : Kept call v.topic saved.topic := MessageSaved.kept done
    have free : ¬ Stuck env saved.topic call saved.casts (.data (v.topic.lastID + 1) "") := by
      rw [done.casts, kept.stuck_iff onCall.toPaired]
      exact free saves
    obtain ⟨sent, sends, delivered, messages, casts⟩ :=
      broadcastWith_returns (broadcastToSessions env fuel) (onCall.trimmed kept.toTrimmed) free
    refine ⟨sent, .ok (), ?_, kept.trans delivered, ?_, ?_⟩
    · rw [ran]
      exact congrArg _ sends
    · rw [messages, done.messages, if_pos saves]
    · rw [casts, done.casts, if_pos saves]
  · obtain ⟨refused, reply, done, ran⟩ := replacement_refused onCall saves sess newState duration
    refine ⟨refused, .error reply, ran _, ?_, ?_, ?_⟩
    · rw [done.topic]
      exact .refl call _
    · rw [done.messages, if_neg saves, List.append_nil]
    · rw [done.casts, if_neg saves]

end replacement

/-- The sessions of the participants take what is broadcast when the call ends: the message, if it
is stored, and the `hang-up` event. -/
structure EndsFreely (env : Env) (v : Server) (call : VideoCall) : Prop where
  data : Saves env v call → ¬ Stuck env v.topic call v.casts (.data (v.topic.lastID + 1) "")
  info : ¬ Stuck env v.topic call (if Saves env v call then v.casts + 1 else v.casts)
    (.hangUp call.seq)

theorem infoCallSubsOffline_returns {name : String} (known : v.topic.original uid = .ok name)
    (event : CallEvent) (seq : Int) :
    ∃ v', infoCallSubsOffline v uid event seq = .ok v' ∧ v'.topic = v.topic ∧
      v'.world.store.messages = v.world.store.messages := by
  unfold infoCallSubsOffline
  dsimp only
  split
  · exact ⟨v, rfl, rfl, rfl⟩
  · rw [known]
    exact ⟨_, rfl, rfl, rfl⟩

theorem informSubscribers_return {targets : List Uid} (onCall : OnCall v.topic call)
    (cached : ∀ uid ∈ targets, (v.topic.perUser.lookup uid).isSome) :
    ∃ v', targets.foldlM informSubscriber v = .ok v' ∧ v'.topic = v.topic ∧
      v'.world.store.messages = v.world.store.messages := by
  induction targets generalizing v with
  | nil => exact ⟨v, rfl, rfl, rfl⟩
  | cons uid rest ih =>
    obtain ⟨name, known⟩ := original_of_cached onCall.toPaired (cached uid (by simp))
    obtain ⟨next, told, topic, messages⟩ := infoCallSubsOffline_returns known .hangUp call.seq
    have informed : informSubscriber v uid = .ok next := by
      unfold informSubscriber Topic.ongoingCall
      rw [onCall.current]
      exact told
    obtain ⟨v', ran, topic', messages'⟩ := ih (v := next) (by rwa [topic])
      (by rw [topic]; exact fun uid later => cached uid (by simp [later]))
    refine ⟨v', ?_, topic'.trans topic, messages'.trans messages⟩
    rw [List.foldlM_cons, informed]
    exact ran

/-- The loop over the users looks up the call for each of them. -/
theorem informSubscribers_current (cached : (v.topic.perUser.lookup uid).isSome)
    (ran : v.topic.perUser.keys.foldlM informSubscriber v = .ok v') : v.topic.currentCall ≠ none := by
  intro callOver
  have present : uid ∈ v.topic.perUser.keys := AList.lookup_isSome.mp cached
  cases targets : v.topic.perUser.keys with
  | nil =>
    rw [targets] at present
    cases present
  | cons first rest =>
    rw [targets, List.foldlM_cons] at ran
    obtain ⟨next, informed, -⟩ := bind_ok ran
    unfold informSubscriber Topic.ongoingCall at informed
    rw [callOver] at informed
    cases informed

theorem cached_invariant (env : Env) (uid : Uid) : BroadcastInvariant env fun v =>
    v.topic.cat = .p2p ∧ (v.topic.perUser.lookup uid).isSome where
  save v v' r res fromCall known ran := by
    by_cases storable : Storable env v r
    · have kept := countMessage_kept ⟨∅, 0, .null, .null⟩ v.topic r.asUid
      rw [(saveMessage_saved storable (linkSafe_nil fromCall.noFiles) ran).2.topic]
      exact ⟨kept.cat.trans known.1, kept.users.cached uid known.2⟩
    · rw [(saveMessage_refused storable ran).2.topic]
      exact known
  sent _ known := known
  emit _ _ known := known
  ended _ known := known
  leave v w sess removed known left :=
    ⟨(handleLeaveRequest_silent left).cat.trans known.1,
      (handleLeaveRequest_trimmed known.1 left).1.users.cached uid known.2⟩

/-- A handler that has ended a call has reached every participant. -/
theorem maybeEndCallInProgress_free (onCall : OnCall v.topic call)
    (ran : maybeEndCallInProgress env (broadcastToSessions env fuel) v actor sess callDidTimeout =
      .ok v') : EndsFreely env v call := by
  unfold maybeEndCallInProgress at ran
  rw [onCall.current] at ran
  obtain ⟨⟨saved, res⟩, replaced, ran⟩ := bind_ok ran
  obtain ⟨ongoing, found, ran⟩ := bind_ok ran
  obtain ⟨sent, broadcast, ran⟩ := bind_ok ran
  obtain ⟨informed, loop, -⟩ := bind_ok ran
  unfold Topic.ongoingCall at found
  have data : SavesFreely env v call := by
    intro saves stuck
    rw [(replacement_stuck onCall saves stuck replaced).2] at found
    cases found
  cases fuel with
  | zero => cases broadcast
  | succ fuel =>
    obtain ⟨_, _, again, spec⟩ := replacement_returns onCall fuel data sess
      (call.endState actor callDidTimeout) _
    cases again.symm.trans replaced
    have onCall' := onCall.trimmed spec.kept.toTrimmed
    rw [onCall'.current] at found
    cases found
    refine ⟨data, fun stuck => ?_⟩
    have callOver : sent.topic.currentCall = none := by
      refine broadcastWith_stuck onCall' ?_ broadcast
      rw [spec.casts, spec.kept.stuck_iff onCall.toPaired]
      exact stuck
    have cached := (cached_invariant env call.originatorUid).broadcastToSessions (fuel + 1) _ _ _
      ⟨onCall'.cat, onCall'.originator_cached⟩ broadcast
    exact informSubscribers_current cached.2 (Exec.run_ok.mp loop) callOver

/-- The message stored about the end of the call. -/
def endMessage (env : Env) (v : Server) (call : VideoCall) (actor : Option Uid) (sess : Session)
    (callDidTimeout : Bool) : Message :=
  let replaceWith := call.endState actor callDidTimeout
  let duration := if replaceWith = .finished then env.callDuration v.saves else 0
  (call.replacement sess replaceWith duration).message v.topic

/-- If the participants can be reached, the call ends with at most one message. -/
theorem maybeEndCallInProgress_returns (fuel : Nat) (onCall : OnCall v.topic call)
    (free : EndsFreely env v call) (actor : Option Uid) (sess : Session) (callDidTimeout : Bool) :
    ∃ v', maybeEndCallInProgress env (broadcastToSessions env (fuel + 1)) v actor sess
        callDidTimeout =
        .ok v' ∧ Paired v'.topic ∧ v'.topic.currentCall = none ∧
      v'.world.store.messages = v.world.store.messages ++
        if Saves env v call then [endMessage env v call actor sess callDidTimeout] else [] := by
  let replaceWith := call.endState actor callDidTimeout
  let duration := if replaceWith = .finished then env.callDuration v.saves else 0
  obtain ⟨saved, res, replaced, spec⟩ :=
    replacement_returns onCall fuel free.data sess replaceWith duration
  have onCall' := onCall.trimmed spec.kept.toTrimmed
  have reachable : ¬ Stuck env saved.topic call saved.casts (.hangUp call.seq) := by
    rw [spec.casts, spec.kept.stuck_iff onCall.toPaired]
    exact free.info
  obtain ⟨sent, sends, delivered, messages, -⟩ := broadcastWith_returns
    (broadcastToSessions env fuel) onCall' reachable
  have onCall'' := onCall'.trimmed delivered.toTrimmed
  obtain ⟨informed, loop, topic, messages'⟩ := informSubscribers_return onCall''
    fun uid (present : uid ∈ sent.topic.perUser.keys) => AList.lookup_isSome.mpr present
  refine ⟨informed.setTopic (informed.topic.setCall none), ?_, ?_, rfl, ?_⟩
  · unfold maybeEndCallInProgress
    rw [onCall.current]
    dsimp only
    rw [replaced]
    simp only [bind, Except.bind, Topic.ongoingCall, onCall'.current]
    rw [show Exec.run (Except.ok call) = .ok call from rfl]
    dsimp only
    rw [show broadcastToSessions env (fuel + 1) (.hangUp call.seq) saved = .ok sent from sends]
    simp only [Exec.run_ok.mpr loop]
    rfl
  · rw [Server.setTopic_topic, topic]
    exact { onCall'' with }
  · rw [Server.setTopic_store, messages', messages, spec.messages]
    rfl

theorem terminateCallInProgress_eq (onCall : OnCall v.topic call) :
    ∃ sess, ∀ env cast callDidTimeout, terminateCallInProgress env cast v callDidTimeout =
      maybeEndCallInProgress env cast v none sess callDidTimeout := by
  obtain ⟨party, found, known⟩ := onCall.originator
  obtain ⟨name, named⟩ := onCall.originator_named found
  refine ⟨party.sess, fun env cast callDidTimeout => ?_⟩
  unfold terminateCallInProgress
  rw [onCall.current]
  dsimp only
  rw [found]
  dsimp only
  rw [if_neg known, named]
  rfl

inductive CallStep
  | goesOn | accepted | ends
  deriving DecidableEq, Repr

/-- The event is about the call and comes from a user of the topic. -/
def heeded (t : Topic) (call : VideoCall) (r : CallNote) : Bool :=
  !t.inactive && decide (r.seqId ≤ t.lastID) && (r.original == .topic || t.isChan) &&
    call.seq == r.seqId && (t.perUser.lookup r.asUid).isSome

/-- The call has not been answered, and the event comes from a callee. -/
def answers (call : VideoCall) (r : CallNote) : Bool :=
  call.parties.len == 1 &&
    call.originator.any fun party => party.sess.sid != r.sess.sid && party.uid != r.asUid

/-- What an event does to the call. -/
def callStep (v : Server) (call : VideoCall) : TopicEvent → CallStep
  | .callTimeout => .ends
  | .unregister r _ => if call.involves r.sess.toSessionKey then .ends else .goesOn
  | .note r =>
    if heeded v.topic call r then
      if r.event = .accept ∧ answers call r then .accepted
      else if r.event = .hangUp ∧ mayHangUp call r = .ok true then .ends
      else .goesOn
    else .goesOn

/-- The sessions of the participants take what the event makes the topic broadcast. -/
def Unstuck (env : Env) (v : Server) (call : VideoCall) (e : TopicEvent) : Prop :=
  match callStep v call e with
  | .goesOn => True
  | .accepted =>
    Saves env v call → ¬ Stuck env v.topic call v.casts (.data (v.topic.lastID + 1) "")
  | .ends => EndsFreely env v call

/-- The message replaces the one that started the call and says that the call is over. -/
def isTerminal (seq : Int) (m : Message) : Bool :=
  m.head.any fun head =>
    headString head "replace" == ":" ++ toString seq &&
      [CallState.finished, .declined, .missed, .disconnected].any fun state =>
        headString head "webrtc" == state.text

def terminals (call : VideoCall) (v : Server) : Nat :=
  v.world.store.messages.countP (isTerminal call.seq)

/-- The handler returns, with at most one message that the call is over, and with none if the call
goes on. -/
def Handled (env : Env) (v : Server) (call : VideoCall) (e : TopicEvent) : Prop :=
  ∃ fuel v', handleTopicEvent env fuel v e = .ok v' ∧
    terminals call v' ≤ terminals call v + 1 ∧
    (v'.topic.currentCall.isSome → terminals call v' = terminals call v)

theorem handled_of_same (fuel : Nat) (ran : handleTopicEvent env fuel v e = .ok v')
    (messages : v'.world.store.messages = v.world.store.messages) : Handled env v call e := by
  have same : terminals call v' = terminals call v := by rw [terminals, messages, terminals]
  exact ⟨fuel, v', ran, by omega, fun _ => same⟩

theorem terminals_append_le {messages : List Message}
    (stored : v'.world.store.messages = v.world.store.messages ++ messages)
    (one : messages.length ≤ 1) : terminals call v' ≤ terminals call v + 1 := by
  rw [terminals, stored, List.countP_append, terminals]
  have bound : messages.countP (isTerminal call.seq) ≤ messages.length := List.countP_le_length
  omega

/-- The header of the message states the new state of the call. -/
theorem replacement_webrtc (call : VideoCall) (t : Topic) (sess : Session) (newState : CallState)
    (duration : Nat) :
    ∃ head, ((call.replacement sess newState duration).message t).head = some head ∧
      headString head "webrtc" = newState.text := by
  have stated : (call.messageHead newState duration).lookup "webrtc" = some (.str newState.text) := by
    unfold VideoCall.messageHead
    split_ifs <;>
      simp [AList.lookup_insert, AList.lookup_insert_ne (show "webrtc" ≠ "mime" by decide),
        AList.lookup_insert_ne (show "webrtc" ≠ "webrtc-duration" by decide)]
  have other : "webrtc" ≠ "sender" := by decide
  unfold PubRequest.message PubRequest.signedHead VideoCall.replacement
  split_ifs
  · refine ⟨_, rfl, ?_⟩
    unfold headString
    rw [Option.getD_some, AList.lookup_insert_ne other, stated]
  · refine ⟨_, rfl, ?_⟩
    unfold headString
    rw [AList.lookup_erase_ne other, stated]

theorem accepted_not_terminal (call : VideoCall) (t : Topic) (sess : Session) (duration : Nat) :
    isTerminal call.seq ((call.replacement sess .accepted duration).message t) = false := by
  obtain ⟨head, found, stated⟩ := replacement_webrtc call t sess .accepted duration
  rw [isTerminal, found, Option.any_some, stated]
  have ne : ([CallState.finished, .declined, .missed, .disconnected].any fun state =>
      CallState.accepted.text == state.text) = false := by decide
  rw [ne, Bool.and_false]

section events

variable (onCall : OnCall v.topic call)
include onCall

/-- An event that ends the call, whatever else it does, is handled if the participants can be
reached. -/
theorem ends_handled_iff (rest : Server → Handler Server)
    (ends : ∀ fuel, handleTopicEvent env fuel v e =
      maybeEndCallInProgress env (broadcastToSessions env fuel) v actor sess callDidTimeout >>= rest)
    (returns : ∀ ended : Server, Paired ended.topic → ∃ v', rest ended = .ok v' ∧
      Silent ended.world v'.world) :
    Handled env v call e ↔ EndsFreely env v call := by
  constructor
  · rintro ⟨fuel, v', ran, -⟩
    rw [ends] at ran
    obtain ⟨ended, done, -⟩ := bind_ok ran
    exact maybeEndCallInProgress_free onCall done
  · intro free
    obtain ⟨ended, done, paired, callOver, stored⟩ :=
      maybeEndCallInProgress_returns 0 onCall free actor sess callDidTimeout
    obtain ⟨v', ran, silent⟩ := returns ended paired
    refine ⟨1, v', ?_, terminals_append_le (silent.messages.trans stored) ?_, fun goesOn => ?_⟩
    · rw [ends, done]
      exact ran
    · split_ifs <;> simp
    · rw [show v'.topic.currentCall = none from silent.currentCall.trans callOver] at goesOn
      cases goesOn

theorem timeout_handled_iff : Handled env v call .callTimeout ↔ EndsFreely env v call := by
  obtain ⟨sess, same⟩ := terminateCallInProgress_eq onCall
  exact ends_handled_iff onCall pure (fun fuel => (same _ _ _).trans (bind_pure _).symm)
    fun ended _ => ⟨ended, rfl, .refl _⟩

theorem unregister_handled_iff (authed : r.init → r.asUid ≠ 0) :
    Handled env v call (.unregister r authed) ↔
      (call.involves r.sess.toSessionKey → EndsFreely env v call) := by
  let leave (v : Server) : Handler Server := do
    let left ← Exec.run (handleLeaveRequest env.leaveFaults v.world r)
    return { v with world := left.1 }
  have returns : ∀ v : Server, Paired v.topic → ∃ v', leave v = .ok v' ∧ Silent v.world v'.world := by
    intro v paired
    obtain ⟨⟨w, removed⟩, left⟩ := handleLeaveRequest_returns env.leaveFaults paired authed
    refine ⟨{ v with world := w }, ?_, handleLeaveRequest_silent left⟩
    simp only [leave, Exec.run_ok.mpr left]
    rfl
  have ends (fuel : Nat) : handleTopicEvent env fuel v (.unregister r authed) =
      endCallOf env (broadcastToSessions env fuel) v r.sess.toSessionKey >>= leave := rfl
  unfold endCallOf at ends
  rw [onCall.current] at ends
  cases involved : call.involves r.sess.toSessionKey with
  | true =>
    obtain ⟨sess, same⟩ := terminateCallInProgress_eq onCall
    simp only [involved, if_true, same] at ends
    simpa using ends_handled_iff onCall leave ends returns
  | false =>
    simp only [involved, Bool.false_eq_true, if_false] at ends
    obtain ⟨v', left, silent⟩ := returns v onCall.toPaired
    exact iff_of_true (handled_of_same 0 ((ends 0).trans left) silent.messages) (by simp)

variable {r : CallNote}

/-- A note that is heeded reaches the part of `handleCallEvent` for its kind. -/
theorem handleCallNote_eq :
    handleCallNote env cast v r =
      if heeded v.topic call r then
        match r.event with
        | .ringing | .accept =>
          if call.parties.len ≠ 1 then .ok v
          else
            match call.originator with
            | none => terminateCallInProgress env cast v false
            | some originator =>
              if originator.sess.sid = r.sess.sid ∨ originator.uid = r.asUid then .ok v
              else answerCall env cast v call originator r
        | .offer | .answer | .iceCandidate => exchangeMetadata v call r
        | .hangUp => do
          if ← Exec.run (mayHangUp call r) then
            maybeEndCallInProgress env cast v (some r.asUid) r.sess false
          else return v
        | .unexpected => .ok v
      else .ok v := by
  unfold handleCallNote
  split
  · next stale => rw [if_neg (by grind [heeded])]
  next fresh =>
  rw [not_or, Bool.not_eq_true, not_lt] at fresh
  have named :
      (v.topic.verifyChannelAccess r.original).isOk = (r.original == .topic || v.topic.isChan) := by
    unfold Topic.verifyChannelAccess
    cases r.original <;> cases v.topic.isChan <;> rfl
  split
  · next refused =>
    rw [refused] at named
    rw [if_neg (by simp [heeded, ← named, Except.isOk, Except.toBool])]
  next asChan access =>
  rw [access] at named
  have heard : heeded v.topic call r ↔
      ¬ (v.topic.inactive ∨ call.seq ≠ r.seqId ∨ (v.topic.perUser.lookup r.asUid).isNone) := by
    simp [heeded, ← named, fresh, Except.isOk, Except.toBool, Option.isSome_iff_ne_none]
  unfold handleCallEvent
  rw [onCall.current]
  dsimp only
  cases heeds : heeded v.topic call r with
  | false =>
    rw [if_pos (not_not.mp (mt heard.mpr (by simp [heeds])))]
    rfl
  | true =>
    refine (if_neg (heard.mp heeds)).trans (.trans ?_ (if_pos rfl).symm)
    cases r.event <;> rfl

theorem mayHangUp_returns (r : CallNote) : ∃ heard, mayHangUp call r = .ok heard := by
  obtain ⟨party, found, -⟩ := onCall.originator
  unfold mayHangUp
  split_ifs
  · exact ⟨_, rfl⟩
  · rw [found]
    exact ⟨_, rfl⟩
  · exact ⟨_, rfl⟩

theorem exchangeMetadata_returns :
    ∃ v', exchangeMetadata v call r = .ok v' ∧
      v'.world.store.messages = v.world.store.messages := by
  unfold exchangeMetadata
  split
  · exact ⟨v, rfl, rfl⟩
  cases other : call.parties.entries.find? (·.1 ≠ r.sess.sid) with
  | none => exact ⟨v, rfl, rfl⟩
  | some e =>
    obtain ⟨name, known⟩ :=
      original_of_cached onCall.toPaired (onCall.cached e (List.mem_of_find?_eq_some other))
    dsimp only
    rw [known]
    exact ⟨_, rfl, rfl⟩

section answer

variable {party : CallParty}

theorem ringing_returns (found : call.originator = some party) (ringing : r.event ≠ .accept) :
    ∃ v', answerCall env cast v call party r = .ok v' ∧
      v'.world.store.messages = v.world.store.messages := by
  obtain ⟨name, known⟩ := onCall.originator_named found
  unfold answerCall
  rw [known]
  rw [if_neg ringing]
  exact ⟨_, rfl, rfl⟩

theorem accept_free (accept : r.event = .accept)
    (ran : answerCall env (broadcastToSessions env fuel) v call party r = .ok v') :
    SavesFreely env v call := by
  intro saves stuck
  obtain ⟨name, -, ran⟩ := bind_ok ran
  rw [if_pos accept] at ran
  obtain ⟨⟨saved, res⟩, replaced, ran⟩ := bind_ok ran
  obtain ⟨rfl, callOver⟩ := replacement_stuck onCall saves stuck replaced
  obtain ⟨ongoing, found, -⟩ := bind_ok ran
  unfold Topic.ongoingCall at found
  rw [callOver] at found
  cases found

theorem accept_returns (found : call.originator = some party) (accept : r.event = .accept)
    (cached : (v.topic.perUser.lookup r.asUid).isSome) (fuel : Nat) (free : SavesFreely env v call) :
    ∃ v', answerCall env (broadcastToSessions env (fuel + 1)) v call party r = .ok v' ∧
      terminals call v' = terminals call v := by
  obtain ⟨name, known⟩ := onCall.originator_named found
  obtain ⟨saved, res, replaced, spec⟩ := replacement_returns onCall fuel free r.sess .accepted 0
  have counted : terminals call saved = terminals call v := by
    rw [terminals, spec.messages, List.countP_append, terminals]
    split_ifs
    · rw [List.countP_singleton, accepted_not_terminal]
      rfl
    · rfl
  unfold answerCall
  rw [known, if_pos accept, replaced]
  cases res with
  | error reply => exact ⟨saved, rfl, counted⟩
  | ok u =>
    have onCall' := onCall.trimmed spec.kept.toTrimmed
    obtain ⟨name', known'⟩ := original_of_cached onCall'.toPaired (spec.kept.users.cached _ cached)
    let callee : CallParty := { uid := r.asUid, isOriginator := false, sess := r.sess }
    let joined := saved.setTopic (saved.topic.setCall
      (some { call with parties := call.parties.insert r.sess.sid callee }))
    obtain ⟨informed, told, -, messages⟩ :=
      infoCallSubsOffline_returns (show joined.topic.original r.asUid = .ok name' from known')
        r.event call.seq
    refine ⟨informed.emit (.forwardCall party.sess.sid r.event call.seq r.asUid), ?_, ?_⟩
    · have ongoing : saved.topic.ongoingCall = .ok call := by
        rw [Topic.ongoingCall, onCall'.current]
      simp only [bind, Except.bind, Exec.run, Except.mapError, ongoing]
      rw [told]
      rfl
    · rw [← counted, terminals, terminals]
      exact congrArg _ messages

end answer

omit onCall in
theorem answers_iff {party : CallParty} (found : call.originator = some party) :
    answers call r ↔ call.parties.len = 1 ∧
      ¬ (party.sess.sid = r.sess.sid ∨ party.uid = r.asUid) := by
  simp [answers, found]

theorem accept_handled_iff (heard : heeded v.topic call r) (accept : r.event = .accept)
    (callee : answers call r) : Handled env v call (.note r) ↔ SavesFreely env v call := by
  obtain ⟨party, found, -⟩ := onCall.originator
  obtain ⟨one, other⟩ := (answers_iff found).mp callee
  have answered (cast : Cast) : handleCallNote env cast v r = answerCall env cast v call party r := by
    rw [handleCallNote_eq onCall, if_pos heard, accept]
    rw [if_neg (not_not.mpr one), found]
    exact if_neg other
  constructor
  · rintro ⟨fuel, v', ran, -⟩
    exact accept_free onCall accept ((answered _).symm.trans ran)
  · intro free
    have cached : (v.topic.perUser.lookup r.asUid).isSome := by
      rw [heeded, Bool.and_eq_true] at heard
      exact heard.2
    obtain ⟨v', ran, counted⟩ := accept_returns onCall found accept cached 0 free
    exact ⟨1, v', (answered _).trans ran, by omega, fun _ => counted⟩

theorem hangUp_handled_iff (heard : heeded v.topic call r) (hangUp : r.event = .hangUp)
    (may : mayHangUp call r = .ok true) : Handled env v call (.note r) ↔ EndsFreely env v call := by
  have ends (cast : Cast) : handleCallNote env cast v r =
      maybeEndCallInProgress env cast v (some r.asUid) r.sess false := by
    rw [handleCallNote_eq onCall, if_pos heard, hangUp]
    rw [may]
    rfl
  exact ends_handled_iff onCall pure (fun fuel => (ends _).trans (bind_pure _).symm)
    fun ended _ => ⟨ended, rfl, .refl _⟩

theorem other_note_handled (goesOn : callStep v call (.note r) = .goesOn) :
    Handled env v call (.note r) := by
  suffices ∃ v', handleCallNote env (broadcastToSessions env 0) v r = .ok v' ∧
      v'.world.store.messages = v.world.store.messages by
    obtain ⟨v', ran, messages⟩ := this
    exact handled_of_same 0 ran messages
  rw [handleCallNote_eq onCall]
  cases heard : heeded v.topic call r with
  | false => exact ⟨v, rfl, rfl⟩
  | true =>
    obtain ⟨party, found, -⟩ := onCall.originator
    rw [callStep, if_pos heard] at goesOn
    rw [if_pos rfl]
    cases event : r.event with
    | ringing =>
      split_ifs
      · exact ⟨v, rfl, rfl⟩
      · rw [found]
        dsimp only
        split_ifs
        · exact ⟨v, rfl, rfl⟩
        · exact ringing_returns onCall found (by rw [event]; nofun)
    | accept =>
      split_ifs with several
      · exact ⟨v, rfl, rfl⟩
      · rw [found]
        dsimp only
        split_ifs with own
        · exact ⟨v, rfl, rfl⟩
        · rw [if_pos ⟨event, (answers_iff found).mpr ⟨not_not.mp several, own⟩⟩] at goesOn
          cases goesOn
    | offer | answer | iceCandidate => exact exchangeMetadata_returns onCall
    | hangUp =>
      obtain ⟨may, answered⟩ := mayHangUp_returns onCall r
      cases may with
      | true =>
        rw [if_neg (by rw [event]; simp), if_pos ⟨event, answered⟩] at goesOn
        cases goesOn
      | false =>
        rw [answered]
        exact ⟨v, rfl, rfl⟩
    | unexpected => exact ⟨v, rfl, rfl⟩

theorem note_handled_iff (r : CallNote) :
    Handled env v call (.note r) ↔ Unstuck env v call (.note r) := by
  unfold Unstuck
  cases step : callStep v call (.note r) with
  | goesOn => exact iff_of_true (other_note_handled onCall step) trivial
  | accepted =>
    simp only [callStep] at step
    split_ifs at step with heard accepts
    exact accept_handled_iff onCall heard accepts.1 accepts.2
  | ends =>
    simp only [callStep] at step
    split_ifs at step with heard accepts hangs
    exact hangUp_handled_iff onCall heard hangs.1 hangs.2

end events

/-- A call event, a leave or the loss of a session is handled properly if and only if no session of
a participant refuses what the event makes the topic broadcast. -/
theorem call_event_handled_iff (env : Env) (v : Server) (call : VideoCall) (paired : Paired v.topic)
    (inCall : InCall v.topic call) (e : TopicEvent) :
    Handled env v call e ↔ Unstuck env v call e := by
  cases e with
  | note r => exact note_handled_iff ⟨paired, inCall⟩ r
  | callTimeout => exact timeout_handled_iff ⟨paired, inCall⟩
  | unregister r authenticated =>
    rw [unregister_handled_iff ⟨paired, inCall⟩ authenticated]
    unfold Unstuck callStep
    dsimp only
    split_ifs with involved <;> simp [involved]

def caller : Session := { sid := "s1", proto := .websock, uid := 1 }

def callee : Session := { sid := "s2", proto := .websock, uid := 2 }

/-- User 1 calls user 2; nobody has answered. -/
def ringing : VideoCall :=
  { parties :=
      (∅ : GoMap String CallParty).insert "s1" { uid := 1, isOriginator := true, sess := caller }
    seq := 1
    content := .null }

def dialogue : Server :=
  { world :=
      { topic :=
          { cat := .p2p
            lastID := 1
            perUser := ((∅ : GoMap Uid PerUserData).insert 1
              { modeWant := AccessMode.modeCP2P, modeGiven := AccessMode.modeCP2P,
                online := 1 }).insert 2
              { modeWant := AccessMode.modeCP2P, modeGiven := AccessMode.modeCP2P, online := 1 }
            sessions := ((∅ : GoMap SessionKey PerSessionData).insert caller.toSessionKey
              { uid := 1 }).insert callee.toSessionKey { uid := 2 }
            currentCall := some ringing }
        store :=
          { seqId := 1
            messages := [{ seqId := 1, sender := 1, head := none, content := .null }] } } }

/-- The callee declines. -/
def decline : CallNote := { sess := callee, asUid := 2, seqId := 1, event := .hangUp }

/-- The session of the caller misses the broadcasts that are `refused`. -/
def deaf (refused : Nat → Bool) : Env := { refuses := fun n s => refused n && s.sid == "s1" }

theorem dialogue_sessions {p : SessionKey → PerSessionData → Prop}
    (first : p caller.toSessionKey { uid := 1 })
    (second : p callee.toSessionKey { uid := 2 }) :
    ∀ s pssd, dialogue.topic.sessions.lookup s = some pssd → p s pssd := by
  intro s pssd attached
  have entry : ⟨s, pssd⟩ ∈ dialogue.topic.sessions.entries := AList.mem_lookup_iff.mp attached
  rcases List.mem_pair.mp entry with same | same <;> cases same
  exacts [second, first]

theorem dialogue_paired : Paired dialogue.topic where
  cat := rfl
  users uid := by
    by_cases first : uid = 1
    · exact ⟨2, by decide, by rw [first]; decide⟩
    · exact ⟨1, by decide, fun same => first same.symm⟩
  user := dialogue_sessions (fun _ => by decide) fun _ => by decide
  plain := dialogue_sessions rfl rfl
  attached := dialogue_sessions rfl rfl

theorem dialogue_inCall : InCall dialogue.topic ringing where
  current := rfl
  originator := ⟨_, rfl, by decide⟩
  cached e involved := by
    rw [List.mem_singleton.mp involved]
    decide

/-- The callee declines while the session of the caller is stuck. If the caller misses one broadcast
the server dereferences nil; if the caller takes none the handler never returns. -/
theorem decline_fails_when_caller_stuck :
    handleTopicEvent (deaf (· == 0)) 2 dialogue (.note decline) = .error (.panic .nilDereference) ∧
      ∀ fuel v', handleTopicEvent (deaf fun _ => true) fuel dialogue (.note decline) ≠ .ok v' := by
  refine ⟨rfl, fun fuel v' returned => ?_⟩
  have free := maybeEndCallInProgress_free ⟨dialogue_paired, dialogue_inCall⟩ returned
  exact free.info ⟨caller.toSessionKey, { uid := 1 }, rfl, by decide, by decide, rfl⟩

/-- With both sessions reading, the call is declined. -/
theorem decline_handled : Handled {} dialogue ringing (.note decline) :=
  (call_event_handled_iff {} dialogue ringing dialogue_paired dialogue_inCall (.note decline)).mpr
    ⟨fun _ ⟨_, _, _, _, _, refused⟩ => Bool.noConfusion refused,
      fun ⟨_, _, _, _, _, refused⟩ => Bool.noConfusion refused⟩

end LastochkaServer.Guarantees.CallTermination
