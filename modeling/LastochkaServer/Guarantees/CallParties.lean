import LastochkaServer.Lib.Run
import LastochkaServer.Source.Topic.CallLine

/-!
# The parties of a call

A call has one or two parties: two users, one of them the caller, each under the id of the session
it talks from (`server/calls.go:222-316`). `refreshCallPartySession` (`server/calls.go:434-463`)
moves a party to whatever session of its user subscribes next. It is meant for a client that has
lost its connection and comes back, but it does not look whether the session of the party is still
attached, nor whether the new session is a party already.

`call_parties_kept`: in every run in which no session takes over from one that is attached, or from
the other party, the parties of a call are sound, and a party that is attached stays bound whoever
subscribes, rings or leaves.

`second_device_takes_over`: a user who opens the chat on a second device loses the call on the first
one.
-/

namespace LastochkaServer.Guarantees.CallParties

open Lib Lib.Run Source

variable {call : VideoCall} {t : Topic} {sess : Session} {r : CallNote} {sid : String}
  {party : CallParty} {e : SessionEvent} {fuel : Nat}

structure Sound (call : VideoCall) : Prop where
  count : call.parties.len = 1 ∨ call.parties.len = 2
  users : ∀ {sid sid' party party'}, call.parties.lookup sid = some party →
    call.parties.lookup sid' = some party' →
    party.uid = party'.uid → sid = sid'
  originator : ∃ sid party, call.parties.lookup sid = some party ∧ party.isOriginator ∧
    ∀ sid' party', call.parties.lookup sid' = some party' → party'.isOriginator → sid' = sid
  keyed : ∀ {sid party}, call.parties.lookup sid = some party → party.sess.sid = sid

/-- The call in progress, if there is one, is sound. -/
def SoundCall (t : Topic) : Prop := ∀ call, t.currentCall = some call → Sound call

theorem SoundCall.congr {t' : Topic} (sound : SoundCall t) (same : t'.currentCall = t.currentCall) :
    SoundCall t' :=
  fun call current => sound call (same ▸ current)

theorem soundCall_none (idle : t.currentCall = none) : SoundCall t := by
  intro call current
  rw [idle] at current
  cases current

/-- A call starts with the caller alone. -/
theorem handleCallInvite_sound (t : Topic) (r : PubRequest) : SoundCall (handleCallInvite t r) := by
  rintro call ⟨⟩
  have only {sid : String} {party : CallParty}
      (listed : ((∅ : GoMap String CallParty).insert r.sess.sid
        { uid := r.asUid, isOriginator := true, sess := r.sess }).lookup sid = some party) :
      sid = r.sess.sid ∧ party = { uid := r.asUid, isOriginator := true, sess := r.sess } := by
    obtain found | ⟨-, missing⟩ := GoMap.lookup_insert_eq_some.mp listed
    · exact found
    · rw [AList.lookup_empty] at missing
      cases missing
  refine ⟨.inl rfl, fun first second _ => ?_,
    ⟨_, _, AList.lookup_insert _, rfl, fun _ _ other _ => (only other).1⟩, fun listed => ?_⟩
  · rw [(only first).1, (only second).1]
  · rw [(only listed).1, (only listed).2]

theorem Sound.join (sound : Sound call) (one : call.parties.len = 1)
    (fresh : call.parties.lookup sid = none)
    (keyed : party.sess.sid = sid) (callee : party.isOriginator = false)
    (others : ∀ sid' party', call.parties.lookup sid' = some party' → party'.uid ≠ party.uid) :
    Sound { call with parties := call.parties.insert sid party } where
  count := by
    right
    rw [GoMap.len_insert_of_none party fresh, one]
  users := by
    intro first second p p' listed listed' same
    obtain ⟨rfl, rfl⟩ | ⟨-, old⟩ := GoMap.lookup_insert_eq_some.mp listed
    · obtain ⟨rfl, -⟩ | ⟨-, old'⟩ := GoMap.lookup_insert_eq_some.mp listed'
      · rfl
      · exact absurd same.symm (others _ _ old')
    · obtain ⟨-, rfl⟩ | ⟨-, old'⟩ := GoMap.lookup_insert_eq_some.mp listed'
      · exact absurd same (others _ _ old)
      · exact sound.users old old' same
  originator := by
    obtain ⟨origin, caller, listed, calls, unique⟩ := sound.originator
    have other : origin ≠ sid := by
      rintro rfl
      rw [fresh] at listed
      cases listed
    refine ⟨origin, caller, (AList.lookup_insert_ne other).trans listed, calls,
      fun sid' party' listed' calls' => ?_⟩
    obtain ⟨-, rfl⟩ | ⟨-, old⟩ := GoMap.lookup_insert_eq_some.mp listed'
    · rw [callee] at calls'
      cases calls'
    · exact unique sid' party' old calls'
  keyed := by
    intro sid' party' listed
    obtain ⟨rfl, rfl⟩ | ⟨-, old⟩ := GoMap.lookup_insert_eq_some.mp listed
    · exact keyed
    · exact sound.keyed old

theorem Sound.move (sound : Sound call) (listed : call.parties.lookup sid = some party)
    (fresh : call.parties.lookup sess.sid = none) :
    Sound { call with
      parties := (call.parties.erase sid).insert sess.sid { party with sess := sess } } := by
  have inserted {sid' : String} {party' : CallParty}
      (found : ((call.parties.erase sid).insert sess.sid { party with sess := sess }).lookup sid' =
        some party') :
      (sid' = sess.sid ∧ party' = { party with sess := sess }) ∨
        (sid' ≠ sid ∧ call.parties.lookup sid' = some party') := by
    obtain new | ⟨-, old⟩ := GoMap.lookup_insert_eq_some.mp found
    · exact .inl new
    · exact .inr (GoMap.lookup_erase_eq_some.mp old)
  have ne : sess.sid ≠ sid := by
    intro same
    rw [same, listed] at fresh
    cases fresh
  refine ⟨?_, ?_, ?_, ?_⟩
  · have erased := GoMap.len_erase_of_some listed
    have absent : (call.parties.erase sid).lookup sess.sid = none := by
      rw [AList.lookup_erase_ne ne, fresh]
    have added : GoMap.len ((call.parties.erase sid).insert sess.sid { party with sess := sess }) =
        call.parties.len := by
      rw [GoMap.len_insert_of_none _ absent, erased]
    rw [added]
    exact sound.count
  · intro first second p p' found found' same
    obtain ⟨rfl, rfl⟩ | ⟨other, old⟩ := inserted found
    · obtain ⟨rfl, -⟩ | ⟨other', old'⟩ := inserted found'
      · rfl
      · exact absurd (sound.users listed old' same).symm other'
    · obtain ⟨rfl, rfl⟩ | ⟨other', old'⟩ := inserted found'
      · exact absurd (sound.users old listed same) other
      · exact sound.users old old' same
  · obtain ⟨origin, caller, called, calls, unique⟩ := sound.originator
    by_cases moved : origin = sid
    · subst moved
      cases called.symm.trans listed
      refine ⟨sess.sid, _, AList.lookup_insert _, calls, fun sid' party' found calls' => ?_⟩
      obtain ⟨rfl, -⟩ | ⟨other, old⟩ := inserted found
      · rfl
      · exact absurd (unique sid' party' old calls') other
    · have kept :
          ((call.parties.erase sid).insert sess.sid { party with sess := sess }).lookup origin =
          some caller := by
        have other : origin ≠ sess.sid := by
          rintro rfl
          rw [fresh] at called
          cases called
        rw [AList.lookup_insert_ne other, AList.lookup_erase_ne moved, called]
      refine ⟨origin, caller, kept, calls, fun sid' party' found calls' => ?_⟩
      obtain ⟨-, rfl⟩ | ⟨other, old⟩ := inserted found
      · exact absurd (unique sid party listed calls') (Ne.symm moved)
      · exact unique sid' party' old calls'
  · intro sid' party' found
    obtain ⟨rfl, rfl⟩ | ⟨-, old⟩ := inserted found
    · rfl
    · exact sound.keyed old

theorem only_party {caller : CallParty} (one : call.parties.len = 1)
    (found : call.originator = some caller)
    (listed : call.parties.lookup sid = some party) : party = caller := by
  have mem := (GoMap.mem_entries_iff call.parties sid party).mpr listed
  obtain ⟨e, entries⟩ := List.length_eq_one_iff.mp one
  rw [entries, List.mem_singleton] at mem
  have origin := List.mem_of_find?_eq_some found
  rw [entries, List.map_singleton, List.mem_singleton] at origin
  rw [origin, ← mem]

theorem Sound.caller (sound : Sound call) : ∃ caller, call.originator = some caller := by
  obtain ⟨sid, party, listed, calls, -⟩ := sound.originator
  have mem := (GoMap.mem_entries_iff call.parties sid party).mpr listed
  refine Option.isSome_iff_exists.mp (List.find?_isSome.mpr ⟨party, ?_, calls⟩)
  exact List.mem_map_of_mem mem

section

variable {env : Env} {cast : Cast} {v v' : Server}

theorem saveMessage_call {r : PubRequest} {res : Except Reply Unit}
    (ran : saveMessage env v r = .ok (v', res)) : v'.topic.currentCall = v.topic.currentCall := by
  obtain ⟨same | counted, -⟩ := saveMessage_frame ran
  · rw [same]
  · rw [counted, v.topic.countMessage_frame]

/-- The call goes on or is over. -/
def Ongoing (call : VideoCall) (t : Topic) : Prop := t.currentCall = none ∨ t.currentCall = some call

theorem Ongoing.congr {t' : Topic} (ongoing : Ongoing call t)
    (same : t'.currentCall = t.currentCall) :
    Ongoing call t' := by
  unfold Ongoing
  rwa [same]

theorem Ongoing.sound (ongoing : Ongoing call t) (sound : Sound call) : SoundCall t := by
  intro call' current
  obtain ended | goesOn := ongoing
  · rw [ended] at current
    cases current
  · cases goesOn.symm.trans current
    exact sound

theorem ongoing_invariant (env : Env) (call : VideoCall) :
    BroadcastInvariant env fun v => Ongoing call v.topic where
  save _ _ _ _ _ ongoing ran := ongoing.congr (saveMessage_call ran)
  sent _ ongoing := ongoing
  emit _ _ ongoing := ongoing
  ended _ _ := .inl rfl
  leave _ _ _ _ ongoing left := ongoing.congr (handleLeaveRequest_silent left).currentCall

theorem sound_invariant (env : Env) : BroadcastInvariant env fun v => SoundCall v.topic where
  save _ _ _ _ _ sound ran := sound.congr (saveMessage_call ran)
  sent _ sound := sound
  emit _ _ sound := sound
  ended _ _ := soundCall_none rfl
  leave _ _ _ _ sound left := sound.congr (handleLeaveRequest_silent left).currentCall

theorem answerCall_sound {caller : CallParty} (sound : Sound call)
    (current : v.topic.currentCall = some call) (one : call.parties.len = 1)
    (found : call.originator = some caller) (otherSession : caller.sess.sid ≠ r.sess.sid)
    (otherUser : caller.uid ≠ r.asUid)
    (ran : answerCall env (broadcastToSessions env fuel) v call caller r = .ok v') :
    SoundCall v'.topic := by
  obtain ⟨name, -, ran⟩ := bind_ok ran
  split at ran
  · obtain ⟨⟨saved, res⟩, done, ran⟩ := bind_ok ran
    have ongoing : Ongoing call saved.topic :=
      saveAndBroadcastMessage_preserves ((ongoing_invariant env call).broadcastToSessions fuel)
        (fun _ _ written => Ongoing.congr (.inr current) (saveMessage_call written)) done
    cases res with
    | error reply =>
      cases ran
      exact ongoing.sound sound
    | ok _ =>
      obtain ⟨call', answered, ran⟩ := bind_ok ran
      obtain ⟨informed, told, ran⟩ := bind_ok ran
      cases ran
      have current' : saved.topic.currentCall = some call' := by
        unfold Topic.ongoingCall at answered
        split at answered <;> cases answered
        assumption
      have same : call' = call := by
        obtain ended | goesOn := ongoing
        · rw [ended] at current'
          cases current'
        · cases goesOn.symm.trans current'
          rfl
      subst same
      have only {sid : String} {party : CallParty}
          (listed : call'.parties.lookup sid = some party) : party = caller :=
        only_party one found listed
      have fresh : call'.parties.lookup r.sess.sid = none := by
        refine Option.eq_none_iff_forall_not_mem.mpr fun party listed => otherSession ?_
        rw [← only listed]
        exact sound.keyed listed
      let callee : CallParty := { uid := r.asUid, isOriginator := false, sess := r.sess }
      have joined : Sound { call' with parties := call'.parties.insert r.sess.sid callee } :=
        sound.join one fresh rfl rfl fun _ _ listed => (only listed).symm ▸ otherUser
      rintro call current
      obtain rfl | ⟨e, rfl⟩ :=
        infoCallSubsOffline_ok (Exec.run_ok.mp told) <;> cases current <;> exact joined
  · cases ran
    exact Ongoing.sound (.inr current) sound

theorem exchangeMetadata_call (ran : exchangeMetadata v call r = .ok v') :
    v'.topic.currentCall = v.topic.currentCall := by
  unfold exchangeMetadata at ran
  split at ran
  · cases ran
    rfl
  split at ran
  · cases ran
    rfl
  · obtain ⟨name, -, ran⟩ := bind_ok ran
    cases ran
    rfl

theorem ringing_call {r : CallNote} (sound : SoundCall v.topic) (rings : r.event = .ringing)
    (ran : handleCallNote env cast v r = .ok v') : v'.topic.currentCall = v.topic.currentCall := by
  unfold handleCallNote at ran
  split at ran
  · cases ran
    rfl
  split at ran
  · cases ran
    rfl
  unfold handleCallEvent at ran
  rw [rings] at ran
  split at ran
  · cases ran
    rfl
  next call current =>
  dsimp only at ran
  split at ran
  · cases ran
    rfl
  split at ran
  · cases ran
    rfl
  obtain ⟨caller, found⟩ := (sound call current).caller
  rw [found] at ran
  dsimp only at ran
  split at ran
  · cases ran
    rfl
  obtain ⟨name, -, ran⟩ := bind_ok ran
  rw [rings] at ran
  cases ran
  rfl

/-- What `handleCallEvent` does when somebody rings or accepts. -/
def ringOrAccept (env : Env) (cast : Cast) (v : Server) (call : VideoCall) (r : CallNote) :
    Handler Server :=
  if call.parties.len ≠ 1 then .ok v
  else
    match call.originator with
    | none => terminateCallInProgress env cast v false
    | some originator =>
      if originator.sess.sid = r.sess.sid ∨ originator.uid = r.asUid then .ok v
      else answerCall env cast v call originator r

theorem handleCallNote_sound (sound : SoundCall v.topic)
    (ran : handleCallNote env (broadcastToSessions env fuel) v r = .ok v') : SoundCall v'.topic := by
  have rule := sound_invariant env
  have keeps := rule.broadcastToSessions fuel
  unfold handleCallNote at ran
  split at ran
  · cases ran
    exact sound
  split at ran
  · cases ran
    exact sound
  unfold handleCallEvent at ran
  split at ran
  · cases ran
    exact sound
  next call current =>
  split at ran
  · cases ran
    exact sound
  have answered (ran : ringOrAccept env (broadcastToSessions env fuel) v call r = .ok v') :
      SoundCall v'.topic := by
    unfold ringOrAccept at ran
    split at ran
    · cases ran
      exact sound
    next one =>
    split at ran
    · exact rule.terminateCallInProgress keeps sound ran
    next caller found =>
    split at ran
    · cases ran
      exact sound
    next other =>
    obtain ⟨otherSession, otherUser⟩ := not_or.mp other
    exact answerCall_sound (sound call current) current (not_not.mp one) found otherSession
      otherUser ran
  split at ran
  · exact answered ran
  · exact answered ran
  · exact sound.congr (exchangeMetadata_call ran)
  · exact sound.congr (exchangeMetadata_call ran)
  · exact sound.congr (exchangeMetadata_call ran)
  · obtain ⟨heeded, -, ran⟩ := bind_ok ran
    split at ran
    · exact rule.maybeEndCallInProgress keeps sound ran
    · cases ran
      exact sound
  · cases ran
    exact sound

end

/-- The session of the party is attached to the topic; a session at another node through that
node. -/
def Attached (t : Topic) (party : CallParty) : Prop :=
  ∃ pssd, t.sessions.lookup party.sess.attached = some pssd ∧
    (party.sess.isProxy → party.uid ∈ pssd.muids)

/-- A session that subscribes is no party of another user, and the party of its user, if it is
another session, is not attached any more. -/
def Allowed (l : Line) : LineEvent → Prop
  | .session _ (.subscribe r _) =>
    ∀ call sid party, l.call = some call → call.parties.lookup sid = some party →
      if sid = r.sess.sid then party.uid = r.asUid else party.uid = r.asUid → ¬ Attached l.topic party
  | _ => True

/-- Either nothing changes, or the party of the user is moved. -/
theorem refreshCallPartySession_cases (t : Topic) (sess : Session) {asUid : Uid}
    (authed : asUid ≠ 0) :
    (refreshCallPartySession t sess asUid).currentCall = t.currentCall ∨
      ∃ call sid party, t.currentCall = some call ∧ call.parties.lookup sid = some party ∧
        party.uid = asUid ∧
        sid ≠ sess.sid ∧ (refreshCallPartySession t sess asUid).currentCall = some { call with
          parties := (call.parties.erase sid).insert sess.sid { party with sess := sess } } := by
  unfold refreshCallPartySession
  rw [if_neg authed]
  cases current : t.currentCall with
  | none => exact .inl current
  | some call =>
    dsimp only
    rw [if_neg authed]
    split
    · exact .inl current
    next sid party found =>
    have listed := (GoMap.mem_entries_iff call.parties sid party).mp (List.mem_of_find?_eq_some found)
    have chosen := List.find?_some found
    simp only [Bool.and_eq_true, beq_iff_eq, bne_iff_ne, ne_eq] at chosen
    exact .inr ⟨call, sid, party, rfl, listed, chosen.1, chosen.2, rfl⟩

section

variable {cfg : Config} {env : Env} {fail : Faults} {l l' : Line} {r : SubRequest}

theorem register_cases (cfg : Config) (fail : Faults) (l : Line) (authed : r.asUid ≠ 0) :
    (l.register cfg fail r).call = l.call ∨
      ∃ call sid party, l.call = some call ∧ call.parties.lookup sid = some party ∧
        party.uid = r.asUid ∧
        sid ≠ r.sess.sid ∧ (l.register cfg fail r).call = some { call with
          parties := (call.parties.erase sid).insert r.sess.sid { party with sess := r.sess } } := by
  have kept : (registerSession cfg fail l.service r).1.world.topic.currentCall = l.call :=
    (congrArg Fixture.currentCall (registerSession_fixture cfg fail l.service r) :)
  unfold Line.register
  dsimp only
  split_ifs
  · have cases := refreshCallPartySession_cases (registerSession cfg fail l.service r).1.world.topic
      r.sess authed
    rw [kept] at cases
    exact cases
  · exact .inl kept

theorem own_sid (v : Service) (sess : Session) : (v.own sess).sid = sess.sid := by
  unfold Service.own
  split_ifs <;> rfl

variable {authed : r.asUid ≠ 0}

/-- The session of a permitted subscription takes no party over but that of its own user. -/
theorem subscriber_fresh
    (allowed : Allowed l (.session fail (.subscribe r authed))) (sound : Sound call)
    (current : l.call = some call) (listed : call.parties.lookup sid = some party)
    (own : party.uid = r.asUid) (other : sid ≠ r.sess.sid) :
    call.parties.lookup r.sess.sid = none := by
  refine Option.eq_none_iff_forall_not_mem.mpr fun party' listed' => other ?_
  have same := allowed call r.sess.sid party' current listed'
  rw [if_pos rfl] at same
  exact sound.users listed listed' (own.trans same.symm)

theorem unregister_call {r : LeaveRequest}
    (ran : l.unregister env (broadcastToSessions env fuel) fail r = .ok l') :
    ∃ v, endCallOf env (broadcastToSessions env fuel) l.server r.sess.toSessionKey = .ok v ∧
      l'.call = v.topic.currentCall := by
  obtain ⟨v, ended, ran⟩ := bind_ok ran
  cases ran
  refine ⟨v, ended, ?_⟩
  exact (congrArg Fixture.currentCall (leaveTopic_fixture fail (l.setServer v).service r) :)

theorem attend_sound (sound : SoundCall l.topic)
    (ran : l.attend cfg env (broadcastToSessions env fuel) fail e = .ok l') : SoundCall l'.topic := by
  have rule := sound_invariant env
  unfold Line.attend at ran
  split at ran
  · cases ran
    exact sound.congr (congrArg Fixture.currentCall (attend_fixture cfg fail l.service e) :)
  · obtain ⟨v, ended, same⟩ := unregister_call ran
    have sound' : SoundCall l.server.topic := sound
    exact SoundCall.congr (rule.endCallOf (rule.broadcastToSessions fuel) sound' ended) same

theorem register_sound (same : sess.sid = r.sess.sid)
    (sound : SoundCall l.topic) (allowed : Allowed l (.session fail (.subscribe r authed))) :
    SoundCall (l.register cfg fail { r with sess := sess }).topic := by
  obtain kept | ⟨call, sid, party, current, listed, own, other, moved⟩ :=
    register_cases cfg fail l (r := { r with sess := sess }) authed
  · exact sound.congr kept
  · rw [same] at other
    have fresh := subscriber_fresh allowed (sound call current) current listed own other
    intro call' current'
    cases moved.symm.trans current'
    exact (sound call current).move listed (same ▸ fresh)

theorem lineStep_sound {e : LineEvent} (sound : SoundCall l.topic) (allowed : Allowed l e)
    (ran : lineStep cfg env fuel l e = .ok l') : SoundCall l'.topic := by
  have rule := sound_invariant env
  have sound' : SoundCall l.server.topic := sound
  cases e with
  | publish r =>
    obtain ⟨⟨v, reply⟩, handled, rfl⟩ := map_ok ran
    refine rule.handlePubBroadcast (fun _ _ saved => sound'.congr (saveMessage_call saved)) ?_
      (fun v _ => ?_) sound'
      handled
    · intro uid seq op emoji reacted stored
      obtain ⟨reactions, rfl⟩ := storeReaction_frame stored
      exact sound
    · exact handleCallInvite_sound v.topic r
  | note r =>
    obtain ⟨v, handled, rfl⟩ := map_ok ran
    exact handleCallNote_sound sound' handled
  | callTimeout =>
    obtain ⟨v, handled, rfl⟩ := map_ok ran
    exact rule.terminateCallInProgress (rule.broadcastToSessions fuel) sound' handled
  | session fail e =>
    cases e with
    | subscribe r authed =>
      cases ran
      split_ifs
      · exact sound
      · exact register_sound (own_sid l.service r.sess) sound allowed
    | leave | setSub | delSub | lost | dropped | foreground | remoteForeground | detached =>
      unfold lineStep at ran
      exact attend_sound sound ran

/-- A session subscribes or rings, or one that has no part in the call leaves. -/
def Aside (call : VideoCall) : LineEvent → Prop
  | .session _ (.subscribe _ _) => True
  | .note r => r.event = .ringing
  | .session _ (.leave sess _ _ _ _) => call.involves sess.toSessionKey = false
  | .session _ (.lost s) | .session _ (.dropped s) => call.involves s = false
  | _ => False

theorem own_key (v : Service) (sess : Session) : (v.own sess).toSessionKey = sess.toSessionKey := by
  unfold Service.own
  split_ifs <;> rfl

theorem keyed_key {s : SessionKey} {background : Bool}
    (keyed : Service.keyed s background = some sess) :
    sess.toSessionKey = s := by
  unfold Service.keyed at keyed
  split_ifs at keyed
  cases keyed
  rfl

theorem leaving_involves {v : Service} {r : LeaveRequest} (aside : Aside call (.session fail e))
    (leaves : e.leaving v = some r) : call.involves r.sess.toSessionKey = false := by
  cases e with
  | leave sess asUid original unsub authed =>
    simp only [SessionEvent.leaving] at leaves
    split_ifs at leaves
    cases leaves
    rw [own_key]
    exact aside
  | lost s =>
    obtain ⟨sess, keyed, leaves⟩ := Option.bind_eq_some_iff.mp leaves
    split_ifs at leaves
    cases leaves
    rw [keyed_key keyed]
    exact aside
  | dropped s =>
    obtain ⟨sess, keyed, rfl⟩ := Option.map_eq_some_iff.mp leaves
    rw [keyed_key keyed]
    exact aside
  | subscribe | setSub | delSub | foreground | remoteForeground | detached => cases leaves

theorem attend_aside (current : l.call = some call) (aside : Aside call (.session fail e))
    (ran : l.attend cfg env (broadcastToSessions env fuel) fail e = .ok l') :
    l'.call = some call := by
  unfold Line.attend at ran
  split at ran
  · cases ran
    exact (congrArg Fixture.currentCall (attend_fixture cfg fail l.service e) :).trans current
  next r leaves =>
  obtain ⟨v, ended, same⟩ := unregister_call ran
  have current' : l.server.topic.currentCall = some call := current
  unfold endCallOf at ended
  rw [current'] at ended
  dsimp only at ended
  rw [leaving_involves aside leaves] at ended
  cases ended
  exact same.trans current

theorem register_aside (same : sess.sid = r.sess.sid)
    (sound : Sound call) (allowed : Allowed l (.session fail (.subscribe r authed)))
    (current : l.call = some call) (listed : call.parties.lookup sid = some party)
    (attached : Attached l.topic party) :
    ∃ call', (l.register cfg fail { r with sess := sess }).call = some call' ∧
      call'.parties.lookup sid = some party := by
  obtain kept | ⟨call', sid', party', current', listed', own, other, moved⟩ :=
    register_cases cfg fail l (r := { r with sess := sess }) authed
  · exact ⟨call, kept.trans current, listed⟩
  · cases current.symm.trans current'
    have other : sid' ≠ r.sess.sid := same ▸ other
    have fresh := subscriber_fresh allowed sound current listed' own other
    have gone := allowed call sid' party' current listed'
    rw [if_neg other] at gone
    refine ⟨_, moved, ?_⟩
    have unmoved : sid ≠ sid' := by
      rintro rfl
      cases listed.symm.trans listed'
      exact gone own attached
    have elsewhere : sid ≠ sess.sid := by
      rintro rfl
      rw [same, fresh] at listed
      cases listed
    rw [AList.lookup_insert_ne elsewhere, AList.lookup_erase_ne unmoved, listed]

/-- A party that is attached stays bound to the call. -/
theorem aside_keeps {e : LineEvent} (sound : SoundCall l.topic) (current : l.call = some call)
    (listed : call.parties.lookup sid = some party) (attached : Attached l.topic party)
    (aside : Aside call e) (allowed : Allowed l e) (ran : lineStep cfg env fuel l e = .ok l') :
    ∃ call', l'.call = some call' ∧ call'.parties.lookup sid = some party := by
  cases e with
  | publish | callTimeout => exact absurd aside id
  | note r =>
    obtain ⟨v, handled, rfl⟩ := map_ok ran
    exact ⟨call, (ringing_call (v := l.server) sound aside handled).trans current, listed⟩
  | session fail e =>
    cases e with
    | subscribe r authed =>
      cases ran
      split_ifs
      · exact ⟨call, current, listed⟩
      · exact register_aside (own_sid l.service r.sess) (sound call current) allowed current
          listed attached
    | leave | setSub | delSub | lost | dropped | foreground | remoteForeground | detached =>
      unfold lineStep at ran
      exact ⟨call, attend_aside current aside ran, listed⟩

end

def step (cfg : Config) (env : Env) (fuel : Nat) (s : Handler Line) (e : LineEvent) :
    Handler Line := do
  lineStep cfg env fuel (← s) e

/-- Every subscription of the run is permitted. -/
def ok (s : Handler Line) (e : LineEvent) : Prop := ∀ l, s = .ok l → Allowed l e

/-- In every state of a run the parties of a call are sound, and whoever subscribes, rings or leaves
without a part in the call takes no party over that is attached, and does not end the call. -/
theorem call_parties_kept (cfg : Config) (env : Env) (fuel : Nat) (start : Line)
    (idle : start.call = none)
    (events : List LineEvent) (allowed : Guarded (step cfg env fuel) ok (.ok start) events) (l : Line)
    (reached : run (step cfg env fuel) (.ok start) events = .ok l) :
    (∀ call, l.call = some call → Sound call) ∧
      ∀ call sid party e l', l.call = some call → call.parties.lookup sid = some party →
        Attached l.topic party →
        Aside call e → Allowed l e → lineStep cfg env fuel l e = .ok l' →
          ∃ call', l'.call = some call' ∧ call'.parties.lookup sid = some party := by
  have preserved : ∀ (s : Handler Line) (e : LineEvent), (∀ l, s = .ok l → SoundCall l.topic) →
      ok s e →
      ∀ l, step cfg env fuel s e = .ok l → SoundCall l.topic := by
    intro s e sound allowed l' returned
    obtain ⟨l, rfl, returned⟩ := bind_ok returned
    exact lineStep_sound (sound l rfl) (allowed l rfl) returned
  have first : ∀ l, (.ok start : Handler Line) = .ok l → SoundCall l.topic := by
    rintro l ⟨⟩
    exact soundCall_none idle
  have sound : SoundCall l.topic := run_invariant preserved first allowed l reached
  exact ⟨sound, fun call sid party e l' => aside_keeps sound⟩

/-- User 1 has a phone and a tablet, user 2 a desktop. -/
def device (sid : String) (uid : Uid) : Session := { sid := sid, proto := .websock, uid := uid }

/-- A topic of two users, with the phone and the desktop attached. -/
def dialogue : Line :=
  let member (topicName : String) : PerUserData :=
    { modeWant := AccessMode.modeCP2P, modeGiven := AccessMode.modeCP2P, topicName := topicName,
        online := 1 }
  let record (uid : Uid) : PerSessionData := { uid := uid }
  { service :=
      { world := { topic :=
          { cat := .p2p
            perUser := ((∅ : GoMap Uid PerUserData).insert 1 (member "usr2")).insert 2 (member "usr1")
            sessions :=
              ((∅ : GoMap SessionKey PerSessionData).insert (device "phone" 1).toSessionKey
                (record 1)).insert
              (device "desktop" 2).toSessionKey (record 2) } }
        linked := fun s => s.sid == "phone" || s.sid == "desktop" } }

/-- The phone calls the desktop, which accepts. -/
def established : List LineEvent :=
  [.publish
    { sess := device "phone" 1, asUid := 1,
      head := some ((∅ : Head).insert "webrtc" (.str "started")) },
    .note { sess := device "desktop" 2, asUid := 2, seqId := 1, event := .accept }]

def opensTablet : LineEvent :=
  .session (fun _ => false)
    (.subscribe { sess := device "tablet" 1, asUid := 1, asLvl := .auth } (by decide))

def ringsTablet : LineEvent :=
  .note { sess := device "tablet" 1, asUid := 1, seqId := 1, event := .ringing }

theorem call_parties_kept_ringing :
    ∃ l call party l', run (step {} {} 1) (.ok dialogue) established = .ok l ∧
    l.call = some call ∧ Sound call ∧ call.parties.lookup "phone" = some party ∧
      lineStep {} {} 1 l ringsTablet = .ok l' ∧ ∃ call', l'.call = some call' ∧
      call'.parties.lookup "phone" = some party := by
  have allowed : Guarded (step {} {} 1) ok (.ok dialogue) established :=
    ⟨fun _ _ => trivial, fun _ _ => trivial, trivial⟩
  have kept := fun l => call_parties_kept {} {} 1 dialogue rfl established allowed l
  refine ⟨_, _, _, _, rfl, rfl, (kept _ rfl).1 _ rfl, rfl, rfl, ?_⟩
  exact (kept _ rfl).2 _ _ _ ringsTablet _ rfl rfl ⟨_, rfl, nofun⟩ rfl trivial rfl

/-- User 1 opens the chat on the tablet, and the phone loses the call although it is attached all
the time. -/
theorem second_device_takes_over :
    ∃ l call party l' call', run (step {} {} 1) (.ok dialogue) established = .ok l ∧
    l.call = some call ∧ call.parties.lookup "phone" = some party ∧ Attached l.topic party ∧
      Aside call opensTablet ∧
      lineStep {} {} 1 l opensTablet = .ok l' ∧ Attached l'.topic party ∧ l'.call = some call' ∧
        call'.parties.lookup "phone" = none :=
  ⟨_, _, _, _, _, rfl, rfl, rfl, ⟨_, rfl, nofun⟩, trivial, rfl, ⟨_, rfl, nofun⟩, rfl, rfl⟩

end LastochkaServer.Guarantees.CallParties
