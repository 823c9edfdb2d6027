import LastochkaServer.Source.Topic.Init

/-!
# Subscription requests

The requests that change who is subscribed to a topic and with which modes, as one step of the
topic's goroutine: `handleSubscription`, `handleMeta` and `handleLeaveRequest` of
`server/topic.go:462-490, 663-700, 726-760`. `subscriptionReply` attaches the session after
`thisUserSub`, which changes no mode and is left out here.
-/

namespace LastochkaServer.Source

open Lib AccessMode

variable {cfg : Config} {fail : Faults} {w : World} {r : Request}

inductive Request
  /-- `{sub}` -/
  | sub (r : SubRequest)
  /-- `{set sub}`, for oneself or for another user -/
  | set (r : SetSubRequest)
  /-- `{del what=sub}` -/
  | del (sess : Session) (asUid : Uid) (original : Addressing) (user : Uid)
  /-- `{leave unsub=true}` -/
  | unsub (sess : Session) (asUid : Uid) (original : Addressing)

/-- The user who makes the request. -/
def Request.actor : Request → Uid
  | .sub r => r.asUid
  | .set r => r.asUid
  | .del _ asUid _ _ => asUid
  | .unsub _ asUid _ => asUid

def SetSubRequest.target (r : SetSubRequest) : Uid := r.user.getD r.asUid

def SetSubRequest.toSub (r : SetSubRequest) : SubRequest :=
  { sess := r.sess, asUid := r.asUid, asLvl := r.asLvl, asChan := r.asChan, want := r.mode }

def SetSubRequest.toGrant (r : SetSubRequest) : GrantRequest :=
  { sess := r.sess, asUid := r.asUid, target := r.target, asChan := r.asChan, mode := r.mode }

/-- A channel name is refused where the topic is not a channel. -/
def misaddressed (w : World) (asChan : Bool) : Bool := asChan && !w.topic.isChan

/-- Handle a request; `fail` says which store calls fail. -/
def handle (cfg : Config) (fail : Faults) (w : World) : Request → Exec World
  | .sub r =>
    if misaddressed w r.asChan then .ok (w.emit (.queueOut r.sess.sid .errNotFound))
    else (·.1) <$> thisUserSub cfg fail w r
  | .set r =>
    if misaddressed w r.asChan then .ok (w.emit (.queueOut r.sess.sid .errNotFound))
    else (·.1) <$> replySetSub cfg fail w r
  | .del sess asUid original user => (·.1) <$> replyDelSub fail w sess asUid original user
  | .unsub sess asUid original => (·.1) <$> replyLeaveUnsub fail w sess asUid original

/-- The state after a request. A panic stops the server, so nothing follows it. -/
def serve (cfg : Config) (fail : Faults) (w : World) (r : Request) : World :=
  match handle cfg fail w r with
  | .ok w' => w'
  | .error _ => w

/-- What a request may do to the access list of a group topic. -/
inductive Answered (fail : Faults) (a : Acl) : Request → Acl → Prop
  | kept (r : Request) : Answered fail a r a
  | sub (r : SubRequest) (a' : Acl) (change : SelfSub fail a r a') : Answered fail a (.sub r) a'
  | setSelf (r : SetSubRequest) (a' : Acl) (own : r.target = r.asUid)
      (change : SelfSub fail a r.toSub a') : Answered fail a (.set r) a'
  | setOther (r : SetSubRequest) (a' : Acl) (other : r.target ≠ r.asUid)
      (change : Granted a r.toGrant a') : Answered fail a (.set r) a'
  | removed (sess : Session) (asUid : Uid) (original : Addressing) (user : Uid) (g : Grant)
      (cached : a.grants user = some g) (plain : g.mode.isOwner = false) (other : user ≠ asUid)
      (admin : a.Admin asUid) :
      Answered fail a (.del sess asUid original user) ((a.deactivate user).drop user)
  | left (sess : Session) (asUid : Uid) (original : Addressing) (other : a.owner ≠ asUid)
      (subscriber : ((a.grants asUid).getD {}).reader = false) :
      Answered fail a (.unsub sess asUid original) ((a.deactivate asUid).drop asUid)
  | readerLeft (sess : Session) (asUid : Uid) (original : Addressing) (other : a.owner ≠ asUid)
      (reader : ((a.grants asUid).getD {}).reader) :
      Answered fail a (.unsub sess asUid original) (a.drop asUid)

theorem replySetSub_ok {w' : World} {r : SetSubRequest} {res : Except String Unit}
    (ran : replySetSub cfg fail w r = .ok (w', res)) :
    w'.acl = w.acl ∨ ∃ w'' result', setSub cfg fail w r = .ok (w'', result') ∧ w'.acl = w''.acl := by
  unfold replySetSub at ran
  split at ran
  · cases ran
    exact .inl rfl
  · obtain ⟨⟨w'', result'⟩, done, ran⟩ := bind_ok ran
    refine .inr ⟨w'', result', done, ?_⟩
    cases result' with
    | error text =>
      cases ran
      rfl
    | ok modeChanged =>
      cases modeChanged <;> cases ran <;> rfl

theorem refuse_out (w : World) (sid : String) (r : Rejection) :
    ∃ out, w.refuse sid r = { w with out := out } := by
  unfold World.refuse
  split
  · exact ⟨_, rfl⟩
  · exact ⟨w.out, rfl⟩

theorem replySetSub_denied (fail : Faults) {r : SetSubRequest} (other : r.target ≠ r.asUid)
    (denied : (grantedMode cfg w.topic r.toGrant).isOk = false) :
    ∃ out res, replySetSub cfg fail w r = .ok ({ w with out := out }, res) := by
  unfold replySetSub
  split_ifs
  · exact ⟨_, _, rfl⟩
  cases checked : grantedMode cfg w.topic r.toGrant with
  | ok mode =>
    rw [checked] at denied
    cases denied
  | error rejection =>
    obtain ⟨out, refused⟩ := refuse_out w r.sess.sid rejection
    have grant : anotherUserSub cfg fail w r.toGrant =
        .ok ({ w with out := out }, .error rejection.err) := by
      rw [← refused]
      unfold anotherUserSub
      rw [checked]
      rfl
    have ran : setSub cfg fail w r = .ok ({ w with out := out }, .error rejection.err) :=
      (if_neg other).trans grant
    rw [ran]
    exact ⟨_, _, rfl⟩

theorem serve_denied {fail : Faults} {r : SetSubRequest} (other : r.target ≠ r.asUid)
    (denied : (grantedMode cfg w.topic r.toGrant).isOk = false) :
    (serve cfg fail w (.set r)).acl = w.acl := by
  obtain ⟨out, res, ran⟩ := replySetSub_denied fail other denied
  simp only [serve, handle, ran]
  split_ifs <;> rfl

theorem handle_acl {w' : World} (group : w.topic.cat = .grp)
    (alive : ∀ u g, w.acl.grants u = some g → g.deleted = false)
    (ran : handle cfg fail w r = .ok w') : Answered fail w.acl r w'.acl := by
  cases r with
  | sub r =>
    simp only [handle] at ran
    split at ran
    · cases ran
      exact .kept _
    · obtain ⟨⟨w'', res⟩, ran, rfl⟩ := map_ok ran
      exact .sub r _ (thisUserSub_acl group (alive _) ran)
  | set r =>
    simp only [handle] at ran
    split at ran
    · cases ran
      exact .kept _
    · obtain ⟨⟨w'', res⟩, ran, rfl⟩ := map_ok ran
      rcases replySetSub_ok ran with same | ⟨w₁, result', done, view⟩
      · rw [same]
        exact .kept _
      · rw [view]
        unfold setSub at done
        dsimp only at done
        split at done
        · next own => exact .setSelf r _ own (thisUserSub_acl group (alive _) done)
        · next other => exact .setOther r _ other (anotherUserSub_acl group (alive _) done)
  | del sess asUid original user =>
    obtain ⟨⟨w'', res⟩, ran, rfl⟩ := map_ok ran
    rcases replyDelSub_acl group ran with same | ⟨g, cached, plain, other, admin, view⟩
    · rw [same]
      exact .kept _
    · rw [view]
      exact .removed sess asUid original user g cached plain other admin
  | unsub sess asUid original =>
    obtain ⟨⟨w'', res⟩, ran, rfl⟩ := map_ok ran
    rcases replyLeaveUnsub_acl group ran with same | ⟨other, view⟩
    · rw [same]
      exact .kept _
    · split at view
      · next reader =>
        rw [view]
        exact .readerLeft sess asUid original other reader
      · next subscriber =>
        rw [view]
        exact .left sess asUid original other (Bool.not_eq_true _ ▸ subscriber)

theorem serve_acl (group : w.topic.cat = .grp)
    (alive : ∀ u g, w.acl.grants u = some g → g.deleted = false) :
    Answered fail w.acl r (serve cfg fail w r).acl := by
  unfold serve
  split
  · next w' ran => exact handle_acl group alive ran
  · exact .kept _

end LastochkaServer.Source
