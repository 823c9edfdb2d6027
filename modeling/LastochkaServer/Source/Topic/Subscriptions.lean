import LastochkaServer.Source.Topic.Sessions

/-!
# Subscriptions

`thisUserSub`, `anotherUserSub`, `replySetSub`, `replyDelSub` and `replyLeaveUnsub` of
`server/topic.go:1492-2094, 2767-2810, 3392-3561`: a user subscribes or changes the mode wanted, an
approver invites or changes the mode given, and subscriptions are deleted.

The functions are cut where the source switches between computing the new modes and storing them.
Presence notifications other than `notifySubChange`, push notifications and plug-in calls are left
out: they read the state and do not change it.
-/

namespace LastochkaServer.Source

open Lib AccessMode

/-- Why a request is refused: the reply, if one is sent, and the error. -/
structure Rejection where
  reply : Option Reply
  err : String
  deriving DecidableEq

/-- A store call has failed; `reply` is what the source answers, if anything. -/
def storeFailure (reply : Option Reply) : Rejection := ⟨reply, "store failure"⟩

def World.refuse (w : World) (sid : String) (r : Rejection) : World :=
  match r.reply with
  | some reply => w.emit (.queueOut sid reply)
  | none => w

structure MsgAccessMode where
  want : String
  given : String
  mode : String
  deriving DecidableEq

def MsgAccessMode.ofPud (pud : PerUserData) : MsgAccessMode :=
  { want := pud.modeWant.string, given := pud.modeGiven.string, mode := pud.mode.string }

def Topic.p2pOtherUser (t : Topic) (uid : Uid) : Exec Uid :=
  match t.perUser.keys.find? (· ≠ uid) with
  | some other => if t.cat = .p2p then .ok other else .error .notValidP2PTopic
  | none => .error .notValidP2PTopic

/-- `notifySubChange`, of which only the look-up of the other user can fail. -/
def notifySubChange (w : World) (uid actor : Uid) (isChan : Bool)
    (oldWant oldGiven newWant newGiven : AccessMode) (skip : String) : Exec World := do
  let unsub := newWant = modeUnset ∨ newGiven = modeUnset
  let muted := !(newWant &&& newGiven).isPresencer && (oldWant &&& oldGiven).isPresencer
  if w.topic.cat = .p2p ∧ (unsub ∨ muted) then
    let _ ← w.topic.p2pOtherUser uid
  pure (w.emit (.notifySubChange uid actor isChan oldWant oldGiven newWant newGiven skip))

/-- The change of the unread counter when the read permission comes or goes. -/
def updateUnread (w : World) (uid : Uid) (oldMode : AccessMode) (pud : PerUserData) : World :=
  if oldMode.isReader ∧ !pud.mode.isReader then
    w.emit (.usersUpdateUnread uid (pud.readID - w.topic.lastID))
  else if !oldMode.isReader ∧ pud.mode.isReader then
    w.emit (.usersUpdateUnread uid (w.topic.lastID - pud.readID))
  else w

/-- The arguments of `thisUserSub` and what it reads of the packet. -/
structure SubRequest where
  sess : Session
  asUid : Uid
  asLvl : AuthLevel
  asChan : Bool := false
  want : String := ""
  privateData : Value := none
  /-- `pkt.Sub != nil && pkt.Sub.Newsub` -/
  newsub : Bool := false

/-- The requested mode; `modeUnset` when the request names none. -/
def requestedMode (want : String) : Except String AccessMode :=
  if want ≠ "" then unmarshalText modeUnset want else .ok modeUnset

/-- What the branch for a new subscription computes before it is stored. -/
structure NewSub where
  userData : PerUserData
  oldWant : AccessMode := modeNone
  oldGiven : AccessMode := modeNone
  /-- The row found in the store. -/
  sub : Option Subscription := none

def newP2PSub (cfg : Config) (modeWant : AccessMode) (userData : PerUserData) : NewSub :=
  let want := if modeWant ≠ modeUnset then modeWant else userData.modeWant
  { userData := { userData with modeWant := (want &&& cfg.typesModeCP2P) ||| modeApprove } }

def newSysSub (asLvl : AuthLevel) (modeWant : AccessMode) (userData : PerUserData) :
    Except Rejection NewSub :=
  if asLvl ≠ .root then
    .error ⟨some .errPermissionDenied, "subscription to 'sys' topic requires root access level"⟩
  else
    let want :=
      if modeWant ≠ modeUnset then (modeWant &&& modeCSys) ||| modeWrite ||| modeJoin else modeCSys
    .ok { userData := { userData with modeWant := want, modeGiven := modeCSys } }

/-- A channel reader. The given mode is fixed. -/
def newChannelSub (fail : Faults) (store : Store) (asUid : Uid) (modeWant : AccessMode)
    (userData : PerUserData) : Except Rejection NewSub :=
  if fail .subsGet then .error (storeFailure (some .errUnknown))
  else
    let sub := store.getSub .channel asUid false
    let oldWant := (sub.map (·.modeWant)).getD modeCChnReader
    let want :=
      if modeWant ≠ modeUnset then (modeWant &&& modeCChnReader) ||| modeRead ||| modeJoin
      else oldWant
    .ok
      { userData := { userData with isChan := true, modeGiven := modeCChnReader, modeWant := want }
        oldWant := oldWant
        oldGiven := modeCChnReader
        sub := sub }

/-- A mode, or the default one for the user's level where none is set. -/
def orDefault (cfg : Config) (t : Topic) (lvl : AuthLevel) (mode : AccessMode) : Exec AccessMode :=
  if mode = modeUnset then t.accessFor cfg lvl else .ok mode

/-- All other topics. A mode given earlier is restored, so that a blocked user does not get rid of
the block by unsubscribing. -/
def newOtherSub (cfg : Config) (fail : Faults) (w : World) (r : SubRequest) (modeWant : AccessMode)
    (cached : Option PerUserData) : Exec (Except Rejection NewSub) := do
  if cached.isNone ∧ fail .subsGet then return .error (storeFailure (some .errUnknown))
  let sub := if cached.isSome then none else w.store.getSub .topic r.asUid true
  let userData := cached.getD {}
  let given :=
    if cached.isSome then userData.modeGiven else (sub.map (·.modeGiven)).getD modeUnset
  let modeGiven ← orDefault cfg w.topic r.asLvl given
  let modeWant ← orDefault cfg w.topic r.asLvl modeWant
  return .ok
    { userData := { userData with modeGiven := modeGiven, modeWant := modeWant }, sub := sub }

/-- The modes of a new subscription. -/
def newSubModes (cfg : Config) (fail : Faults) (w : World) (r : SubRequest) (modeWant : AccessMode)
    (cached : Option PerUserData) : Exec (Except Rejection NewSub) :=
  if w.topic.cat = .p2p then .ok (.ok (newP2PSub cfg modeWant (cached.getD {})))
  else if w.topic.cat = .sys then .ok (newSysSub r.asLvl modeWant (cached.getD {}))
  else if r.asChan then .ok (newChannelSub fail w.store r.asUid modeWant (cached.getD {}))
  else newOtherSub cfg fail w r modeWant cached

/-- The data of a new subscription, with the checks of the number of subscribers and of the `J`
permission given. -/
def newSubData (cfg : Config) (fail : Faults) (w : World) (r : SubRequest) (modeWant : AccessMode)
    (cached : Option PerUserData) : Exec (Except Rejection NewSub) := do
  if w.topic.cat = .grp ∧ !r.asChan ∧ w.topic.subsCount ≥ cfg.maxSubscriberCount then
    return .error ⟨some .errPolicy, "max subscription count exceeded"⟩
  match ← newSubModes cfg fail w r modeWant cached with
  | .error rejection => return .error rejection
  | .ok n =>
    if !n.userData.modeGiven.isJoiner then
      return .error ⟨some .errPermissionDenied, "subscription rejected due to permissions"⟩
    let userData :=
      if n.userData.deleted then
        { n.userData with deleted := false, delID := 0, readID := 0, recvID := 0 }
      else n.userData
    let privateData := if isNullValue r.privateData then none else r.privateData
    return .ok { n with userData := { userData with privateData := privateData } }

/-- The name under which the subscription is stored. -/
def SubRequest.tname (r : SubRequest) : Addressing :=
  if r.asChan then .channel else .topic

/-- Add the subscription to the store, if missing, or save a reader's changed mode. -/
def saveNewSub (fail : Faults) (w : World) (r : SubRequest) (n : NewSub) : Except Rejection World :=
  let missing := n.sub.isNone || (n.sub.map (·.deletedAt)).getD false
  if missing then
    if fail .subsCreate then .error (storeFailure (some .errUnknown))
    else
      let store := w.store.createSub r.tname r.asUid n.userData.modeWant n.userData.modeGiven
        n.userData.privateData
      .ok { w with store := store }
  else if r.asChan ∧ n.userData.modeWant ≠ n.oldWant then
    if fail .subsUpdate then .error (storeFailure (some .errUnknown))
    else
      let store := w.store.updateSub r.tname r.asUid fun sub =>
        { sub with modeWant := n.userData.modeWant }
      .ok ({ w with store := store }.emit
        (.channelSubUnsub r.asUid n.userData.modeWant.isPresencer))
  else .ok w

/-- The modes after a request by a user who is already subscribed, and whether the ownership
changes hands. -/
def updatedSubData (cfg : Config) (t : Topic) (r : SubRequest) (modeWant : AccessMode)
    (userData : PerUserData) : Exec (Except Rejection (PerUserData × Bool)) := do
  if !userData.isChan ∧ r.asChan then
    return .error ⟨some .infoUseOther, "not found"⟩
  if modeWant = modeUnset then
    -- a user who has banned the topic and comes back gets no less than the default
    if userData.modeWant.isJoiner then return .ok (userData, false)
    let access ← t.accessFor cfg r.asLvl
    return .ok ({ userData with modeWant := userData.modeGiven ||| access }, false)
  if t.owner = r.asUid ∧ (!modeWant.isOwner ∨ !modeWant.isJoiner) then
    return .error ⟨some .errPermissionDenied, "cannot unset ownership or self-ban the owner"⟩
  if !userData.modeGiven.isOwner ∧ modeWant.isOwner then
    return .error ⟨some .errPermissionDenied, "non-owner cannot request ownership transfer"⟩
  let ownerChange := userData.modeGiven.isOwner && modeWant.isOwner && !userData.modeWant.isOwner
  let modeGiven :=
    if userData.modeGiven.isOwner then
      if modeWant.isOwner ∧ !userData.modeGiven.betterEqual modeWant then
        userData.modeGiven ||| modeWant
      else userData.modeGiven
    else if t.cat = .grp ∧ userData.modeGiven.isAdmin ∧ modeWant.isAdmin then
      -- an approver may take any permission but ownership and hard deletion
      if !userData.modeGiven.betterEqual (modeWant &&& ~~~modeDelete) then
        userData.modeGiven ||| (modeWant &&& ~~~modeDelete)
      else userData.modeGiven
    else userData.modeGiven
  let modeWant :=
    match t.cat with
    | .p2p => (modeWant &&& cfg.typesModeCP2P) ||| modeApprove
    | .sys => modeWant &&& ((modeWant &&& modeCSys) ||| modeWrite)
    | _ => modeWant
  return .ok ({ userData with modeGiven := modeGiven, modeWant := modeWant }, ownerChange)

/-- The private value after the request. -/
def updatedPrivate (r : SubRequest) (userData : PerUserData) : PerUserData :=
  if isNullValue r.privateData then { userData with privateData := none }
  else if r.privateData.isSome then { userData with privateData := r.privateData }
  else userData

/-- Save what has changed of an existing subscription. -/
def saveUpdatedSub (fail : Faults) (w : World) (r : SubRequest) (old new : PerUserData) :
    Except Rejection World :=
  let changed := r.privateData.isSome || new.modeWant ≠ old.modeWant || new.modeGiven ≠ old.modeGiven
  if !changed then .ok w
  else if fail .subsUpdate then .error (storeFailure (some .errUnknown))
  else
    let store := w.store.updateSub .topic r.asUid fun sub =>
      { sub with
        modeWant := if new.modeWant ≠ old.modeWant then new.modeWant else sub.modeWant
        modeGiven := if new.modeGiven ≠ old.modeGiven then new.modeGiven else sub.modeGiven
        privateData := if r.privateData.isSome then new.privateData else sub.privateData }
    .ok { w with store := store }

/-- The data of the owner who has handed the topic over. -/
def PerUserData.disown (pud : PerUserData) : PerUserData :=
  { pud with modeGiven := pud.modeGiven &&& ~~~modeOwner, modeWant := pud.modeWant &&& ~~~modeOwner }

/-- The acceptance of an ownership transfer, if the request is one: the previous owner loses the `O`
permissions. -/
def changeOwner (fail : Faults) (w : World) (asUid : Uid) (ownerChange : Bool) :
    Exec (World × Except Rejection Unit) := do
  if !ownerChange then return (w, .ok ())
  let t := w.topic
  let old := t.pud t.owner
  let new := old.disown
  if fail .ownerUpdate then return (w, .error (storeFailure none))
  let w := { w with store := w.store.updateSub .topic t.owner fun sub =>
    { sub with modeWant := new.modeWant, modeGiven := new.modeGiven } }
  if fail .ownerChange then return (w, .error (storeFailure none))
  let w := { w with
    store := { w.store with topicOwner := asUid }
    topic := t.setPud t.owner new }
  let w ← notifySubChange w t.owner asUid false old.modeWant old.modeGiven new.modeWant
    new.modeGiven ""
  return ({ w with topic := { w.topic with owner := asUid } }, .ok ())

/-- Report a change of the modes of `uid` made by `actor`. -/
def reportChange (w : World) (changed : Bool) (uid actor : Uid) (isChan : Bool)
    (oldWant oldGiven : AccessMode) (userData : PerUserData) (skip : String) : Exec World :=
  if changed then
    let w := if isChan then w else updateUnread w uid (oldWant &&& oldGiven) userData
    notifySubChange w uid actor isChan oldWant oldGiven userData.modeWant userData.modeGiven skip
  else .ok w

/-- The common end of `thisUserSub`: apply the new data, report, and detach a user who has banned
the topic. -/
def applySub (w : World) (r : SubRequest) (oldWant oldGiven : AccessMode) (userData : PerUserData) :
    Exec (World × Except String (Option MsgAccessMode)) := do
  let changed := oldWant ≠ userData.modeWant || oldGiven ≠ userData.modeGiven
  let w ← reportChange { w with topic := w.topic.setPud r.asUid userData } changed r.asUid r.asUid
    r.asChan oldWant oldGiven userData r.sess.sid
  let modeChanged := if r.newsub || changed then some (MsgAccessMode.ofPud userData) else none
  if !userData.modeWant.isJoiner then
    let w ← evictUser w r.asUid false ""
    return (w, .ok modeChanged)
  if !userData.modeGiven.isJoiner then
    return (w.emit (.queueOut r.sess.sid .errPermissionDenied),
      .error "topic access denied; user is banned")
  return (w, .ok modeChanged)

/-- The branch of `thisUserSub` for a user who is not subscribed or not cached. -/
def thisUserNewSub (cfg : Config) (fail : Faults) (w : World) (r : SubRequest)
    (modeWant : AccessMode) (cached : Option PerUserData) :
    Exec (World × Except String (Option MsgAccessMode)) := do
  match ← newSubData cfg fail w r modeWant cached with
  | .error rejection => return (w.refuse r.sess.sid rejection, .error rejection.err)
  | .ok n =>
    match saveNewSub fail w r n with
    | .error rejection => return (w.refuse r.sess.sid rejection, .error rejection.err)
    | .ok w =>
      let w := if r.asChan then w else w.emit (.usersRegisterUser r.asUid true)
      applySub w r n.oldWant n.oldGiven n.userData

/-- The branch of `thisUserSub` for a user who is subscribed. -/
def thisUserUpdateSub (cfg : Config) (fail : Faults) (w : World) (r : SubRequest)
    (modeWant : AccessMode) (old : PerUserData) :
    Exec (World × Except String (Option MsgAccessMode)) := do
  match ← updatedSubData cfg w.topic r modeWant old with
  | .error rejection => return (w.refuse r.sess.sid rejection, .error rejection.err)
  | .ok (userData, ownerChange) =>
    let userData := updatedPrivate r userData
    match saveUpdatedSub fail w r old userData with
    | .error rejection => return (w.refuse r.sess.sid rejection, .error rejection.err)
    | .ok w =>
      match ← changeOwner fail w r.asUid ownerChange with
      | (w, .error rejection) => return (w.refuse r.sess.sid rejection, .error rejection.err)
      | (w, .ok ()) => applySub w r old.modeWant old.modeGiven userData

def thisUserSub (cfg : Config) (fail : Faults) (w : World) (r : SubRequest) :
    Exec (World × Except String (Option MsgAccessMode)) :=
  match requestedMode r.want with
  | .error text => .ok (w.emit (.queueOut r.sess.sid .errMalformed), .error text)
  | .ok modeWant =>
    match w.topic.perUser.lookup r.asUid with
    | none => thisUserNewSub cfg fail w r modeWant none
    | some pud =>
      if pud.deleted then thisUserNewSub cfg fail w r modeWant (some pud)
      else thisUserUpdateSub cfg fail w r modeWant pud

/-- The arguments of `anotherUserSub` and what it reads of the packet. -/
structure GrantRequest where
  sess : Session
  asUid : Uid
  target : Uid
  asChan : Bool := false
  mode : String := ""

/-- The checks of the person who grants, and the mode granted. -/
def grantedMode (cfg : Config) (t : Topic) (r : GrantRequest) : Except Rejection AccessMode :=
  let host := t.perUser.lookup r.asUid
  let hostMode := (host.getD {}).mode
  if host.isNone ∨ !hostMode.isSharer then
    .error ⟨some .errPermissionDenied, "topic access denied; approver has no permission"⟩
  else if r.asChan then
    .error ⟨some .errPermissionDenied, "topic access denied: cannot subscribe reader to channel"⟩
  else if t.readOnly then .error ⟨some .errPermissionDenied, "topic is suspended"⟩
  else
    match requestedMode r.mode with
    | .error text => .error ⟨some .errMalformed, text⟩
    | .ok mode =>
      let modeGiven :=
        if r.mode ≠ "" ∧ t.cat = .p2p then (mode &&& cfg.typesModeCP2P) ||| modeApprove else mode
      if modeGiven ≠ modeUnset ∧ !hostMode.isAdmin then
        .error ⟨some .errPermissionDenied, "sharer cannot set explicit modeGiven"⟩
      else if modeGiven.isOwner ∧ t.owner ≠ r.asUid then
        .error ⟨some .errPermissionDenied, "attempt to transfer ownership by non-owner"⟩
      else .ok modeGiven

/-- The mode an invited user wants: the one of a deleted subscription, so that nobody is invited
again to a topic they have banned, or else what the user's default allows of the mode given. -/
def invitedWant (fail : Faults) (store : Store) (target : Uid) (modeGiven : AccessMode) :
    Except Rejection AccessMode :=
  if fail .subsGet then .error (storeFailure (some .errUnknown))
  else
    match store.getSub .topic target true with
    | some sub => .ok sub.modeWant
    | none =>
      if fail .usersGet then .error (storeFailure (some .errUnknown))
      else
        match store.users.lookup target with
        | none => .error ⟨some .errUserNotFound, "user not found"⟩
        | some user =>
          if user.suspended then .error ⟨some .errPermissionDenied, "user is suspended"⟩
          else .ok (user.accessAuth &&& modeGiven)

/-- The mode given by an invitation: the default one with `J` where none is named. -/
def invitedGiven (cfg : Config) (t : Topic) (modeGiven : AccessMode) : Exec AccessMode :=
  if modeGiven = modeUnset then (t.accessFor cfg .auth).map (· ||| modeJoin) else .ok modeGiven

/-- A new invitation. -/
def inviteUser (cfg : Config) (fail : Faults) (w : World) (r : GrantRequest)
    (modeGiven : AccessMode) : Exec (Except Rejection (World × PerUserData)) := do
  if w.topic.cat = .grp ∧ w.topic.subsCount ≥ cfg.maxSubscriberCount then
    return .error ⟨some .errPolicy, "max subscription count exceeded"⟩
  let modeGiven ← invitedGiven cfg w.topic modeGiven
  match invitedWant fail w.store r.target modeGiven with
  | .error rejection => return .error rejection
  | .ok modeWant =>
    if !modeWant.isJoiner then
      return .error ⟨some .errPermissionDenied, "invitation rejected due to permissions"⟩
    if fail .subsCreate then return .error (storeFailure (some .errUnknown))
    let store := w.store.createSub .topic r.target modeWant modeGiven none
    let userData : PerUserData := { modeGiven := modeGiven, modeWant := modeWant }
    let topic := (w.topic.setPud r.target userData).computePerUserAcsUnion
    return .ok
      ({ w with store := store, topic := topic }.emit (.usersRegisterUser r.target true), userData)

/-- A change of the mode given to a subscriber. -/
def changeGiven (fail : Faults) (w : World) (r : GrantRequest) (modeGiven : AccessMode)
    (userData : PerUserData) : Except Rejection (World × PerUserData) :=
  if modeGiven = modeUnset ∨ modeGiven = userData.modeGiven then .ok (w, userData)
  else if w.topic.owner = r.target ∧ (!modeGiven.isOwner ∨ !modeGiven.isJoiner) then
    .error ⟨some .errPermissionDenied, "cannot stip ownership or ban the owner"⟩
  else if fail .subsUpdate then .error (storeFailure none)
  else
    let store := w.store.updateSub .topic r.target fun sub => { sub with modeGiven := modeGiven }
    let userData := { userData with modeGiven := modeGiven }
    .ok ({ w with store := store, topic := w.topic.setPud r.target userData }, userData)

/-- The common end of `anotherUserSub`. -/
def applyGrant (w : World) (r : GrantRequest) (oldWant oldGiven : AccessMode)
    (userData : PerUserData) : Exec (World × Except String (Option MsgAccessMode)) := do
  let w ← reportChange w (oldGiven ≠ userData.modeGiven) r.target r.asUid false oldWant oldGiven
    userData r.sess.sid
  let modeChanged :=
    if oldGiven ≠ userData.modeGiven then some (MsgAccessMode.ofPud userData) else none
  if !userData.modeGiven.isJoiner then
    let w ← evictUser w r.target false ""
    return (w, .ok modeChanged)
  return (w, .ok modeChanged)

def anotherUserSub (cfg : Config) (fail : Faults) (w : World) (r : GrantRequest) :
    Exec (World × Except String (Option MsgAccessMode)) := do
  match grantedMode cfg w.topic r with
  | .error rejection => return (w.refuse r.sess.sid rejection, .error rejection.err)
  | .ok modeGiven =>
    let cached := (w.topic.perUser.lookup r.target).filter fun pud => !pud.deleted
    match cached with
    | none =>
      match ← inviteUser cfg fail w r modeGiven with
      | .error rejection => return (w.refuse r.sess.sid rejection, .error rejection.err)
      | .ok (w, userData) => applyGrant w r modeUnset modeUnset userData
    | some old =>
      match changeGiven fail w r modeGiven old with
      | .error rejection => return (w.refuse r.sess.sid rejection, .error rejection.err)
      | .ok (w, userData) => applyGrant w r old.modeWant old.modeGiven userData

/-- `{set sub}`: `user` is absent for the user's own subscription, zero when it does not parse. -/
structure SetSubRequest where
  sess : Session
  asUid : Uid
  asLvl : AuthLevel
  asChan : Bool := false
  user : Option Uid := none
  mode : String := ""

/-- The request for oneself or for another user. -/
def setSub (cfg : Config) (fail : Faults) (w : World) (r : SetSubRequest) :
    Exec (World × Except String (Option MsgAccessMode)) :=
  let target := r.user.getD r.asUid
  if target = r.asUid then
    thisUserSub cfg fail w
      { sess := r.sess, asUid := r.asUid, asLvl := r.asLvl, asChan := r.asChan, want := r.mode }
  else
    anotherUserSub cfg fail w
      { sess := r.sess, asUid := r.asUid, target := target, asChan := r.asChan, mode := r.mode }

def replySetSub (cfg : Config) (fail : Faults) (w : World) (r : SetSubRequest) :
    Exec (World × Except String Unit) := do
  if r.user = some 0 then
    return (w.emit (.queueOut r.sess.sid .errMalformed), .error "invalid user id")
  match ← setSub cfg fail w r with
  | (w, .error text) => return (w, .error text)
  | (w, .ok (some _)) => return (w.emit (.queueOut r.sess.sid .noErrParams), .ok ())
  | (w, .ok none) => return (w.emit (.queueOut r.sess.sid .infoNotModified), .ok ())

/-- The checks of `replyDelSub`: the data of the subscriber to delete. -/
def deletableSub (t : Topic) (asUid : Uid) (original : Addressing) (user : Uid) :
    Except Rejection PerUserData :=
  match t.verifyChannelAccess original with
  | .error _ => .error ⟨some .errNotFound, "not found"⟩
  | .ok true =>
    .error ⟨some .errPermissionDenied, "channel access denied: cannot delete subscription"⟩
  | .ok false =>
    if !(t.pud asUid).mode.isAdmin then
      .error ⟨some .errPermissionDenied, "del.sub: permission denied"⟩
    else if user = 0 ∨ user = asUid then
      .error ⟨some .errPermissionDenied, "del.sub: cannot delete self-subscription"⟩
    else if t.cat = .p2p then
      .error ⟨some .errPermissionDenied, "del.sub: cannot apply to a P2P topic"⟩
    else
      match t.perUser.lookup user with
      | none => .error ⟨some .infoNoAction, "del.sub: user not found"⟩
      | some pud =>
        if pud.mode.isOwner then
          .error ⟨some .errPermissionDenied, "del.sub: cannot evict topic owner"⟩
        else if !pud.modeWant.isJoiner then
          .error ⟨some .errPermissionDenied, "del.sub: cannot delete banned subscription"⟩
        else .ok pud

/-- `replyDelSub`: `user` is the subscriber to delete, zero when the id does not parse. -/
def replyDelSub (fail : Faults) (w : World) (sess : Session) (asUid : Uid) (original : Addressing)
    (user : Uid) : Exec (World × Except String Unit) := do
  match deletableSub w.topic asUid original user with
  | .error rejection => return (w.refuse sess.sid rejection, .error rejection.err)
  | .ok pud =>
    if fail .subsDelete then
      return (w.emit (.queueOut sess.sid .errUnknown), .error "store failure")
    -- a row that is not there is reported but does not stop the eviction
    let w :=
      match w.store.deleteSub .topic user with
      | some store => { w with store := store }.emit (.queueOut sess.sid .noErr)
      | none => w.emit (.queueOut sess.sid .infoNoAction)
    let w :=
      if pud.mode.isReader then w.emit (.usersUpdateUnread user (pud.readID - w.topic.lastID)) else w
    let w ← notifySubChange w user asUid false pud.modeWant pud.modeGiven modeUnset modeUnset sess.sid
    let w ← evictUser w user true ""
    return (w, .ok ())

/-- The member count after an unsubscription. A P2P topic that both users have left is paused until
it is shut down. -/
def Topic.countUnsub (t : Topic) : Topic :=
  { t with
    subCnt := if t.cat = .grp then t.subCnt - 1 else t.subCnt
    inactive := t.inactive || (t.cat == .p2p && t.subsCount == 0) }

/-- The part of `replyLeaveUnsub` after the stored subscription is deleted. -/
def finishUnsub (w : World) (sess : Session) (asUid : Uid) (asChan : Bool) :
    Exec (World × Except String Unit) := do
  let pud := w.topic.pud asUid
  let w := w.emit (.queueOut sess.sid .noErr)
  let w :=
    if asChan then w.emit (.channelSubUnsub asUid false)
    else if pud.mode.isReader then w.emit (.usersUpdateUnread asUid (pud.readID - w.topic.lastID))
    else w
  let oldWant := if asChan then modeCChnReader else pud.modeWant
  let oldGiven := if asChan then modeCChnReader else pud.modeGiven
  let w ← notifySubChange w asUid asUid asChan oldWant oldGiven modeUnset modeUnset sess.sid
  let w ← evictUser w asUid true sess.sid
  return ({ w with topic := w.topic.countUnsub }, .ok ())

/-- `replyLeaveUnsub` for a request of the client. -/
def replyLeaveUnsub (fail : Faults) (w : World) (sess : Session) (asUid : Uid)
    (original : Addressing) : Exec (World × Except String Unit) :=
  if asUid = 0 then .error .zeroUid
  else if w.topic.owner = asUid then
    .ok (w.emit (.queueOut sess.sid .errPermissionDenied),
      .error "replyLeaveUnsub: owner cannot unsubscribe")
  else
    match w.topic.verifyChannelAccess original with
    | .error _ =>
      .ok (w.emit (.queueOut sess.sid .errNotFound),
        .error "replyLeaveUnsub: incorrect addressing of channel")
    | .ok asChan =>
      if fail .subsDelete then
        .ok (w.emit (.queueOut sess.sid .errUnknown), .error "store failure")
      else
        match w.store.deleteSub (if (w.topic.pud asUid).isChan then .channel else .topic) asUid with
        | none => .ok (w.emit (.queueOut sess.sid .infoNoAction), .ok ())
        | some store => finishUnsub { w with store := store } sess asUid asChan

end LastochkaServer.Source
