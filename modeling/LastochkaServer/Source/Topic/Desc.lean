import LastochkaServer.Source.Topic.Requests

/-!
# The description of a group topic

`replySetDesc` of `server/topic.go:2217-2435` for group topics: the owner changes the default access
modes and the public values, every subscriber the own private value.

`mergeInterfaces`, which merges a value of the client into the cached one and tells whether anything
has changed, is a parameter: the results hold however values are merged. Attachments, avatars,
timestamps and presence notifications are left out.
-/

namespace LastochkaServer.Source

open Lib AccessMode

/-- The columns of the row of a topic that its description is loaded from. -/
structure TopicRow where
  accessAuth : AccessMode
  accessAnon : AccessMode
  pub : Value := none
  trusted : Value := none

/-- A group topic with the values that `replySetDesc` reads besides those of `World`. -/
structure DescState where
  world : World
  pub : Value := none
  trusted : Value := none
  row : TopicRow

/-- `MsgSetDesc`. -/
structure SetDesc where
  defaultAcs : Option DefaultAcs := none
  pub : Value := none
  trusted : Value := none
  priv : Value := none

structure SetDescRequest where
  sess : Session
  asUid : Uid
  asLvl : AuthLevel
  asChan : Bool := false
  desc : Option SetDesc := none

/-- Which store calls of `replySetDesc` fail. -/
structure DescFaults where
  topicsUpdate : Bool := false
  subsUpdate : Bool := false

/-- `replySetDesc.assignAccess` for a group topic: the new default modes, if they differ. -/
def assignAccess (t : Topic) : Option DefaultAcs → Except String (Option (AccessMode × AccessMode))
  | none => .ok none
  | some mode =>
    match parseTopicAccess mode modeUnset modeUnset with
    | (_, _, some err) => .error err
    | (auth, anon, none) =>
      if auth.isOwner ∨ anon.isOwner then .error "default 'owner' access is not permitted"
      else
        let access :=
          (if auth ≠ modeUnset then auth else t.accessAuth,
            if anon ≠ modeUnset then anon else t.accessAnon)
        .ok (if access ≠ (t.accessAuth, t.accessAnon) then some access else none)

/-- What a request changes: the fields of `core` and `sub` that are set. -/
structure DescUpdate where
  access : Option (AccessMode × AccessMode) := none
  pub : Option Value := none
  trusted : Option Value := none
  priv : Option Value := none

def DescUpdate.core (u : DescUpdate) : Bool := u.access.isSome || u.pub.isSome || u.trusted.isSome

section

variable (mergeInterfaces : Value → Value → Value × Bool)

def assignGenericValues (dst src : Value) : Option Value :=
  let (merged, changed) := mergeInterfaces dst src
  if changed then some merged else none

/-- The checks of `replySetDesc` and what is to be changed. -/
def descUpdate (s : DescState) (r : SetDescRequest) : Except Rejection DescUpdate :=
  match r.desc with
  | none => .ok {}
  | some desc =>
    let t := s.world.topic
    if desc.trusted.isSome ∧ r.asLvl ≠ .root then
      .error ⟨some .errPermissionDenied, "attempt to change Trusted by non-root"⟩
    else
      let priv := assignGenericValues mergeInterfaces (t.pud r.asUid).privateData desc.priv
      if t.owner = r.asUid then
        match assignAccess t desc.defaultAcs with
        | .error text => .error ⟨some .errMalformed, text⟩
        | .ok access => .ok
            { access
              pub := assignGenericValues mergeInterfaces s.pub desc.pub
              trusted := assignGenericValues mergeInterfaces s.trusted desc.trusted
              priv }
      else if desc.defaultAcs.isSome ∨ desc.pub.isSome ∨ desc.trusted.isSome then
        .error ⟨some .errPermissionDenied, "attempt to change public or permissions by non-owner"⟩
      else .ok { priv }

/-- `store.Topics.Update`. -/
def DescState.storeCore (s : DescState) (u : DescUpdate) : DescState :=
  { s with row :=
      { accessAuth := (u.access.map Prod.fst).getD s.row.accessAuth
        accessAnon := (u.access.map Prod.snd).getD s.row.accessAnon
        pub := u.pub.getD s.row.pub
        trusted := u.trusted.getD s.row.trusted } }

/-- `store.Subs.Update` of the private value. -/
def DescState.storePrivate (s : DescState) (r : SetDescRequest) (priv : Value) : DescState :=
  { s with world := { s.world with
      store := s.world.store.updateSub (if r.asChan then .channel else .topic) r.asUid fun sub =>
        { sub with privateData := priv } } }

/-- `t.perUser[asUid]` with another private value. -/
def Topic.setPrivate (t : Topic) (uid : Uid) : Option Value → Topic
  | some priv => t.setPud uid { t.pud uid with privateData := priv }
  | none => t

/-- The values cached in the topic object. -/
def DescState.apply (s : DescState) (r : SetDescRequest) (u : DescUpdate) : DescState :=
  let t := s.world.topic
  let t :=
    { t with
      accessAuth := (u.access.map Prod.fst).getD t.accessAuth
      accessAnon := (u.access.map Prod.snd).getD t.accessAnon }
  { s with
    world := { s.world with topic := t.setPrivate r.asUid u.priv }
    pub := u.pub.getD s.pub
    trusted := u.trusted.getD s.trusted }

def DescState.reply (s : DescState) (r : SetDescRequest) (reply : Reply) : DescState :=
  { s with world := s.world.emit (.queueOut r.sess.sid reply) }

def replySetDesc (fail : DescFaults) (s : DescState) (r : SetDescRequest) :
    DescState × Except String Unit :=
  match descUpdate mergeInterfaces s r with
  | .error rejection =>
    ({ s with world := s.world.refuse r.sess.sid rejection }, .error rejection.err)
  | .ok u =>
    if u.core = false ∧ u.priv.isNone then
      (s.reply r .infoNotModified, .error "\x7bset\x7d generated no update to DB")
    else if u.core ∧ fail.topicsUpdate then (s.reply r .errUnknown, .error "store failure")
    else
      let s := s.storeCore u
      match u.priv with
      | none => ((s.apply r u).reply r .noErr, .ok ())
      | some priv =>
        if fail.subsUpdate then (s.reply r .errUnknown, .error "store failure")
        else (((s.storePrivate r priv).apply r u).reply r .noErr, .ok ())

end

/-- A new topic is stored as it is cached. -/
def initTopicNewDesc (cfg : Config) (users : GoMap Uid User) (name : String) (r : NewTopicRequest)
    (pub trusted : Value) : Exec DescState := do
  let world ← initTopicNewGrp cfg users name r
  let row : TopicRow :=
    { accessAuth := world.topic.accessAuth, accessAnon := world.topic.accessAnon, pub, trusted }
  return { world, pub, trusted, row }

/-- `initTopicGrp`: the description comes from the row of the topic. -/
def DescState.reload (cfg : Config) (order : RowOrder) (s : DescState) : DescState :=
  let t := { s.world.topic with accessAuth := s.row.accessAuth, accessAnon := s.row.accessAnon }
  { s with
    world := Source.reload cfg order { s.world with topic := t }
    pub := s.row.pub
    trusted := s.row.trusted }

section

variable {mergeInterfaces : Value → Value → Value × Bool} {s : DescState} {r : SetDescRequest}

/-- A request is refused, or what it changes is stored, and cached unless a store call has
failed. -/
theorem replySetDesc_effect (mergeInterfaces : Value → Value → Value × Bool) (fail : DescFaults)
    (s : DescState) (r : SetDescRequest) :
    let s' := (replySetDesc mergeInterfaces fail s r).1
    (s'.world.topic = s.world.topic ∧ s'.row = s.row) ∨
    ∃ u, descUpdate mergeInterfaces s r = .ok u ∧ s'.row = (s.storeCore u).row ∧
      (s'.world.topic = s.world.topic ∨ s'.world.topic = (s.apply r u).world.topic) := by
  unfold replySetDesc
  cases got : descUpdate mergeInterfaces s r with
  | error rej =>
    refine .inl ⟨?_, rfl⟩
    dsimp [World.refuse]
    split <;> rfl
  | ok u =>
    dsimp only
    split
    · exact .inl ⟨rfl, rfl⟩
    split
    · exact .inl ⟨rfl, rfl⟩
    refine .inr ⟨u, rfl, ?_⟩
    split
    · exact ⟨rfl, .inr rfl⟩
    · split
      · exact ⟨rfl, .inl rfl⟩
      · exact ⟨rfl, .inr rfl⟩

/-- New default modes are those the owner has sent. -/
theorem descUpdate_access {u : DescUpdate} {access : AccessMode × AccessMode}
    (got : descUpdate mergeInterfaces s r = .ok u) (changed : u.access = some access) :
    ∃ desc, r.desc = some desc ∧ assignAccess s.world.topic desc.defaultAcs = .ok (some access) := by
  unfold descUpdate at got
  split at got
  · cases got
    cases changed
  next desc sent =>
  refine ⟨desc, sent, ?_⟩
  dsimp only at got
  split at got
  · cases got
  split at got
  · split at got
    · cases got
    · next assigned =>
      cases got
      rw [assigned]
      exact congrArg _ changed
  · split at got
    · cases got
    · cases got
      cases changed

theorem setPrivate_grants (w : World) (t : Topic) (uid : Uid) (priv : Option Value) (u : Uid)
    (g : Grant) (cached : (World.acl { w with topic := t.setPrivate uid priv }).grants u = some g) :
    (World.acl { w with topic := t }).grants u = some g ∨ g = {} := by
  cases priv with
  | none => exact .inl cached
  | some priv =>
    change (World.acl { w with topic := t.setPud uid _ }).grants u = some g at cached
    rw [acl_setPud { w with topic := t }] at cached
    by_cases same : u = uid
    · subst same
      rw [Acl.put_grants] at cached
      cases cached
      cases known : t.perUser.lookup u with
      | none =>
        simp [Topic.pud, GoMap.getD, known, PerUserData.grant]
      | some pud =>
        simp [World.acl, Topic.pud, GoMap.getD, known, PerUserData.grant]
    · exact .inl ((Function.update_of_ne same _ _).symm.trans cached)

end

end LastochkaServer.Source
