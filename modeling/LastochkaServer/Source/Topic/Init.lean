import LastochkaServer.Source.Topic.AclOthers

/-!
# Creation and loading of a group topic

`initTopicNewGrp`, `initTopicGrp` and `loadSubscribers` of `server/init_topic.go:502-675, 817-845`
with `parseTopicAccess` of `server/utils.go:269-282`.

Left out: public and trusted values, tags, timestamps and the avatar, which the permission rules do
not read.
-/

namespace LastochkaServer.Source

open Lib AccessMode

/-- `MsgDefaultAcsMode`. -/
structure DefaultAcs where
  auth : String := ""
  anon : String := ""

/-- `UnmarshalText` into a variable, which keeps its value on an error. -/
def assignMode (m : AccessMode) (text : String) : AccessMode × Option String :=
  match unmarshalText m text with
  | .ok m => (m, none)
  | .error text => (m, some text)

/-- `parseTopicAccess`. The outcome for `anon` overwrites an error found in `auth`. -/
def parseTopicAccess (acs : DefaultAcs) (defAuth defAnon : AccessMode) :
    AccessMode × AccessMode × Option String :=
  let auth := if acs.auth ≠ "" then assignMode defAuth acs.auth else (defAuth, none)
  let anon := if acs.anon ≠ "" then assignMode defAnon acs.anon else (defAnon, auth.2)
  (auth.1, anon.1, anon.2)

/-- The default modes of a new topic, for authenticated and for anonymous users. -/
def newTopicAccess (accessAuth accessAnon : AccessMode) : Option DefaultAcs → AccessMode × AccessMode
  | none => (accessAuth, accessAnon)
  | some acs =>
    match parseTopicAccess acs accessAuth accessAnon with
    | (authMode, anonMode, some _) =>
      (if authMode = modeInvalid then modeNone else authMode,
        if anonMode = modeInvalid then modeNone else anonMode)
    | (authMode, anonMode, none) =>
      if authMode.isOwner ∨ anonMode.isOwner then
        (authMode &&& ~~~modeOwner, anonMode &&& ~~~modeOwner)
      else (authMode, anonMode)

/-- The mode wanted by the creator, who cannot give up joining or the ownership. -/
def creatorWant (mode : String) : AccessMode :=
  if mode ≠ "" then (assignMode modeCFull mode).1 ||| (modeJoin ||| modeOwner) else modeCFull

/-- What `initTopicNewGrp` reads of the request. -/
structure NewTopicRequest where
  asUser : Uid
  isChan : Bool := false
  defaultAcs : Option DefaultAcs := none
  mode : String := ""
  privateData : Value := none

/-- `initTopicNewGrp`: the topic `name`, and its rows in a store that knows the given users. -/
def initTopicNewGrp (cfg : Config) (users : GoMap Uid User) (name : String) (r : NewTopicRequest) :
    Exec World := do
  let accessAuth ← getDefaultAccess cfg .grp r.isChan
  let access := newTopicAccess accessAuth modeNone r.defaultAcs
  let privateData := if isNullValue r.privateData then none else r.privateData
  let userData : PerUserData :=
    { modeGiven := modeCFull, modeWant := creatorWant r.mode, privateData := privateData }
  let topic : Topic :=
    { cat := .grp
      xoriginal := name
      isChan := r.isChan
      owner := r.asUser
      accessAuth := access.1
      accessAnon := access.2
      subCnt := 1 }
  let store : Store := { users := users, topicOwner := r.asUser }
  return {
    topic := (topic.setPud r.asUser userData).computePerUserAcsUnion
    store := store.createSub .topic r.asUser (userData.modeGiven &&& userData.modeWant) modeCFull
      privateData }

/-- The order in which the database returns the rows of a query that asks for none. -/
structure RowOrder where
  arrange : List (Uid × Subscription) → List (Uid × Subscription)
  perm : ∀ rows, (arrange rows).Perm rows

def RowOrder.asStored : RowOrder := ⟨id, fun _ => .rfl⟩

namespace Store

/-- The active subscriptions under the topic's name. -/
def activeSubs (s : Store) : List (Uid × Subscription) :=
  s.subs.entries.filterMap fun e =>
    if e.1.1 = .topic ∧ e.2.deletedAt = false then some (e.1.2, e.2) else none

/-- `Topics.GetSubs` without options: at most `maxResults` rows. -/
def getSubs (s : Store) (cfg : Config) (order : RowOrder) : List (Uid × Subscription) :=
  (order.arrange s.activeSubs).take cfg.maxResults

end Store

namespace Topic

/-- The body of `loadSubscribers`' loop. -/
def loadSubscriber (t : Topic) (row : Uid × Subscription) : Topic :=
  let (uid, sub) := row
  let t := t.setPud uid
    { delID := sub.delId
      readID := sub.readSeqId
      recvID := sub.recvSeqId
      privateData := sub.privateData
      modeWant := sub.modeWant
      modeGiven := sub.modeGiven }
  if (sub.modeGiven &&& sub.modeWant).isOwner then { t with owner := uid } else t

def loadSubscribers (t : Topic) (subs : List (Uid × Subscription)) : Topic :=
  subs.foldl loadSubscriber t

end Topic

/-- `initTopicGrp`: the topic is unloaded and loaded again. Its own fields are stored whenever they
change, so they come back as they were; the owner and the subscribers come from the
subscriptions. -/
def reload (cfg : Config) (order : RowOrder) (w : World) : World :=
  let stored : Topic :=
    { cat := .grp
      xoriginal := w.topic.xoriginal
      isChan := w.topic.isChan
      accessAuth := w.topic.accessAuth
      accessAnon := w.topic.accessAnon
      lastID := w.topic.lastID
      delID := w.topic.delID
      subCnt := w.topic.subCnt
      supd := true }
  { w with topic := (stored.loadSubscribers (w.store.getSubs cfg order)).computePerUserAcsUnion }

theorem assignMode_bitmask (m : AccessMode) (text : String) (within : m &&& modeBitmask = m) :
    (assignMode m text).1 &&& modeBitmask = (assignMode m text).1 := by
  unfold assignMode unmarshalText
  cases parseAcs text with
  | error e => exact within
  | ok m0 =>
    dsimp only [bind, Except.bind, pure, Except.pure]
    split_ifs
    · dsimp only
      rw [BitVec.and_assoc, BitVec.and_self]
    · exact within

theorem creatorWant_bitmask (mode : String) : modeCFull &&& creatorWant mode = creatorWant mode := by
  have full : modeCFull &&& modeBitmask = modeCFull := by decide
  have owner : modeBitmask &&& (modeJoin ||| modeOwner) = modeJoin ||| modeOwner := by decide
  unfold creatorWant
  split_ifs
  · have parsed := assignMode_bitmask modeCFull mode full
    rw [show modeCFull = modeBitmask from rfl, BitVec.and_or_distrib_left, owner, BitVec.and_comm]
    exact congrArg (· ||| _) parsed
  · decide

theorem creatorWant_owner (mode : String) : (creatorWant mode).isOwner := by
  unfold creatorWant
  split_ifs
  · simp only [isOwner_eq, BitVec.getLsbD_or]
    have : (modeJoin ||| modeOwner : AccessMode).getLsbD 7 := by decide
    rw [BitVec.getLsbD_or] at this
    rw [this, Bool.or_true]
  · decide

variable {cfg : Config} {w : World}

theorem initTopicNewGrp_acl {users : GoMap Uid User} {name : String}
    {r : NewTopicRequest} (created : initTopicNewGrp cfg users name r = .ok w) :
    w.acl.cat = .grp ∧ w.acl.owner = r.asUser ∧
      (∀ u, w.acl.grants u = if u = r.asUser then some ⟨creatorWant r.mode, modeCFull, false, false⟩
        else none) ∧
      ∀ u, w.acl.rows u = if u = r.asUser then some ⟨creatorWant r.mode, modeCFull, true⟩
        else none := by
  cases created
  let empty : World :=
    { topic := { cat := .grp, owner := r.asUser },
        store := { users := users, topicOwner := r.asUser } }
  refine ⟨rfl, rfl, fun u => ?_, fun u => ?_⟩
  · exact (congrArg (Acl.grants · u) (acl_setPud empty r.asUser
      { modeGiven := modeCFull
        modeWant := creatorWant r.mode
        privateData := if isNullValue r.privateData then none
        else r.privateData })).trans (Function.update_apply ..)
  · refine (congrArg (Acl.rows · u)
      (acl_createSub empty r.asUser (modeCFull &&& creatorWant r.mode) modeCFull
      (if isNullValue r.privateData then none else r.privateData))).trans ?_
    rw [creatorWant_bitmask]
    exact Function.update_apply ..

theorem mem_activeSubs (s : Store) (u : Uid) (sub : Subscription) :
    (u, sub) ∈ s.activeSubs ↔ s.subs.lookup (.topic, u) = some sub ∧ sub.deletedAt = false := by
  unfold Store.activeSubs
  rw [← GoMap.mem_entries_iff, List.mem_filterMap]
  constructor
  · rintro ⟨⟨⟨name, v⟩, row⟩, stored, selected⟩
    split at selected
    · next active =>
      cases selected
      obtain ⟨rfl, active⟩ := active
      exact ⟨stored, active⟩
    · cases selected
  · rintro ⟨stored, active⟩
    exact ⟨_, stored, by simp [active]⟩

theorem mem_getSubs (cfg : Config) {s : Store} (order : RowOrder)
    (complete : s.activeSubs.length ≤ cfg.maxResults) (row : Uid × Subscription) :
    row ∈ s.getSubs cfg order ↔ row ∈ s.activeSubs := by
  have perm := order.perm s.activeSubs
  unfold Store.getSubs
  rw [List.take_of_length_le (by rw [perm.length_eq]; exact complete)]
  exact perm.mem_iff

namespace Topic

/-- What is cached of a subscription that is loaded. -/
def loaded (sub : Subscription) : PerUserData where
  delID := sub.delId
  readID := sub.readSeqId
  recvID := sub.recvSeqId
  privateData := sub.privateData
  modeWant := sub.modeWant
  modeGiven := sub.modeGiven

variable (t : Topic)

theorem loadSubscriber_perUser (row : Uid × Subscription) :
    (t.loadSubscriber row).perUser = t.perUser.insert row.1 (loaded row.2) := by
  unfold loadSubscriber
  dsimp only
  split_ifs <;> rfl

/-- The rows of one user agree, so the order of loading does not matter. -/
theorem loadSubscribers_lookup (subs : List (Uid × Subscription)) (u : Uid)
    (sub : Subscription) (agree : ∀ sub', (u, sub') ∈ subs → sub' = sub) :
    (t.loadSubscribers subs).perUser.lookup u = if (u, sub) ∈ subs then some (loaded sub)
    else t.perUser.lookup u := by
  induction subs generalizing t with
  | nil => rfl
  | cons row rest ih =>
    have step := ih (t.loadSubscriber row) fun sub' later => agree sub' (List.mem_cons_of_mem _ later)
    rw [loadSubscriber_perUser] at step
    change (loadSubscribers (t.loadSubscriber row) rest).perUser.lookup u = _
    rw [step]
    obtain ⟨v, sub'⟩ := row
    by_cases same : u = v
    · subst same
      have first : sub' = sub := agree sub' List.mem_cons_self
      subst first
      simp
    · simp [same, AList.lookup_insert_ne same]

theorem loadSubscribers_owner (subs : List (Uid × Subscription)) (o : Uid)
    (only : ∀ row ∈ subs, (row.2.modeGiven &&& row.2.modeWant).isOwner → row.1 = o)
    (found : t.owner = o ∨ ∃ row ∈ subs, (row.2.modeGiven &&& row.2.modeWant).isOwner) :
    (t.loadSubscribers subs).owner = o := by
  induction subs generalizing t with
  | nil => exact found.resolve_right (by simp)
  | cons row rest ih =>
    refine ih (t.loadSubscriber row) (fun later mem => only later (List.mem_cons_of_mem _ mem)) ?_
    by_cases owns : (row.2.modeGiven &&& row.2.modeWant).isOwner
    · left
      have named : (t.loadSubscriber row).owner = row.1 := by
        unfold loadSubscriber
        dsimp only
        rw [if_pos owns]
      rw [named]
      exact only row List.mem_cons_self owns
    · have kept : (t.loadSubscriber row).owner = t.owner := by
        unfold loadSubscriber
        dsimp only
        rw [if_neg owns]
        rfl
      rw [kept]
      refine found.imp_right ?_
      rintro ⟨later, mem, owner⟩
      rcases List.mem_cons.mp mem with rfl | mem
      · exact absurd owner owns
      · exact ⟨later, mem, owner⟩

theorem loadSubscribers_frame (subs : List (Uid × Subscription)) :
    (t.loadSubscribers subs).cat = t.cat ∧ (t.loadSubscribers subs).accessAuth = t.accessAuth ∧
      (t.loadSubscribers subs).accessAnon = t.accessAnon := by
  induction subs generalizing t with
  | nil => exact ⟨rfl, rfl, rfl⟩
  | cons row rest ih =>
    have step : (t.loadSubscriber row).cat = t.cat ∧
        (t.loadSubscriber row).accessAuth = t.accessAuth ∧
        (t.loadSubscriber row).accessAnon = t.accessAnon := by
      unfold loadSubscriber
      dsimp only
      split_ifs <;> exact ⟨rfl, rfl, rfl⟩
    obtain ⟨cat, auth, anon⟩ := ih (t.loadSubscriber row)
    exact ⟨cat.trans step.1, auth.trans step.2.1, anon.trans step.2.2⟩

end Topic

theorem reload_grants (order : RowOrder)
    (complete : w.store.activeSubs.length ≤ cfg.maxResults) (u : Uid) :
    (reload cfg order w).acl.grants u =
      ((w.acl.rows u).filter (·.active)).map fun row => ⟨row.want, row.given, false, false⟩ := by
  have mem := mem_getSubs cfg order complete
  change ((Topic.loadSubscribers _ _).perUser.lookup u).map PerUserData.grant = _
  simp only [World.acl]
  cases stored : w.store.subs.lookup (.topic, u) with
  | none =>
    have absent : ∀ sub, (u, sub) ∉ w.store.getSubs cfg order := by
      intro sub loaded
      rw [mem, mem_activeSubs, stored] at loaded
      cases loaded.1
    rw [Topic.loadSubscribers_lookup _ _ u ⟨0, 0, false, 0, 0, 0, none⟩ fun sub loaded =>
      absurd loaded (absent sub), if_neg (absent _)]
    rfl
  | some sub =>
    have agree : ∀ sub', (u, sub') ∈ w.store.getSubs cfg order → sub' = sub := by
      intro sub' loaded
      rw [mem, mem_activeSubs, stored] at loaded
      exact (Option.some.inj loaded.1).symm
    rw [Topic.loadSubscribers_lookup _ _ u sub agree]
    simp only [mem, mem_activeSubs, stored, true_and]
    cases deleted : sub.deletedAt <;>
      simp [Option.filter, Subscription.rowGrant, deleted, Topic.loaded, PerUserData.grant]

/-- A complete reload finds the owner, if there is exactly one active owner's row. -/
theorem reload_owner (order : RowOrder)
    (complete : w.store.activeSubs.length ≤ cfg.maxResults) (o : Uid)
    (only : ∀ u row, w.acl.rows u = some row → row.active →
      ((row.given &&& row.want).isOwner ↔ u = o))
    (found : ∃ row, w.acl.rows o = some row ∧ row.active) : (reload cfg order w).acl.owner = o := by
  have mem := mem_getSubs cfg order complete
  have active : ∀ u sub, (u, sub) ∈ w.store.getSubs cfg order →
      w.acl.rows u = some sub.rowGrant ∧ sub.rowGrant.active := by
    intro u sub loaded
    rw [mem, mem_activeSubs] at loaded
    simp [World.acl, loaded.1, Subscription.rowGrant, loaded.2]
  refine Topic.loadSubscribers_owner _ _ o ?_ (.inr ?_)
  · rintro ⟨u, sub⟩ loaded owns
    obtain ⟨stored, on⟩ := active u sub loaded
    exact (only u sub.rowGrant stored on).mp owns
  · obtain ⟨row, stored, on⟩ := found
    obtain ⟨sub, saved, rfl⟩ := Option.map_eq_some_iff.mp stored
    refine ⟨(o, sub), ?_, (only o _ stored on).mpr rfl⟩
    rw [mem, mem_activeSubs]
    exact ⟨saved, by simpa [Subscription.rowGrant] using on⟩

theorem reload_rest (cfg : Config) (order : RowOrder) (w : World) :
    (reload cfg order w).acl.cat = .grp ∧ (reload cfg order w).acl.rows = w.acl.rows ∧
      (reload cfg order w).acl.accessAuth = w.acl.accessAuth ∧
      (reload cfg order w).acl.accessAnon = w.acl.accessAnon := by
  obtain ⟨cat, auth, anon⟩ := Topic.loadSubscribers_frame
    { cat := .grp
      xoriginal := w.topic.xoriginal
      isChan := w.topic.isChan
      accessAuth := w.topic.accessAuth
      accessAnon := w.topic.accessAnon
      lastID := w.topic.lastID
      delID := w.topic.delID
      subCnt := w.topic.subCnt
      supd := true } (w.store.getSubs cfg order)
  exact ⟨cat, rfl, auth, anon⟩

end LastochkaServer.Source
