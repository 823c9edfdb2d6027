import LastochkaServer.Source.Documents
import LastochkaServer.Source.Topic.Init

/-!
# The profile of a user

`replySetDesc` (`server/topic.go:2217-2435`) for the topic `me`, in which a user changes the own
default access modes and public, trusted and private values, with `UserUpdate` and `UserUpdateTags`
(`server/db/postgres/adapter.go:1197-1323`). The address in the public value is kept among the tags
of the user, where it is looked up.

A request is prepared (`prepareDesc`), stored (`storeDesc`) and its tags are updated (`syncTags`);
the three are calls of the store of their own, so that other requests may come between them. Left
out: timestamps, attachments and presence notifications.
-/

namespace LastochkaServer.Source

open Lib AccessMode

variable {u : MeUpdate} {uid : Uid} {db : AccountDb} {reply : MeReply}

/-- The values of a user: those cached in the topic, or those of the rows of the user and of the
subscription. -/
structure MeValues where
  accessAuth : AccessMode := modeNone
  accessAnon : AccessMode := modeNone
  pub : Doc := .null
  trusted : Doc := .null
  priv : Doc := .null

/-- `MsgSetDesc`. -/
structure MeDesc where
  defaultAcs : Option DefaultAcs := none
  pub : Doc := .null
  trusted : Doc := .null
  priv : Doc := .null

structure MeRequest where
  asUid : Uid
  asLvl : AuthLevel := .auth
  desc : Option MeDesc := none

/-- The accounts and the rest of the columns of users. -/
structure Accounts where
  db : AccountDb
  rows : Uid → MeValues

/-- Store calls of `replySetDesc` that fail. -/
structure MeFaults where
  usersUpdate : Bool := false
  subsUpdate : Bool := false
  updateTags : Bool := false
  deriving DecidableEq

inductive MeReply
  | noErr | notModified | permissionDenied | malformed | unknown
  | storeError (e : StoreError) (what : String)
  deriving DecidableEq

/-- The fields of `core` and `sub` that are set. -/
structure MeUpdate where
  access : Option (AccessMode × AccessMode) := none
  pub : Option Doc := none
  trusted : Option Doc := none
  priv : Option Doc := none

def MeUpdate.core (u : MeUpdate) : Bool := u.access.isSome || u.pub.isSome || u.trusted.isSome

/-- A request that has passed the checks. -/
structure MePlan where
  update : MeUpdate
  oldAddress : Option String
  newAddress : Option String

/-- A default mode of a user: nothing, or at least approval. -/
def meMode (limit mode : AccessMode) : AccessMode :=
  if mode &&& limit ≠ modeNone then mode &&& limit ||| modeApprove else mode &&& limit

/-- `replySetDesc.assignAccess` for `me`: the new default modes, if they differ. -/
def assignAccessMe (typesModeCP2P : AccessMode) (t : MeValues) :
    Option DefaultAcs → Except String (Option (AccessMode × AccessMode))
  | none => .ok none
  | some mode =>
    match parseTopicAccess mode modeUnset modeUnset with
    | (_, _, some err) => .error err
    | (auth, anon, none) =>
      if auth.isOwner ∨ anon.isOwner then .error "default 'owner' access is not permitted"
      else
        let access :=
          (if auth ≠ modeUnset then meMode modeCAuth auth else t.accessAuth,
            if anon ≠ modeUnset then meMode typesModeCP2P anon else t.accessAnon)
        .ok (if access ≠ (t.accessAuth, t.accessAnon) then some access else none)

/-- `assignGenericValues`. -/
def assignDoc (dst src : Doc) : Option Doc :=
  let merged := mergeInterfaces dst src
  if merged.2 then some merged.1 else none

def Doc.isNull : Doc → Bool
  | .null => true
  | _ => false

section

variable (env : AccountEnv) (typesModeCP2P : AccessMode) (compressed : Fields → Option Doc)

/-- The new public value, with a smaller picture. -/
def newPublic (dst src : Doc) : Option Doc :=
  match assignDoc dst src with
  | some (.map fields) => some (.map (processAvatarPhoto compressed fields))
  | other => other

/-- The public value that the topic holds once the request has been merged into it. -/
def publicInPlace (dst src : Doc) : Doc :=
  match dst, src with
  | .map _, .map _ => (newPublic compressed dst src).getD (mergeInterfaces dst src).1
  | _, _ => dst

/-- `replySetDesc` up to the calls of the store: the cached values, which are merged in place
whatever the outcome, and what is to be stored. -/
def prepareDesc (db : AccountDb) (t : MeValues) (r : MeRequest) : MeValues × Except MeReply MePlan :=
  match r.desc with
  | none => (t, .error .notModified)
  | some desc =>
    if !desc.trusted.isNull ∧ r.asLvl ≠ .root then (t, .error .permissionDenied)
    else
      let merged :=
        { t with
          pub := publicInPlace compressed t.pub desc.pub
          trusted := mergedInPlace t.trusted desc.trusted }
      match assignAccessMe typesModeCP2P t desc.defaultAcs with
      | .error _ => (merged, .error .malformed)
      | .ok access =>
        let merged := { merged with priv := mergedInPlace t.priv desc.priv }
        let update : MeUpdate :=
          { access
            pub := newPublic compressed t.pub desc.pub
            trusted := assignDoc t.trusted desc.trusted
            priv := assignDoc t.priv desc.priv }
        let plan : MePlan :=
          { update, oldAddress := addressOf env t.pub, newAddress := update.pub.bind (addressOf env) }
        if update.core = false ∧ update.priv.isNone then (merged, .error .notModified)
        else
          match plan.newAddress with
          | some address =>
            if plan.oldAddress = some address then (merged, .ok plan)
            else
              match ensurePublicAddressAvailable env db address r.asUid with
              | .error e => (merged, .error (.storeError e "public_address"))
              | .ok () => (merged, .ok plan)
          | none => (merged, .ok plan)

end

/-- The columns of `core`. -/
def MeValues.withCore (v : MeValues) (u : MeUpdate) : MeValues :=
  { v with
    accessAuth := (u.access.map Prod.fst).getD v.accessAuth
    accessAnon := (u.access.map Prod.snd).getD v.accessAnon
    pub := u.pub.getD v.pub
    trusted := u.trusted.getD v.trusted }

def Accounts.setRow (s : Accounts) (uid : Uid) (row : MeValues) : Accounts :=
  { s with rows := fun v => if v = uid then row else s.rows v }

/-- `store.Users.Update`. -/
def Accounts.usersUpdate (s : Accounts) (uid : Uid) (u : MeUpdate) : Accounts :=
  let s := s.setRow uid ((s.rows uid).withCore u)
  match u.pub, s.db.users.lookup uid with
  | some pub, some user =>
    { s with
      db := { s.db with users := s.db.users.insert uid { user with profile := profileOf pub } } }
  | _, _ => s

/-- `store.Subs.Update`. -/
def Accounts.subsUpdate (s : Accounts) (uid : Uid) (priv : Doc) : Accounts :=
  s.setRow uid { s.rows uid with priv := priv }

/-- The values are stored; an error leaves what has been stored before. -/
def storeDesc (fails : MeFaults) (s : Accounts) (uid : Uid) (u : MeUpdate) :
    Accounts × Except MeReply Unit :=
  if u.core ∧ fails.usersUpdate then (s, .error .unknown)
  else
    let s := if u.core then s.usersUpdate uid u else s
    match u.priv with
    | none => (s, .ok ())
    | some priv => if fails.subsUpdate then (s, .error .unknown) else (s.subsUpdate uid priv, .ok ())

/-- `store.Users.UpdateTags(uid, add, remove, nil)`. -/
def AccountDb.changeTags (db : AccountDb) (uid : Uid) (add remove : List String) : AccountDb :=
  match db.users.lookup uid with
  | some row =>
    { db with users := db.users.insert uid { row with tags := (row.tags ∪ add).filter (· ∉ remove) } }
  | none => db

def unameTag (address : String) : String := "uname:" ++ address

/-- The tag of the address follows a change of it; a failure is only logged. -/
def syncTags (fails : MeFaults) (s : Accounts) (uid : Uid) (plan : MePlan) : Accounts :=
  if plan.oldAddress = plan.newAddress ∨ fails.updateTags then s
  else
    { s with
      db := s.db.changeTags uid (plan.newAddress.map unameTag).toList
        (plan.oldAddress.map unameTag).toList }

/-- The values cached in the topic at last. -/
def MeValues.adopt (t : MeValues) (u : MeUpdate) : MeValues :=
  { t.withCore u with priv := u.priv.getD t.priv }

/-- `replySetDesc` in `me`: the store, the topic and the reply. -/
def replySetDescMe (env : AccountEnv) (typesModeCP2P : AccessMode) (compressed : Fields → Option Doc)
    (fails : MeFaults) (s : Accounts) (t : MeValues) (r : MeRequest) :
    Accounts × MeValues × MeReply :=
  match prepareDesc env typesModeCP2P compressed s.db t r with
  | (t, .error reply) => (s, t, reply)
  | (t, .ok plan) =>
    match storeDesc fails s r.asUid plan.update with
    | (s, .error reply) => (s, t, reply)
    | (s, .ok ()) => (syncTags fails s r.asUid plan, t.adopt plan.update, .noErr)

section

variable {env : AccountEnv} {typesModeCP2P : AccessMode} {compressed : Fields → Option Doc}
  {fails : MeFaults} {s s' : Accounts} {t t' : MeValues} {r : MeRequest} {plan : MePlan}

/-- What a request that has passed the checks is going to do. -/
structure Prepared (env : AccountEnv) (compressed : Fields → Option Doc) (db : AccountDb)
    (t : MeValues) (r : MeRequest)
    (plan : MePlan) : Prop where
  desc : ∃ desc, r.desc = some desc ∧ plan.update.pub = newPublic compressed t.pub desc.pub
  old : plan.oldAddress = addressOf env t.pub
  new : plan.newAddress = plan.update.pub.bind (addressOf env)
  available : ∀ address, plan.newAddress = some address → plan.oldAddress ≠ some address →
    ensurePublicAddressAvailable env db address r.asUid = .ok ()

theorem prepareDesc_ok (prepared : prepareDesc env typesModeCP2P compressed db t r = (t', .ok plan)) :
    Prepared env compressed db t r plan := by
  unfold prepareDesc at prepared
  split at prepared
  · cases prepared
  next desc given =>
  split at prepared
  · cases prepared
  dsimp only at prepared
  split at prepared
  · cases prepared
  split at prepared
  · cases prepared
  split at prepared
  · next address named =>
    split at prepared
    · next same =>
      cases prepared
      refine ⟨⟨desc, given, rfl⟩, rfl, rfl, fun a new other => ?_⟩
      cases named.symm.trans new
      exact absurd same other
    · split at prepared
      · cases prepared
      next free =>
      cases prepared
      refine ⟨⟨desc, given, rfl⟩, rfl, rfl, fun a new _ => ?_⟩
      cases named.symm.trans new
      exact free
  · next unnamed =>
    cases prepared
    refine ⟨⟨desc, given, rfl⟩, rfl, rfl, fun a new _ => ?_⟩
    cases unnamed.symm.trans new

theorem setRow_self (s : Accounts) (uid : Uid) (row : MeValues) :
    (s.setRow uid row).rows uid = row := if_pos rfl

theorem usersUpdate_rows (s : Accounts) (uid : Uid) (u : MeUpdate) :
    (s.usersUpdate uid u).rows = (s.setRow uid ((s.rows uid).withCore u)).rows := by
  unfold Accounts.usersUpdate
  dsimp only
  split
  · rfl
  · rfl

theorem usersUpdate_user {row : UserRow} (found : s.db.users.lookup uid = some row) :
    (s.usersUpdate uid u).db.users.lookup uid =
      some { row with profile := (u.pub.map profileOf).getD row.profile } := by
  have found' : (s.setRow uid ((s.rows uid).withCore u)).db.users.lookup uid = some row := found
  unfold Accounts.usersUpdate
  dsimp only
  cases u.pub with
  | none => exact found
  | some pub =>
    rw [found']
    exact AList.lookup_insert _

theorem usersUpdate_others {v : Uid} (u : MeUpdate) (other : v ≠ uid) :
    (s.usersUpdate uid u).db.users.lookup v = s.db.users.lookup v := by
  unfold Accounts.usersUpdate
  dsimp only
  split
  · exact AList.lookup_insert_ne other
  · rfl

/-- What is stored once all calls have succeeded: the profile in the row of the user follows the
public value, and the tags are left alone. -/
structure StoredDesc (s s' : Accounts) (uid : Uid) (u : MeUpdate) : Prop where
  user : ∀ row, s.db.users.lookup uid = some row →
    s'.db.users.lookup uid = some { row with profile := (u.pub.map profileOf).getD row.profile }
  others : ∀ v, v ≠ uid → s'.db.users.lookup v = s.db.users.lookup v ∧ s'.rows v = s.rows v
  pub : (s'.rows uid).pub = u.pub.getD (s.rows uid).pub

theorem usersUpdate_stored (s : Accounts) (uid : Uid) (u : MeUpdate) :
    StoredDesc s (s.usersUpdate uid u) uid u where
  user _ found := usersUpdate_user found
  others v other := ⟨usersUpdate_others u other, by rw [usersUpdate_rows]; exact if_neg other⟩
  pub := by rw [usersUpdate_rows, setRow_self]; rfl

theorem storedDesc_refl (s : Accounts) (uid : Uid) (same : u.pub = none) : StoredDesc s s uid u where
  user row found := by rw [same]; exact found
  others _ _ := ⟨rfl, rfl⟩
  pub := by rw [same]; rfl

theorem storedDesc_subsUpdate (stored : StoredDesc s s' uid u) (priv : Doc) :
    StoredDesc s (s'.subsUpdate uid priv) uid u where
  user := stored.user
  others v other := ⟨(stored.others v other).1, (if_neg other).trans (stored.others v other).2⟩
  pub := by
    rw [Accounts.subsUpdate, setRow_self]
    exact stored.pub

theorem core_pub (nothing : u.core = false) : u.pub = none := by
  simp only [MeUpdate.core, Bool.or_eq_false_iff] at nothing
  exact Option.not_isSome_iff_eq_none.mp (by rw [nothing.1.2]; exact Bool.false_ne_true)

theorem storeDesc_ok (stored : storeDesc fails s uid u = (s', .ok ())) : StoredDesc s s' uid u := by
  unfold storeDesc at stored
  split at stored
  · cases stored
  dsimp only at stored
  have first : StoredDesc s (if u.core then s.usersUpdate uid u else s) uid u := by
    split
    · exact usersUpdate_stored s uid u
    · next nothing => exact storedDesc_refl s uid (core_pub (Bool.not_eq_true _ ▸ nothing))
  split at stored
  · cases stored
    exact first
  · split at stored
    · cases stored
    · cases stored
      exact storedDesc_subsUpdate first _

theorem prepareDesc_error
    (refused : prepareDesc env typesModeCP2P compressed db t r = (t', .error reply)) :
    reply ≠ .noErr := by
  unfold prepareDesc at refused
  split at refused
  · cases refused
    decide
  split at refused
  · cases refused
    decide
  dsimp only at refused
  split at refused
  · cases refused
    decide
  split at refused
  · cases refused
    decide
  split at refused
  · split at refused
    · cases refused
    · split at refused
      · cases refused
        exact MeReply.noConfusion
      · cases refused
  · cases refused

theorem storeDesc_error (refused : storeDesc fails s uid u = (s', .error reply)) :
    reply = .unknown := by
  unfold storeDesc at refused
  split at refused
  · cases refused
    rfl
  dsimp only at refused
  split at refused
  · cases refused
  · split at refused
    · cases refused
      rfl
    · cases refused

theorem replySetDescMe_ok
    (replied : replySetDescMe env typesModeCP2P compressed fails s t r = (s', t', .noErr)) :
    ∃ plan stored, Prepared env compressed s.db t r plan ∧ StoredDesc s stored r.asUid plan.update ∧
      s' = syncTags fails stored r.asUid plan := by
  unfold replySetDescMe at replied
  split at replied
  · next refused =>
    cases replied
    exact absurd rfl (prepareDesc_error refused)
  next merged plan prepared =>
  split at replied
  · next refused =>
    cases replied
    cases storeDesc_error refused
  next stored success =>
  cases replied
  exact ⟨plan, stored, prepareDesc_ok prepared, storeDesc_ok success, rfl⟩

end

end LastochkaServer.Source
