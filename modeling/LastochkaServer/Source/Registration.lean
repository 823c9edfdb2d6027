import LastochkaServer.Source.Invites
import LastochkaServer.Source.Tags
import LastochkaServer.Source.Wire.Messages

/-!
# Registration

`replyCreateUser` and what it calls (`server/user.go:45-299, 447-511, 660-699`,
`server/utils.go:116-145`, `server/invites.go:258-324`, `server/invites_postgres.go:301-470`), for
the build with PostgreSQL, where an invite is required. The account is created first; the invite is
consumed in a transaction of its own; whatever fails later deletes the account.

What authenticators and validators answer is part of the environment, and so are the store calls
that fail. A row of `invites` is found by its code, which is unique. Left out: access modes, the
private data and the default picture of an account, the token for new credentials, attachments,
plug-ins and the audit log.
-/

namespace LastochkaServer.Source

open Lib Auth

/-- What is read of the `public` part of an account. -/
structure Profile where
  uname : String := ""
  /-- Absent if it is not a text. -/
  fn : Option String := none

/-- The request for a new account. -/
structure NewAccount where
  login : Bool := false
  scheme : String
  state : String := ""
  tags : List String := []
  creds : List Wire.MsgCredClient := []
  /-- Absent if `public` is not a map. -/
  profile : Option Profile := none

structure UserRow where
  state : ObjState := .ok
  tags : List String := []
  profile : Option Profile := none

/-- A row of `invite_registrations`, whose key is the invited user. -/
structure InviteRegistration where
  invitedByUserId : String
  inviteId : String
  inviteCode : String
  registeredAt : Time
  suspicionScore : Nat

/-- A row of `invite_registration_signals`. -/
structure InviteSignal where
  invitedUser : Uid
  inviteId : String
  signalType : String
  /-- `details->>'remote_addr'` -/
  remoteAddr : Option String
  createdAt : Time

structure AccountDb where
  users : GoMap Uid UserRow := ∅
  invites : GoMap String Invite := ∅
  registrations : GoMap Uid InviteRegistration := ∅
  signals : List InviteSignal := []

/-- The replies to a request for a new account. -/
inductive AccountReply
  | alreadyAuthenticated | malformed | unknown
  | permissionDenied (what : String)
  | storeError (e : StoreError) (what : String)
  | invite (error : String)
  | missingCredentials (methods : List String)
  | created (uid : Uid) (authLevel : Level)
  | loggedIn (uid : Uid) (missing : List String)
  deriving DecidableEq

def AccountReply.isError : AccountReply → Bool
  | .created _ _ | .loggedIn _ _ => false
  | _ => true

/-- The authenticator of a scheme: what it answers about the secret of the request. -/
structure AuthHandler where
  isUnique : Except StoreError Unit
  /-- The level and the tags of the new record. -/
  addRecord : Except StoreError (Level × List String)

/-- The validator of a method of credentials. -/
structure Validator where
  /-- `globals.validators[method].addToTags` -/
  addToTags : Bool := false
  initialized : Bool := true
  preCheck : Wire.MsgCredClient → Except StoreError String
  /-- Whether the request is a new one. -/
  request : Uid → Wire.MsgCredClient → Except StoreError Bool

/-- Store calls that may fail. -/
inductive AccountCall
  | findOne | usersCreate | usersDelete | updateTags | updateCredTags
  /-- A statement or the commit of the transaction that consumes the invite. -/
  | inviteTx
  deriving DecidableEq, Repr

structure AccountEnv where
  unicode : Unicode
  /-- `strings.ToUpper` -/
  upper : String → String
  now : Time
  /-- The session is authenticated, or the request carries temporary authentication. -/
  authenticated : Bool := false
  authLvl : Level := levelNone
  remoteAddr : String := ""
  /-- `Store.GetUid()` -/
  newUid : Uid
  maxTagCount : Nat := 16
  immutableTagNS : List String := []
  handlers : String → Option AuthHandler
  validators : GoMap String Validator := ∅
  /-- The methods that are required at a level. -/
  authValidators : Level → List String := fun _ => []
  /-- The order in which a map of credentials is visited. -/
  visit : List Wire.MsgCredClient → List Wire.MsgCredClient := id
  visit_perm : ∀ creds, (visit creds).Perm creds := by exact fun _ => List.Perm.refl _
  /-- A topic that has the tag. -/
  taggedTopic : String → Option String := fun _ => none
  fails : AccountCall → Bool := fun _ => false

variable (env : AccountEnv)

/-- `normalizeCredentials(creds, true)`. -/
def normalizeCredentials (creds : List Wire.MsgCredClient) : List Wire.MsgCredClient :=
  let index : GoMap String Wire.MsgCredClient := creds.foldl
    (fun index c => if c.method ∈ env.validators ∧ c.value ≠ "" then index.insert c.method c
      else index) ∅
  env.visit (index.entries.map (·.2))

/-- The loop that checks credentials and collects their tags. All methods have a validator. -/
def preCheckCredentials :
    List Wire.MsgCredClient → Except AccountReply (List Wire.MsgCredClient × List String)
  | [] => .ok ([], [])
  | cr :: rest =>
    match env.validators.lookup cr.method with
    | none => (fun (creds, tags) => (cr :: creds, tags)) <$> preCheckCredentials rest
    | some vld =>
      match vld.preCheck cr with
      | .error e => .error (.storeError e cr.method)
      | .ok tag =>
        match preCheckCredentials rest with
        | .error reply => .error reply
        | .ok (creds, tags) =>
          let (p, value) := validateTag env.unicode tag
          if vld.addToTags ∧ tag ≠ "" ∧ p = cr.method ∧ value ≠ "" then
            .ok ({ cr with value := value } :: creds, tag :: tags)
          else .ok (cr :: creds, tags)

/-- `NewObjState`, with the states that may not be assigned. -/
def assignableState (text : String) : Option ObjState :=
  let text := env.unicode.toLower text
  if text = "" ∨ text = "ok" then some .ok
  else if text = "susp" then some .suspended
  else none

/-- `publicAddressPattern`. -/
def isPublicAddress (address : String) : Bool :=
  let chars := address.toList
  decide (3 ≤ chars.length) && decide (chars.length ≤ 32) &&
    chars.all fun c => c.isLower || c.isDigit || c == '_'

def normalizePublicAddress (raw : String) : Option String :=
  let address := env.unicode.trimSpace (env.unicode.toLower raw)
  if isPublicAddress address then some address else none

/-- `extractPublicAddress`, absent instead of empty. -/
def extractPublicAddress (profile : Option Profile) : Option String :=
  profile.bind fun p => normalizePublicAddress env p.uname

/-- `store.Users.FindOne`: some topic or user with the tag. -/
def findOne (db : AccountDb) (tag : String) : Except StoreError (Option String) :=
  if env.fails .findOne then .error .internal
  else
    match env.taggedTopic tag with
    | some name => .ok (some name)
    | none =>
      .ok ((db.users.entries.find? fun entry => tag ∈ entry.2.tags).map fun entry => userId entry.1)

def ensurePublicAddressAvailable (db : AccountDb) (address : String) (selfUid : Uid) :
    Except StoreError Unit := do
  match ← findOne env db ("uname:" ++ address) with
  | none => return ()
  | some found => if selfUid ≠ 0 ∧ parseUserId found = selfUid then return () else throw .duplicate

/-- `strings.FieldsFunc` with everything but letters and digits as separator. -/
def nameTokensFrom (token : List Char) : List Char → List String
  | [] => if token = [] then [] else [String.ofList token.reverse]
  | c :: rest =>
    if env.unicode.isLetter c || env.unicode.isDigit c then nameTokensFrom (c :: token) rest
    else if token = [] then nameTokensFrom [] rest
    else String.ofList token.reverse :: nameTokensFrom [] rest

def splitNameTokens (name : String) : List String := nameTokensFrom env [] name.toList

def buildProfileSearchTags (profile : Option Profile) : List String :=
  match profile with
  | none => []
  | some p =>
    let unameTags :=
      (normalizePublicAddress env p.uname).elim [] fun name => ["uname:" ++ name, "name:" ++ name]
    let fullName := env.unicode.lowerTrim (p.fn.getD "")
    unameTags ++ (splitNameTokens env fullName).flatMap fun token =>
      ["fn:" ++ token, "name:" ++ token]

/-- What is known of an account before it is created. -/
structure CheckedAccount where
  handler : AuthHandler
  user : UserRow
  creds : List Wire.MsgCredClient

/-- The checks of `replyCreateUser`, in their order, and the account that they make. -/
def checkAccount (db : AccountDb) (acc : NewAccount) : Except AccountReply CheckedAccount := do
  if acc.login ∧ env.authenticated then throw .alreadyAuthenticated
  match env.handlers acc.scheme with
  | none => throw .malformed
  | some handler =>
    match handler.isUnique with
    | .error e => throw (.storeError e "auth")
    | .ok () =>
      if acc.state ≠ "" ∧ env.authLvl ≠ levelRoot then throw (.permissionDenied "state")
      match assignableState env acc.state with
      | none => throw .malformed
      | some state =>
        let tags := (normalizeTags env.unicode env.maxTagCount acc.tags).getD []
        if !restrictedTagsEqual env.unicode tags [] env.immutableTagNS then
          throw (.permissionDenied "tags")
        let (creds, credTags) ← preCheckCredentials env (normalizeCredentials env acc.creds)
        match extractPublicAddress env acc.profile with
        | none => pure ()
        | some address =>
          match ensurePublicAddressAvailable env db address 0 with
          | .error e => throw (.storeError e "public_address")
          | .ok () => pure ()
        let allTags := tags ++ (buildProfileSearchTags env acc.profile ++ credTags)
        let user : UserRow :=
          { state, tags := (normalizeTags env.unicode env.maxTagCount allTags).getD [],
              profile := acc.profile }
        return { handler, user, creds }

/-- `inviteCodeFromAccountCreate`, of the tags as `normalizeTags` has left them. -/
def inviteCodeFromAccountCreate (tags : List String) : String :=
  match (tags.map env.unicode.trimSpace).find? fun tag => hasPrefix tag "invite:" with
  | some tag => env.unicode.trimSpace (String.ofList (tag.toList.drop 7))
  | none => ""

def inviteClientErrorCode (err : String) : String :=
  if hasPrefix (env.unicode.trimSpace err) "invite_" then env.unicode.trimSpace err
  else "invite_check_failed"

def normalizedCredentialValue (creds : List Wire.MsgCredClient) (method : String) : String :=
  match creds.find? (·.method = method) with
  | some cred => env.unicode.trimSpace (env.unicode.toLower cred.value)
  | none => ""

/-- `strings.Contains`. -/
def containsText (text part : String) : Bool := decide (part.toList <:+: text.toList)

def looksSyntheticPhone (phone : String) : Bool :=
  let repeated := phone.toList.all fun c => some c = phone.toList.head?
  decide (6 ≤ byteLength phone) &&
    (repeated || containsText phone "0000" || containsText phone "12345")

def looksSyntheticName (name : String) : Bool :=
  let name := env.unicode.trimSpace (env.unicode.toLower name)
  name = "" || hasPrefix name "test" || hasPrefix name "user" || hasPrefix name "qwerty"

def extractDisplayName (profile : Option Profile) : String :=
  env.unicode.trimSpace ((profile.bind (·.fn)).getD "")

/-- What raises suspicion, with the score: `assessRegistrationSuspicion`, whose queries do not
fail. -/
def suspicions (db : AccountDb) (inviterUserId : String) (acc : CheckedAccount) :
    List (String × Nat) :=
  let dayAgo := env.now - 24 * hour
  let recentCount := (db.registrations.entries.filter fun entry =>
    entry.2.invitedByUserId = inviterUserId ∧ entry.2.registeredAt ≥ dayAgo).length
  let remoteIP := env.unicode.trimSpace env.remoteAddr
  let sameIPCount := (db.signals.filter fun signal =>
    signal.signalType = "shared_remote_addr" ∧ signal.remoteAddr = some remoteIP ∧
    signal.createdAt ≥ dayAgo).length
  let phone := normalizedCredentialValue env acc.creds "tel"
  [(decide (recentCount ≥ 5), "high_invite_velocity", 2),
    (decide (remoteIP ≠ "" ∧ sameIPCount ≥ 2), "shared_remote_addr", 3),
    (decide (phone ≠ "") && looksSyntheticPhone phone, "synthetic_phone_pattern", 1),
    (looksSyntheticName env (extractDisplayName env acc.user.profile),
      "synthetic_profile_name", 1)].filterMap
      fun (found, reason, score) => if found then some (reason, score) else none

/-- The rows that a committed consumption leaves. -/
def AccountDb.consume (db : AccountDb) (code : String) (row : Invite) (acc : CheckedAccount) :
    AccountDb :=
  let found := suspicions env db row.inviterUserId acc
  let signal (reason : String) : InviteSignal :=
    { invitedUser := env.newUid, inviteId := row.id, signalType := reason, createdAt := env.now
      remoteAddr := if reason =
      "shared_remote_addr" then some (env.unicode.trimSpace env.remoteAddr) else none }
  { db with
    invites := db.invites.insert code (row.used env.now)
    registrations := db.registrations.insert env.newUid
      { invitedByUserId := row.inviterUserId, inviteId := row.id, inviteCode := code,
        registeredAt := env.now
        suspicionScore := (found.map (·.2)).sum }
    signals := db.signals ++ (sortStrings (found.map (·.1))).map signal }

/-- `consumeInviteForRegistration`: the database after the transaction, and the score or the error.
An error rolls the transaction back. -/
def consumeInviteForRegistration (db : AccountDb) (inviteCode : String) (acc : CheckedAccount) :
    AccountDb × Except String Nat :=
  let code := env.upper (env.unicode.trimSpace inviteCode)
  if env.fails .inviteTx then (db, .error "driver error")
  else
    match db.invites.lookup code with
    | none => (db, .error "invite_not_found")
    | some row =>
      match row.refusal env.now (userId env.newUid) with
      | some err => (db, .error err)
      | none =>
        if env.newUid ∈ db.registrations then
          (db, .error "duplicate key value violates unique constraint")
        else
          (db.consume env code row acc, .ok ((suspicions env db row.inviterUserId acc).map (·.2)).sum)

/-- `enforceInviteForRegistration`: the tags with those of the invite, or the error for the
client. -/
def enforceInviteForRegistration (db : AccountDb) (tags : List String) (acc : CheckedAccount) :
    AccountDb × Except String (Option (List String)) :=
  let inviteCode := inviteCodeFromAccountCreate env tags
  if inviteCode = "" then (db, .error "invite_required")
  else
    match consumeInviteForRegistration env db inviteCode acc with
    | (db, .error err) => (db, .error (inviteClientErrorCode env err))
    | (db, .ok score) =>
      let derived := "reg:invite" :: if score > 0 then ["reg:suspicious"] else []
      (db, .ok (normalizeTags env.unicode env.maxTagCount (acc.user.tags ++ derived)))

/-- The tags of a user with more tags, without repetitions. -/
def AccountDb.addTags (db : AccountDb) (uid : Uid) (tags : List String) : AccountDb :=
  match db.users.lookup uid with
  | some row => { db with users := db.users.insert uid { row with tags := row.tags ∪ tags } }
  | none => db

/-- `store.Users.UpdateTags(uid, nil, nil, reset)`; nil changes nothing. -/
def AccountDb.resetTags (db : AccountDb) (uid : Uid) (reset : Option (List String)) : AccountDb :=
  match reset, db.users.lookup uid with
  | some tags, some row => { db with users := db.users.insert uid { row with tags := tags } }
  | _, _ => db

/-- `store.Users.Delete(user.Uid(), true)`, of which a failure is only logged. -/
def AccountDb.deleteUser (db : AccountDb) : AccountDb :=
  if env.fails .usersDelete then db else { db with users := db.users.erase env.newUid }

/-- The loop of `addCreds`: the methods that are validated, and the tags with theirs. -/
def requestCredentials (uid : Uid) (extraTags : List String) :
    List Wire.MsgCredClient → Except StoreError (List String × List String)
  | [] => .ok ([], extraTags)
  | cr :: rest =>
    match (env.validators.lookup cr.method).filter (·.initialized) with
    | none => requestCredentials uid extraTags rest
    | some vld =>
      match vld.request uid cr with
      | .error e => .error e
      | .ok isNew =>
        if isNew ∧ cr.response ≠ "" then
          let extraTags := if vld.addToTags then extraTags ++ [cr.method ++ ":" ++ cr.value]
            else extraTags
          (fun (validated, tags) => (cr.method :: validated, tags)) <$> requestCredentials uid
            extraTags rest
        else requestCredentials uid extraTags rest

/-- `addCreds`; tags that cannot be saved are only logged. -/
def addCreds (db : AccountDb) (uid : Uid) (creds : List Wire.MsgCredClient)
    (extraTags : List String) :
    AccountDb × Except StoreError (List String) :=
  match requestCredentials env uid extraTags creds with
  | .error e => (db, .error e)
  | .ok (validated, tags) =>
    (if env.fails .updateCredTags then db else db.addTags uid tags, .ok validated)

/-- `replyCreateUser` after the invite has been consumed. -/
def completeAccount (db : AccountDb) (acc : NewAccount) (checked : CheckedAccount)
    (tags : Option (List String)) :
    AccountDb × AccountReply :=
  let uid := env.newUid
  let db := if env.fails .updateTags then db else db.resetTags uid tags
  match checked.handler.addRecord with
  | .error e => (db.deleteUser env, .storeError e "")
  | .ok (authLevel, recTags) =>
    let required := env.authValidators authLevel
    if checked.creds.length < required.length then
      (db.deleteUser env,
        .missingCredentials (stringSliceDelta required (checked.creds.map (·.method))).removed)
    else
      match addCreds env db uid checked.creds recTags with
      | (db, .error e) => (db.deleteUser env, .storeError e "")
      | (db, .ok validated) =>
        if acc.login then (db, .loggedIn uid (stringSliceDelta required validated).removed)
        else (db, .created uid authLevel)

/-- `replyCreateUser`: the database afterwards, and the reply. -/
def replyCreateUser (db : AccountDb) (acc : NewAccount) : AccountDb × AccountReply :=
  match checkAccount env db acc with
  | .error reply => (db, reply)
  | .ok checked =>
    if env.fails .usersCreate then (db, .unknown)
    else
      let db := { db with users := db.users.insert env.newUid checked.user }
      match enforceInviteForRegistration env db
          (normalizedInPlace env.unicode env.maxTagCount acc.tags) checked with
      | (db, .error err) => (db.deleteUser env, .invite err)
      | (db, .ok tags) => completeAccount env db acc checked tags

end LastochkaServer.Source
