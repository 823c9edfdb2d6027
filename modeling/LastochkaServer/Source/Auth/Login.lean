import LastochkaServer.Source.Auth.Reset
import LastochkaServer.Source.TopicName

/-!
# Requests that present a token

`login` and `onLogin` (`server/session.go:920-1103`), `acc` with temporary authentication
(`server/session.go:880-917`) and `replyUpdateUser` (`server/user.go:517-625`), and the requests
outside of sessions: `authFileRequest` (`server/hdl_files.go:605-636`) and `authenticateUserRequest`
(`server/notification_sources.go:195-218`).

Secrets are tokens here: the scheme of the request has been resolved to the authenticator of tokens,
and the secret of an HTTP request has been decoded. Left out: devices, and the effects of a request
on the database, of which only the failures are modelled.
-/

namespace LastochkaServer.Source.Auth

open Lib

/-- The identity of a session; the user is zero before a login. -/
structure AuthSession where
  uid : Uid := 0
  authLvl : Level := levelNone
  deriving DecidableEq

structure LoginEnv where
  now : Time := 0
  userGetState : Uid → Except StoreError ObjState := fun _ => .ok .ok
  /-- The methods that have to be validated at a level: `globals.authValidators`. -/
  authValidators : Level → List String := fun _ => []
  /-- The methods validated earlier and by the responses in the request. -/
  validatedCreds : Uid → Except StoreError (List String) := fun _ => .ok []

inductive LoginReply
  | storeError (e : StoreError)
  | alreadyAuthenticated
  | validateCredentials (missing : List String) (token : Option (List UInt8))
  | ok (token : Option (List UInt8))

/-- The token in the reply. -/
def LoginReply.token : LoginReply → Option (List UInt8)
  | .validateCredentials _ token | .ok token => token
  | .storeError _ | .alreadyAuthenticated => none

def LoginEnv.missing (env : LoginEnv) (rec : Rec) : Except StoreError (List String) :=
  let required := env.authValidators rec.authLevel
  if rec.features &&& featureValidated = 0 ∧ required ≠ [] then
    (env.validatedCreds rec.uid).map fun validated => required.filter (· ∉ validated)
  else .ok []

/-- `onLogin`; a failure of `GenSecret` is ignored. -/
def onLogin (ta : TokenAuth) (now : Time) (sess : AuthSession) (rec : Rec) (missing : List String) :
    AuthSession × LoginReply :=
  if missing ≠ [] then (sess, .validateCredentials missing (ta.genSecret now rec).toOption)
  else
    let features := rec.features ||| featureValidated
    if noLogin rec.features then
      (sess, .ok (ta.genSecret now { rec with features }).toOption)
    else
      ({ uid := rec.uid, authLvl := rec.authLevel },
        .ok (ta.genSecret now { rec with features, lifetime := 0 }).toOption)

/-- The state of the account, where the authenticator has not checked it. -/
def LoginEnv.accountState (env : LoginEnv) (rec : Rec) : Except StoreError ObjState :=
  if rec.state = .undefined then env.userGetState rec.uid else .ok rec.state

/-- The checks of `login`: the record of the token and the credentials still to be validated. -/
def checkLogin (ta : TokenAuth) (env : LoginEnv) (token : List UInt8) :
    Except StoreError (Rec × List String) := do
  let rec ← ta.authenticate env.now token
  let state ← env.accountState rec
  if state ≠ .ok then throw .permissionDenied
  else
    let missing ← env.missing rec
    return ({ rec with state }, missing)

def login (ta : TokenAuth) (env : LoginEnv) (sess : AuthSession) (token : List UInt8) :
    AuthSession × LoginReply :=
  if sess.uid ≠ 0 then (sess, .alreadyAuthenticated)
  else
    match checkLogin ta env token with
    | .error e => (sess, .storeError e)
    | .ok (rec, missing) => onLogin ta env.now sess rec missing

/-- `{acc}` for an existing account, with a token as temporary authentication. -/
structure AccRequest where
  token : List UInt8
  /-- `acc.user`, the account to be updated if it is another one. -/
  user : String := ""
  authLevel : Level := levelNone
  /-- A state is assigned: `acc.status != ""`. -/
  state : Bool := false
  /-- A new secret is set: `acc.scheme != ""`. -/
  scheme : Bool := false
  /-- The methods of the credentials to be added. -/
  creds : List CredMethod := []

structure AccEnv where
  now : Time := 0
  parseUserId : String → Uid := fun _ => 0
  /-- `store.Users.Get`. -/
  getUser : Uid → Except StoreError Unit := fun _ => .ok ()
  updateUserAuth : Except StoreError Unit := .ok ()
  changeUserState : Except StoreError Unit := .ok ()

inductive AccReply
  | alreadyAuthenticated | permissionDenied | malformed
  | storeError (e : StoreError)
  | ok
  deriving DecidableEq

/-- The record of the token that goes out with a request to validate a credential. -/
def credRec (uid : Uid) : Rec :=
  { uid, authLevel := levelNone, lifetime := 24 * hour, features := featureNoLogin }

/-- The account is not the one of the token. -/
def AccRequest.foreign (r : AccRequest) (rec : Rec) : Bool := r.user != "" && r.user != userId rec.uid

/-- The account that is updated, and the level at which it is. -/
def AccRequest.target (env : AccEnv) (r : AccRequest) (rec : Rec) : Uid × Level :=
  if r.foreign rec then (env.parseUserId r.user, r.authLevel) else (rec.uid, rec.authLevel)

def AccReply.ofResult : Except StoreError Unit → AccReply
  | .error e => .storeError e
  | .ok () => .ok

/-- `replyUpdateUser`, of a session without a user; the result includes the tokens sent to the
addresses of new credentials. -/
def replyUpdateUser (ta : TokenAuth) (env : AccEnv) (sess : AuthSession) (r : AccRequest)
    (rec : Rec) :
    AccReply × List (List UInt8) :=
  let (uid, authLvl) := r.target env rec
  if r.foreign rec ∧ sess.authLvl ≠ levelRoot then (.permissionDenied, [])
  else if uid = 0 then (.malformed, [])
  else if r.state ∧ sess.authLvl ≠ levelRoot then (.permissionDenied, [])
  else
    match env.getUser uid with
    | .error e => (.storeError e, [])
    | .ok () =>
      if r.scheme then (.ofResult env.updateUserAuth, [])
      else if r.creds ≠ [] then
        if authLvl = levelNone then (.malformed, [])
        else (.ok, (ta.genSecret env.now (credRec uid)).toOption.toList)
      else if r.state then (.ofResult env.changeUserState, [])
      else (.storeError .malformed, [])

/-- `acc`, of an existing account. -/
def acc (ta : TokenAuth) (env : AccEnv) (sess : AuthSession) (r : AccRequest) :
    AccReply × List (List UInt8) :=
  if sess.uid ≠ 0 then (.alreadyAuthenticated, [])
  else
    match ta.authenticate env.now r.token with
    | .error e => (.storeError e, [])
    | .ok rec => replyUpdateUser ta env sess r rec

/-- How an HTTP or gRPC request for a file or a REST resource is authenticated. -/
inductive FileAuth
  | secret (token : List UInt8)
  /-- The session with the id in the request, if there is one. -/
  | sid (sess : Option AuthSession)

def authFileRequest (ta : TokenAuth) (now : Time) : FileAuth → Except StoreError Uid
  | .secret token => do
    let rec ← ta.authenticate now token
    return rec.uid
  | .sid none => .ok 0
  | .sid (some sess) => .ok sess.uid

/-- `authenticateUserRequest`, and the same checks of the file handlers: the user as whom the
request is served. -/
def authenticateUserRequest (ta : TokenAuth) (now : Time) (auth : FileAuth) : Option Uid :=
  match authFileRequest ta now auth with
  | .error _ => none
  | .ok uid => if uid = 0 then none else some uid

end LastochkaServer.Source.Auth
