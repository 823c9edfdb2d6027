import LastochkaServer.Source.Auth.Records
import LastochkaServer.Source.CredentialRows
import LastochkaServer.Source.Tags
import LastochkaServer.Source.TopicName

/-!
# Migration of accounts to telephone numbers

`handleLegacyPhoneMigration` (`server/legacy_migration.go:23-290`): a user proves a login and a
password, and a telephone number becomes the login of the account and a validated credential of it.
The number is looked up first (`UserCredExists`, `server/db/postgres/adapter.go:1365-1382`).

Each call to the store may fail, which leaves the tables as they are. Left out: the headers of the
reply, the log, and how the key of the rate limiter is cut out of the remote address.
-/

namespace LastochkaServer.Source

open Auth

structure EndpointRateState where
  count : Nat
  resetAt : Time

def legacyMigrationLimit : Nat := 10
def legacyMigrationWindow : Duration := 10 * 60 * second

def allow (entries : String → Option EndpointRateState) (key : String) (now : Time) :
    (String → Option EndpointRateState) × Bool :=
  let fresh := (Function.update entries key (some ⟨1, now + legacyMigrationWindow⟩), true)
  match entries key with
  | none => fresh
  | some state =>
    if now < state.resetAt then
      if legacyMigrationLimit ≤ state.count then (entries, false)
      else (Function.update entries key (some { state with count := state.count + 1 }), true)
    else fresh

structure LegacyPhoneMigrationRequest where
  legacyLogin : String
  legacyPassword : String
  phone : String

/-- The methods that the endpoint tells apart. -/
inductive HttpMethod
  | options | post | other
  deriving DecidableEq

structure MigrationCall where
  method : HttpMethod
  rateKey : String
  /-- Absent if the body is not the JSON of a request. -/
  body : Option LegacyPhoneMigrationRequest

/-- The status, and the fields of the body. -/
structure MigrationReply where
  status : Nat
  success : Bool := false
  phoneLogin : String := ""
  error : String := ""
  deriving DecidableEq

structure MigrationState where
  auth : AuthRecords
  creds : Credentials
  rates : String → Option EndpointRateState

/-- The calls to the store, in their order. -/
inductive MigrationStep
  | credExists | credExistsPlain | record | recordPlain | owner | ownerPlain | update | upsert
  | confirm
  deriving DecidableEq

structure MigrationEnv where
  unicode : Unicode
  now : Time
  /-- `bcrypt.CompareHashAndPassword`. -/
  passwordMatches : List UInt8 → String → Bool
  fault : MigrationStep → Option StoreError

def normalizeRussianPhone (u : Unicode) (value : String) : String :=
  let digits := (u.trimSpace value).toList.filter fun c => '0' ≤ c ∧ c ≤ '9'
  let digits := match digits with
    | '8' :: rest => '7' :: rest
    | digits => digits
  String.ofList (if digits.length = 10 then '7' :: digits else digits)

/-- The digits of a number without those of its form, as `normalizePhoneForAvailability` completes
them. The lengths are counted in bytes. -/
def completeDigits (digits : List Char) : List Char :=
  let digits := match digits with
    | '8' :: rest =>
      if byteLength (String.ofList ('8' :: rest)) = 11 then '7' :: rest else '8' :: rest
    | digits => digits
  if byteLength (String.ofList digits) = 10 then '7' :: digits else digits

/-- The digits and the international form (`server/check_availability.go:163-184`). -/
def normalizePhoneForAvailability (u : Unicode) (input : String) : String × String :=
  let digits := input.toList.filter u.isDigit
  if digits = [] then ("", "")
  else (String.ofList (completeDigits digits), "+" ++ String.ofList (completeDigits digits))

def isValidRussianMobilePhone (phone : String) : Bool :=
  phone.toList.length = 11 && ['7', '9'].isPrefixOf phone.toList

section

variable (env : MigrationEnv) (s : MigrationState)

def refusal (status : Nat) (error : String) : MigrationReply := { status, error }

def serverError : MigrationReply := refusal 500 "Ошибка сервера"
def phoneRegistered : MigrationReply := refusal 409 "Этот номер уже зарегистрирован"
def wrongData : MigrationReply := refusal 401 "Неверные данные"

def Credentials.userCredExists (t : Credentials) (fault : Option StoreError) (method value : String) :
    Except StoreError Bool :=
  match fault with
  | some e => .error e
  | none => .ok !(t.candidates method value).isEmpty

def phoneCredentialExists (phoneLogin : String) : Except StoreError Bool :=
  match s.creds.userCredExists (env.fault .credExists) "tel" ("+" ++ phoneLogin) with
  | .ok false => s.creds.userCredExists (env.fault .credExistsPlain) "tel" phoneLogin
  | found => found

def ensurePhoneLoginIsFreeOrOwned (phoneLogin : String) (owner : Uid) : Except StoreError Unit :=
  match s.auth.getAuthUniqueRecord (env.fault .owner) (env.fault .ownerPlain) "basic" phoneLogin with
  | .error .notFound => .ok ()
  | .error e => .error e
  | .ok none => .ok ()
  | .ok (some record) => if record.user = owner then .ok () else .error .duplicate

/-- The login and the number of a request that is filled in. -/
def readForm (req : LegacyPhoneMigrationRequest) : Except MigrationReply (String × String) :=
  let legacyLogin := env.unicode.lowerTrim req.legacyLogin
  let phoneLogin := normalizeRussianPhone env.unicode req.phone
  if legacyLogin = "" ∨ req.legacyPassword = "" ∨ phoneLogin = "" then
    .error (refusal 400 "Заполните все поля")
  else if isValidRussianMobilePhone phoneLogin then .ok (legacyLogin, phoneLogin)
  else .error (refusal 400 "Неверный формат телефона")

/-- The number is nobody's credential. -/
def checkPhone (phoneLogin : String) : Except MigrationReply Unit :=
  match phoneCredentialExists env s phoneLogin with
  | .error _ => .error serverError
  | .ok taken => if taken then .error phoneRegistered else .ok ()

/-- The record of the login, if the password matches. -/
def proveLogin (legacyLogin password : String) : Except MigrationReply AuthRecord :=
  match s.auth.getAuthUniqueRecord (env.fault .record) (env.fault .recordPlain) "basic"
      legacyLogin with
  | .error e => .error (if e = .notFound then wrongData else serverError)
  | .ok none => .error wrongData
  | .ok (some record) =>
    if ∃ expires ∈ record.expires, expires < env.now then .error wrongData
    else if env.passwordMatches record.secret password then .ok record
    else .error wrongData

/-- The number is not the login of another user. -/
def checkLogin (phoneLogin : String) (owner : Uid) : Except MigrationReply Unit :=
  match ensurePhoneLoginIsFreeOrOwned env s phoneLogin owner with
  | .error e => .error (if e = .duplicate then phoneRegistered else serverError)
  | .ok () => .ok ()

/-- Everything before the first change: the new login and the record of the user. -/
def migrationTarget (req : LegacyPhoneMigrationRequest) :
    Except MigrationReply (String × AuthRecord) := do
  let (legacyLogin, phoneLogin) ← readForm env req
  checkPhone env s phoneLogin
  let record ← proveLogin env s legacyLogin req.legacyPassword
  checkLogin env s phoneLogin record.user
  return (phoneLogin, record)

/-- The three writes, each in a transaction of its own. -/
def migrate (phoneLogin : String) (record : AuthRecord) : MigrationState × MigrationReply :=
  match s.auth.authUpdRecord (env.fault .update) record.user "basic" ("basic:" ++ phoneLogin)
      record.authLvl record.secret record.expires with
  | (auth, .error e) => ({ s with auth }, if e = .duplicate then phoneRegistered else serverError)
  | (auth, .ok ()) =>
    match upsertPhone with
    | (creds, .error e) =>
      ({ s with auth, creds }, if e = .duplicate then phoneRegistered else serverError)
    | (creds, .ok _) =>
      -- An error of the confirmation is logged only.
      ({ s with auth, creds := (creds.credConfirm (env.fault .confirm).isSome record.user .tel).1 },
        { status := 200, success := true, phoneLogin })
where
  /-- `UpsertCred`. -/
  upsertPhone : Credentials × Except StoreError Bool :=
    match env.fault .upsert with
    | some e => (s.creds, .error e)
    | none => s.creds.credUpsert false record.user .tel ("+" ++ phoneLogin) true

def handleLegacyPhoneMigration (call : MigrationCall) : MigrationState × MigrationReply :=
  match call.method with
  | .options => (s, { status := 204 })
  | .other => (s, refusal 405 "method not allowed")
  | .post =>
    match allow s.rates call.rateKey env.now with
    | (rates, false) => ({ s with rates }, refusal 429 "Слишком много попыток. Повторите позже.")
    | (rates, true) =>
      match call.body with
      | none => ({ s with rates }, refusal 400 "invalid request body")
      | some req =>
        match migrationTarget env s req with
        | .error reply => ({ s with rates }, reply)
        | .ok (phoneLogin, record) => migrate env { s with rates } phoneLogin record

end

end LastochkaServer.Source
