import LastochkaServer.Source.Auth.Reset
import LastochkaServer.Source.CredentialRows

/-!
# Validators of credentials

`Request`, `Check` and `Remove` of the validators of emails and telephone numbers
(`server/validate/email/validate.go:248-394`, `server/validate/tel/validate.go:156-270`), which do
the same up to letter case in emails.

`Check` makes two calls to the store: it reads the active credential, and then either confirms it or
counts a failed attempt. Calls for one user may run at the same time, so the second part of the file
is about single calls to the store, in any order. Left out: generation of the code and of the
message, which may fail, and sending.
-/

namespace LastochkaServer.Source

/-- Configuration of a validator. -/
structure ValidatorConfig where
  maxRetries : Int
  debugResponse : String

/-- What `Check` does after it has read the credential. -/
inductive Verdict
  | refuse (e : StoreError)
  | confirm (value : String)
  | fail (value : String)
  deriving DecidableEq

/-- The response was compared with the code and differs from it. -/
def Verdict.wrong : Verdict → Bool
  | .fail _ => true
  | _ => false

namespace CredValidator

/-- `Request`; `code` is the new code, if it could be generated and put into a message. -/
def request (lc : LetterCase) (t : Credentials) (fails : Bool) (user : Uid) (method : CredMethod)
    (value resp : String) (code : Option String) : Credentials × Except StoreError Bool :=
  if resp ≠ "" then (t, .error .failed)
  else
    match code with
    | none => (t, .error .internal)
    | some code =>
      let value := match method with
        | .email => lc.toLower value
        | .tel => value
      t.credUpsert fails user method value false code

/-- The part of `Check` between the two calls to the store. -/
def judge (conf : ValidatorConfig) (cred : Option Credential) (resp : String) : Verdict :=
  match cred with
  | none => .refuse .notFound
  | some cred =>
    if conf.maxRetries < cred.retries then .refuse .policy
    else if resp = "" then .refuse .credentials
    -- Comparing with dummy response too.
    else if cred.resp = resp ∨ conf.debugResponse = resp then .confirm cred.value
    else .fail cred.value

/-- The second call to the store. An error in counting a failed attempt is ignored. -/
def settle (t : Credentials) (fails : Bool) (user : Uid) (method : CredMethod) :
    Verdict → Credentials × Except StoreError String
  | .refuse e => (t, .error e)
  | .confirm value =>
    let (t', result) := t.credConfirm fails user method
    (t', result.map fun _ => value)
  | .fail _ => (if fails then t else t.credFail user method, .error .credentials)

def remove (t : Credentials) (fails : Bool) (user : Uid) (method : CredMethod) (value : String) :
    Credentials × Except StoreError Unit :=
  t.credDel fails user (some method) value

def credGetAll (t : Credentials) (user : Uid) (method : String) (validatedOnly : Bool) :
    List Credential :=
  t.rows.filter fun c =>
    c.user == user && !c.deleted && (method == "" || c.method.name == method) &&
      (!validatedOnly || c.done)

/-- `deleteCred` (`server/user.go:780-844`): `required` are the methods required at the user's
level, and `updateTags` is what `UpdateTags` returns. -/
def deleteCred (lc : LetterCase) (t : Credentials) (required : List String) (readFails fails : Bool)
    (addToTags : Bool) (updateTags : Except StoreError (List String)) (user : Uid)
    (name value : String) :
    Credentials × Except StoreError (Option (List String)) :=
  match getValidator lc name with
  | none => (t, .error .malformed)
  | some method =>
    if value = "" then (t, .error .malformed)
    else if name ∈ required ∧ readFails then (t, .error .internal)
    else if name ∈ required ∧ ¬ ∃ cr ∈ credGetAll t user name false,
        (cr.done ∧ cr.value ≠ value) ∨ (!cr.done ∧ cr.value = value) then
      (t, .error .policy)
    else
      match remove t fails user method value with
      | (t', .ok ()) => (t', .ok (if addToTags then updateTags.toOption else none))
      | (t', .error .notFound) => (t', .ok none)
      | (t', .error e) => (t', .error e)

theorem judge_fail {conf : ValidatorConfig} {cred : Option Credential} {resp value : String}
    (wrong : judge conf cred resp = .fail value) :
    ∃ c, cred = some c ∧ c.value = value ∧ (c.retries : Int) ≤ conf.maxRetries := by
  unfold judge at wrong
  split at wrong
  · cases wrong
  · split_ifs at wrong with many
    injection wrong with same
    exact ⟨_, rfl, same, by omega⟩

end CredValidator

/-- The calls for one user: the table, the checks that have read their credential and not finished,
and the wrong responses that have been compared with the code of a credential, as long as it is not
validated. -/
structure Attempts where
  table : Credentials
  inFlight : List (CredMethod × Verdict)
  compared : List (CredMethod × String)

/-- One call to the store; `fails` says whether it fails. -/
inductive CredCall
  | request (method : CredMethod) (value resp : String) (code : Option String) (fails : Bool)
  | remove (method : CredMethod) (value : String) (fails : Bool)
  | read (method : CredMethod) (resp : String) (fails : Bool)
  | settle (index : Nat) (fails : Bool)
  deriving DecidableEq

namespace Attempts

variable (lc : LetterCase) (conf : CredMethod → ValidatorConfig) (user : Uid)

def begin (table : Credentials) : Attempts := ⟨table, [], []⟩

/-- A check has read the credential and compared the response. -/
def judged (s : Attempts) (method : CredMethod) : Verdict → Attempts
  | .refuse _ => s
  | .confirm value => { s with inFlight := (method, .confirm value) :: s.inFlight }
  | .fail value =>
    { s with
      inFlight := (method, .fail value) :: s.inFlight, compared := (method, value) :: s.compared }

/-- A check has made its second call. -/
def settled (s : Attempts) (index : Nat) (table : Credentials) : Attempts where
  table := table
  inFlight := s.inFlight.eraseIdx index
  compared := s.compared.filter fun (method, value) => ¬ table.Validated user method value

def step (s : Attempts) : CredCall → Attempts
  | .request method value resp code fails =>
    { s with table := (CredValidator.request lc s.table fails user method value resp code).1 }
  | .remove method value fails =>
    { s with table := (CredValidator.remove s.table fails user method value).1 }
  | .read method resp fails =>
    if fails then s
    else s.judged method (CredValidator.judge (conf method) (s.table.credGetActive user method) resp)
  | .settle index fails =>
    match s.inFlight[index]? with
    | none => s
    | some (method, verdict) =>
      s.settled user index (CredValidator.settle s.table fails user method verdict).1

end Attempts

end LastochkaServer.Source
