import LastochkaServer.Lib.Except
import LastochkaServer.Source.Credentials

/-!
# Reset of an authentication secret

`authSecretReset` (`server/session.go:995-1050`) and `ResetSecret` of the validators
(`server/validate/email/validate.go:313-351`, `server/validate/tel/validate.go:201-228`).

Left out: the languages and templates of the messages, of which only a failure is modelled.
-/

namespace LastochkaServer.Source

open Lib Auth

variable {lc : LetterCase} {k : CredMethod} {params name value : String} {t : Credentials}

/-- `unicode.ToLower`, of which only the restriction to ASCII is fixed here. -/
structure LetterCase where
  lower : Char → Char
  idem : ∀ c, lower (lower c) = lower c
  ascii : ∀ c, c.toNat < 128 → lower c = c.toLower

namespace LetterCase

def toLower (lc : LetterCase) (s : String) : String := String.ofList (s.toList.map lc.lower)

@[simp] theorem toLower_toList (lc : LetterCase) (s : String) :
    (lc.toLower s).toList = s.toList.map lc.lower := String.toList_ofList

@[simp] theorem toLower_toLower (lc : LetterCase) (s : String) :
    lc.toLower (lc.toLower s) = lc.toLower s := by
  have idem : lc.lower ∘ lc.lower = lc.lower := funext lc.idem
  rw [← String.toList_inj, toLower_toList, toLower_toList, List.map_map, idem]

end LetterCase

def getValidator (lc : LetterCase) (name : String) : Option CredMethod :=
  [CredMethod.email, .tel].find? fun m => lc.toLower name == m.name

theorem getValidator_lower (found : getValidator lc name = some k) :
    name.toList.map lc.lower = k.name.toList := by
  have same := List.find?_some found
  rw [← LetterCase.toLower_toList, beq_iff_eq.mp same]

/-- Only letters become the letters of a name. -/
theorem getValidator_named (found : getValidator lc name = some k) : NamesMethod name := by
  have lower := getValidator_lower found
  have letter {c d : Char} (mem : c ∈ name.toList) (ascii : d.toNat < 128)
      (other : d.toLower ∉ k.name.toList) : c ≠ d := by
    rintro rfl
    refine other ?_
    rw [← lower, ← lc.ascii c ascii]
    exact List.mem_map_of_mem mem
  constructor
  · intro c mem
    refine ⟨letter mem (by decide) ?_, letter mem (by decide) ?_, letter mem (by decide) ?_⟩ <;>
      cases k <;> decide
  · intro colon
    exact letter colon (by decide) (by cases k <;> decide) rfl
  · rw [← List.length_map lc.lower, lower]
    cases k <;> decide

/-- The configuration, and what may fail. -/
structure ResetEnv where
  /-- `GetLogicalAuthHandler(name) != nil`. -/
  handlers : String → Bool
  limit : Limit1
  lookupFails : Bool := false
  /-- `GetResetParams`. -/
  resetParams : String → Uid → Except StoreError Unit := fun _ _ => .ok ()
  /-- The authenticator of tokens, if it is there and initialized. -/
  token : Option TokenAuth
  now : Time := 0
  templateFails : Bool := false

structure ResetMail where
  address : String
  scheme : String
  token : List UInt8

/-- The address to which `ResetSecret` sends. -/
def resetAddress (lc : LetterCase) : CredMethod → String → String
  | .email, value => lc.toLower value
  | .tel, value => value

/-- The parts of `auth-method:credential-method:credential-value`; further parts are ignored. -/
def splitParams (params : String) : Option (String × String × String) :=
  match params.toList.splitOn ':' with
  | scheme :: method :: value :: _ => some (.ofList scheme, .ofList method, .ofList value)
  | _ => none

/-- The record of the token. -/
def resetRec (uid : Uid) (method value : String) : Rec :=
  { uid
    authLevel := levelAuth
    lifetime := 24 * hour
    features := featureNoLogin
    credential := method ++ ":" ++ value }

/-- `authSecretReset`; the result is the message sent, if any. -/
def authSecretReset (lc : LetterCase) (env : ResetEnv) (t : Credentials) (params : String) :
    Except StoreError (Option ResetMail) :=
  match splitParams params with
  | none => .error .malformed
  | some (scheme, method, value) =>
    if !env.handlers scheme then .error .unsupported
    else
      match getValidator lc method with
      | none => .error .unsupported
      | some validator => do
        let uid ← t.userGetByCredAll env.limit env.lookupFails method value
        if uid = 0 then return none
        else
          env.resetParams scheme uid
          match env.token with
          | none => throw .internal
          | some ta =>
            let token ← ta.genSecret env.now (resetRec uid method value)
            if env.templateFails then throw .internal
            else return some { address := resetAddress lc validator value, scheme, token }

/-- The validator, the name under which it was asked for, and the value. -/
def resetTarget (lc : LetterCase) (params : String) : Option (CredMethod × String × String) := do
  let (_, method, value) ← splitParams params
  let validator ← getValidator lc method
  return (validator, method, value)

theorem resetTarget_named {method : String}
    (target : resetTarget lc params = some (k, method, value)) :
    NamesMethod method := by
  obtain ⟨_, -, rest⟩ := Option.bind_eq_some_iff.mp target
  obtain ⟨_, validator, same⟩ := Option.bind_eq_some_iff.mp rest
  cases same
  exact getValidator_named validator

/-- A message goes out only for a credential that the lookup finds, with a token of its user. -/
theorem authSecretReset_sent {env : ResetEnv} {mail : ResetMail}
    (sent : authSecretReset lc env t params = .ok (some mail)) :
    ∃ k method value c, resetTarget lc params = some (k, method, value) ∧
      c ∈ t.candidates method value ∧ c.user ≠ 0 ∧ mail.address = resetAddress lc k value ∧
      (TokenLayout.read mail.token).uid = c.user := by
  unfold authSecretReset at sent
  cases parts : splitParams params with
  | none =>
    rw [parts] at sent
    cases sent
  | some p =>
    obtain ⟨scheme, method, value⟩ := p
    rw [parts] at sent
    dsimp only at sent
    split at sent
    · cases sent
    cases validator : getValidator lc method with
    | none =>
      rw [validator] at sent
      cases sent
    | some k =>
      rw [validator] at sent
      obtain ⟨uid, looked, sent⟩ := bind_ok sent
      split at sent
      · cases sent
      next user =>
      obtain ⟨-, -, sent⟩ := bind_ok sent
      cases handler : env.token with
      | none =>
        rw [handler] at sent
        cases sent
      | some ta =>
        rw [handler] at sent
        obtain ⟨token, generated, sent⟩ := bind_ok sent
        split at sent
        · cases sent
        cases sent
        have issued : token = ta.sign (ta.layout env.now (resetRec uid method value)) := by
          unfold TokenAuth.genSecret at generated
          split_ifs at generated
          cases generated
          rfl
        unfold Credentials.userGetByCredAll at looked
        split at looked
        · cases looked
        split at looked
        · cases looked
          exact absurd rfl user
        next c picked =>
        cases looked
        refine ⟨k, method, value, c,
          by simp [resetTarget, parts, validator], env.limit.mem _ _ picked, user, rfl, ?_⟩
        rw [issued, ← List.append_nil (ta.sign _), TokenAuth.read_sign]
        rfl

/-- The database happens to return `c` where it may. -/
def Limit1.preferring (c : Credential) : Limit1 where
  pick rows := if c ∈ rows then some c else rows.head?
  mem rows d picked := by
    split_ifs at picked with member
    · cases picked
      exact member
    · exact List.mem_of_mem_head? picked
  total rows picked := by
    split_ifs at picked
    exact List.head?_eq_none_iff.mp picked

theorem authSecretReset_sends {method : String} {c : Credential}
    (target : resetTarget lc params = some (k, method, value)) (mem : c ∈ t.candidates method value)
    (user : c.user ≠ 0) (ta : TokenAuth) :
    ∃ env mail, authSecretReset lc env t params = .ok (some mail) ∧
      mail.address = resetAddress lc k value ∧ (TokenLayout.read mail.token).uid = c.user := by
  obtain ⟨⟨scheme, method', value'⟩, parts, rest⟩ := Option.bind_eq_some_iff.mp target
  obtain ⟨k', validator, same⟩ := Option.bind_eq_some_iff.mp rest
  cases same
  let env : ResetEnv := { handlers := fun _ => true, limit := .preferring c, token := some ta }
  have looked : t.userGetByCredAll env.limit env.lookupFails method value = .ok c.user := by
    have picked : env.limit.pick (t.candidates method value) = some c := if_pos mem
    rw [Credentials.userGetByCredAll, if_neg (by simp [env]), picked]
  let token := ta.sign (ta.layout env.now (resetRec c.user method value))
  refine ⟨env, ⟨resetAddress lc k value, scheme, token⟩, ?_, rfl, ?_⟩
  · unfold authSecretReset
    rw [parts]
    dsimp only
    rw [if_neg (by simp [env]), validator]
    rw [looked]
    simp only [bind, Except.bind]
    rw [if_neg user]
    rfl
  · dsimp [token]
    rw [← List.append_nil (ta.sign _), TokenAuth.read_sign]
    rfl

end LastochkaServer.Source
