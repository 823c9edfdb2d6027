import LastochkaServer.Guarantees.InviteAccounting
import LastochkaServer.Source.RegistrationOutcome

/-!
# Required credentials of a new account

A level of authentication may require credentials of some methods (`server/user.go:110-133,
226-241`). The registration compares their number with the number of credentials that it was given,
not the methods: as many credentials of other methods are taken in their place
(`required_supplied_iff`). `phone_in_place_of_email` is an account without the required address.
-/

namespace LastochkaServer.Guarantees.RequiredCredentials

open Lib Source

variable {env : AccountEnv} {db : AccountDb} {acc : NewAccount}

/-- The request has a value for the method. -/
def Supplied (acc : NewAccount) (method : String) : Prop :=
  ∃ c ∈ acc.creds, c.method = method ∧ c.value ≠ ""

/-- An account is created only with a credential for each method that its level requires. -/
def RequiredSupplied (env : AccountEnv) (db : AccountDb) (acc : NewAccount) : Prop :=
  (replyCreateUser env db acc).2.isError = false →
    ∀ handler record, env.handlers acc.scheme = some handler → handler.addRecord = .ok record →
      ∀ method ∈ env.authValidators record.1, Supplied acc method

/-- The different methods with a validator that the request has values for. -/
def suppliedMethods (env : AccountEnv) (acc : NewAccount) : Finset String :=
  ((acc.creds.filter fun c => c.method ∈ env.validators ∧ c.value ≠ "").map (·.method)).toFinset

/-- The methods of the request make up the number of the required ones, and one of these is not
among them. -/
def Substituted (env : AccountEnv) (acc : NewAccount) (required : List String) : Prop :=
  required.length ≤ (suppliedMethods env acc).card ∧ ∃ method ∈ required, ¬ Supplied acc method

theorem mem_suppliedMethods {method : String} :
    method ∈ suppliedMethods env acc ↔ Known env acc.creds method := by
  simp only [suppliedMethods, List.mem_toFinset, List.mem_map, List.mem_filter,
    decide_eq_true_eq, Known]
  constructor
  · rintro ⟨c, ⟨mem, validated, value⟩, rfl⟩
    exact ⟨validated, c, mem, rfl, value⟩
  · rintro ⟨validated, c, mem, rfl, value⟩
    exact ⟨c, ⟨mem, validated, value⟩, rfl⟩

/-- The number that is compared is the number of different methods. -/
theorem passed_length (p : Passed env db acc) :
    p.checked.creds.length = (suppliedMethods env acc).card := by
  obtain ⟨checked⟩ := checkAccount_ok p.checks
  have same : (p.checked.creds.map (·.method)).toFinset = suppliedMethods env acc := by
    ext method
    rw [List.mem_toFinset, checked.methods, mem_normalizeCredentials, mem_suppliedMethods]
  have distinct : (p.checked.creds.map (·.method)).Nodup := by
    rw [checked.methods]
    rw [normalizeCredentials_eq]
    exact normalizedCredentials_nodup ..
  rw [← same, List.toFinset_card_of_nodup distinct, List.length_map]

/-- An account has the required credentials unless all other steps pass and others stand in for
them. -/
theorem required_supplied_iff (env : AccountEnv) (db : AccountDb) (acc : NewAccount) :
    RequiredSupplied env db acc ↔
      ∀ p : Passed env db acc, ¬ Substituted env acc (env.authValidators p.record.1) := by
  constructor
  · rintro supplied p ⟨enough, method, required, missing⟩
    have accepted : Accepted env db acc := ⟨p, by rwa [passed_length p]⟩
    obtain ⟨checked⟩ := checkAccount_ok p.checks
    exact missing
      (supplied accepted.reply.2 p.checked.handler p.record checked.handler p.recorded
        method required)
  · intro unsubstituted succeeds handler record known recorded method required
    obtain ⟨a⟩ := replyCreateUser_succeeds succeeds
    obtain ⟨checked⟩ := checkAccount_ok a.checks
    have sameHandler : a.checked.handler = handler :=
      Option.some.inj (checked.handler.symm.trans known)
    have sameRecord : a.record = record := by
      have answered := a.recorded
      rw [sameHandler, recorded] at answered
      exact (Except.ok.inj answered).symm
    by_contra missing
    apply unsubstituted a.toPassed
    rw [sameRecord]
    refine ⟨?_, method, required, missing⟩
    rw [← passed_length a.toPassed, ← sameRecord]
    exact a.enough

def anyPhone : Validator where
  preCheck cr := .ok ("tel:" ++ cr.value)
  request _ _ := .ok true

/-- The server requires an address, and takes telephone numbers too. -/
def takingPhones : AccountEnv :=
  { InviteAccounting.validatingEmail with
    validators := InviteAccounting.validatingEmail.validators.insert "tel" anyPhone }

def withPhone : NewAccount :=
  { InviteAccounting.withoutEmail with creds := [{ method := "tel", value := "+15551234" }] }

/-- The account is created without an address. -/
theorem phone_in_place_of_email :
    (replyCreateUser takingPhones InviteAccounting.invited withPhone).2 = .created 1 Auth.levelAuth ∧
      takingPhones.authValidators Auth.levelAuth = ["email"] ∧ ¬ Supplied withPhone "email" ∧
      ¬ RequiredSupplied takingPhones InviteAccounting.invited withPhone := by
  have created : (replyCreateUser takingPhones InviteAccounting.invited withPhone).2 =
      .created 1 Auth.levelAuth := by
    decide +kernel
  have missing : ¬ Supplied withPhone "email" := by
    rintro ⟨c, member, named, -⟩
    rw [List.mem_singleton.mp member] at named
    exact absurd named (by decide)
  refine ⟨created, rfl, missing, fun supplied => missing ?_⟩
  exact supplied (by rw [created]; rfl) _ (Auth.levelAuth, []) rfl rfl "email"
    (List.mem_singleton.mpr rfl)

end LastochkaServer.Guarantees.RequiredCredentials
