import LastochkaServer.Source.Registration

/-!
# What a registration does

`replyCreateUser` taken apart: `checkAccount_ok` lists what the checks let through; a registration
succeeds just when every one of its steps does (`Accepted.reply`, `replyCreateUser_succeeds`). The
credentials that are left after the checks are those of `normalizeCredentials`, one for each method
that has a validator and a value in the request.
-/

namespace LastochkaServer.Source

open Lib

variable {creds : List Wire.MsgCredClient} {method : String} {checked : CheckedAccount}
  {env : AccountEnv} {db : AccountDb} {acc : NewAccount}

/-- The request names a credential of the method, with a value, and the method has a validator. -/
def Known (env : AccountEnv) (creds : List Wire.MsgCredClient) (method : String) : Prop :=
  method ∈ env.validators ∧ ∃ c ∈ creds, c.method = method ∧ c.value ≠ ""

/-- The credential has a configured method and, where one is required, a value. -/
def Acceptable (validators : GoMap String Validator) (valueRequired : Bool)
    (c : Wire.MsgCredClient) : Prop :=
  c.method ∈ validators ∧ (valueRequired = false ∨ c.value ≠ "")
  deriving Decidable

/-- An order in which a map of credentials is visited. -/
structure Visit where
  order : List Wire.MsgCredClient → List Wire.MsgCredClient
  perm : ∀ creds, (order creds).Perm creds

section

variable (validators : GoMap String Validator) (valueRequired : Bool) (visit : Visit)
  (creds : List Wire.MsgCredClient)

/-- The map that `normalizeCredentials` fills. -/
def credentialIndex : GoMap String Wire.MsgCredClient :=
  creds.foldl (fun index c => if Acceptable validators valueRequired c then index.insert c.method c
    else index) ∅

/-- `normalizeCredentials(creds, valueRequired)`. -/
def normalizedCredentials : List Wire.MsgCredClient :=
  visit.order ((credentialIndex validators valueRequired creds).entries.map (·.2))

theorem normalizeCredentials_eq (env : AccountEnv) :
    normalizeCredentials env creds =
      normalizedCredentials env.validators true ⟨env.visit, env.visit_perm⟩ creds := by
  simp [normalizeCredentials, normalizedCredentials, credentialIndex, Acceptable]

/-- The first acceptable credential of a method. -/
def firstCredential (creds : List Wire.MsgCredClient) (method : String) : Option Wire.MsgCredClient :=
  creds.find? fun c => Acceptable validators valueRequired c ∧ c.method = method

variable {validators valueRequired creds} in
theorem firstCredential_eq {c : Wire.MsgCredClient}
    (found : firstCredential validators valueRequired creds method = some c) :
    c ∈ creds ∧ Acceptable validators valueRequired c ∧ c.method = method := by
  have chosen := List.find?_some found
  exact ⟨List.mem_of_find?_eq_some found, of_decide_eq_true chosen⟩

theorem credentialIndex_lookup (method : String) :
    (credentialIndex validators valueRequired creds).lookup method =
    firstCredential validators valueRequired creds.reverse method :=
  GoMap.lookup_fill Wire.MsgCredClient.method (Acceptable validators valueRequired) creds method

/-- The last acceptable credential of a method is kept. -/
theorem mem_normalizedCredentials (c : Wire.MsgCredClient) :
    c ∈ normalizedCredentials validators valueRequired visit creds ↔
      firstCredential validators valueRequired creds.reverse c.method = some c := by
  rw [normalizedCredentials, (visit.perm _).mem_iff, List.mem_map]
  constructor
  · rintro ⟨⟨method, c⟩, entry, rfl⟩
    rw [GoMap.mem_entries_iff, credentialIndex_lookup] at entry
    rwa [← (firstCredential_eq entry).2.2] at entry
  · intro last
    exact ⟨⟨c.method, c⟩, (GoMap.mem_entries_iff ..).mpr ((credentialIndex_lookup ..).trans last),
      rfl⟩

theorem normalizedCredentials_nodup :
    ((normalizedCredentials validators valueRequired visit creds).map (·.method)).Nodup := by
  have keys : ((credentialIndex validators valueRequired creds).entries.map (·.2)).map (·.method) =
      (credentialIndex validators valueRequired creds).keys := by
    rw [List.map_map]
    refine List.map_congr_left fun entry mem => ?_
    have found := (GoMap.mem_entries_iff _ entry.1 entry.2).mp mem
    rw [credentialIndex_lookup] at found
    exact (firstCredential_eq found).2.2
  rw [normalizedCredentials, ((visit.perm _).map _).nodup_iff, keys]
  exact AList.keys_nodup _

end

theorem mem_normalizeCredentials :
    method ∈ (normalizeCredentials env creds).map (·.method) ↔ Known env creds method := by
  rw [normalizeCredentials_eq, List.mem_map]
  simp only [mem_normalizedCredentials]
  constructor
  · rintro ⟨c, kept, rfl⟩
    obtain ⟨mem, ⟨validated, value⟩, -⟩ := firstCredential_eq kept
    exact ⟨validated, c, List.mem_reverse.mp mem, rfl, value.resolve_left (by decide)⟩
  · rintro ⟨validated, c, mem, rfl, value⟩
    have found : (firstCredential env.validators true creds.reverse c.method).isSome :=
      List.find?_isSome.mpr
        ⟨c, List.mem_reverse.mpr mem, decide_eq_true ⟨⟨validated, .inr value⟩, rfl⟩⟩
    obtain ⟨last, found⟩ := Option.isSome_iff_exists.mp found
    have same := (firstCredential_eq found).2.2
    exact ⟨last, same.symm ▸ found, same⟩

theorem preCheckCredentials_methods {checked : List Wire.MsgCredClient} {tags : List String}
    (passed : preCheckCredentials env creds = .ok (checked, tags)) :
    checked.map (·.method) = creds.map (·.method) := by
  induction creds generalizing checked tags with
  | nil =>
    cases passed
    rfl
  | cons cr rest ih =>
    unfold preCheckCredentials at passed
    split at passed
    · obtain ⟨⟨creds', tags'⟩, passed', same⟩ := map_ok passed
      cases same
      simp [ih passed']
    · split at passed
      · cases passed
      · split at passed
        · cases passed
        next passed' =>
        dsimp only at passed
        split at passed
        · cases passed
          simp [ih passed']
        · cases passed
          simp [ih passed']

/-- The tags of the request, as they are taken. -/
def clientTags (env : AccountEnv) (acc : NewAccount) : List String :=
  (normalizeTags env.unicode env.maxTagCount acc.tags).getD []

/-- The tags that the account is created with. -/
def accountTags (env : AccountEnv) (acc : NewAccount) (credTags : List String) : List String :=
  (normalizeTags env.unicode env.maxTagCount
    (clientTags env acc ++ (buildProfileSearchTags env acc.profile ++ credTags))).getD []

/-- What a request has passed when its account is about to be created. -/
structure Checked (env : AccountEnv) (db : AccountDb) (acc : NewAccount)
    (checked : CheckedAccount) where
  credTags : List String
  handler : env.handlers acc.scheme = some checked.handler
  creds : preCheckCredentials env (normalizeCredentials env acc.creds) = .ok (checked.creds, credTags)
  tags : checked.user.tags = accountTags env acc credTags
  profile : checked.user.profile = acc.profile
  available : ∀ address, extractPublicAddress env acc.profile = some address →
    ensurePublicAddressAvailable env db address 0 = .ok ()

theorem checkAccount_ok (passed : checkAccount env db acc = .ok checked) :
    Nonempty (Checked env db acc checked) := by
  unfold checkAccount at passed
  dsimp only at passed
  split at passed
  · cases passed
  split at passed
  · cases passed
  next handler known =>
  split at passed
  · cases passed
  split at passed
  · cases passed
  split at passed
  · cases passed
  split at passed
  · cases passed
  obtain ⟨⟨creds, credTags⟩, preChecked, passed⟩ := bind_ok passed
  split at passed
  · next anonymous =>
    cases passed
    refine ⟨credTags, known, preChecked, rfl, rfl, fun address named => ?_⟩
    rw [anonymous] at named
    cases named
  next address named =>
  split at passed
  · cases passed
  next free =>
  cases passed
  refine ⟨credTags, known, preChecked, rfl, rfl, fun address' named' => ?_⟩
  rw [named] at named'
  cases named'
  exact free

theorem Checked.methods (c : Checked env db acc checked) :
    checked.creds.map (·.method) = (normalizeCredentials env acc.creds).map (·.method) :=
  preCheckCredentials_methods c.creds

/-- The tag of a credential: what its validator makes of it, if that adds tags. -/
def CredentialTag (env : AccountEnv) (cr : Wire.MsgCredClient) (raw : String) : Prop :=
  ∃ vld, env.validators.lookup cr.method = some vld ∧ vld.addToTags ∧ vld.preCheck cr = .ok raw ∧
    raw ≠ "" ∧
    (validateTag env.unicode raw).1 = cr.method ∧ (validateTag env.unicode raw).2 ≠ ""

/-- `buildInviteDerivedTags`. -/
def inviteDerivedTags (score : Nat) : List String :=
  "reg:invite" :: if score > 0 then ["reg:suspicious"] else []

/-- Consuming the invite leaves the accounts alone, records the score, and adds the tags. -/
theorem enforceInvite_ok {db' : AccountDb} {given : List String} {tags : Option (List String)}
    (consumed : enforceInviteForRegistration env db given checked = (db', .ok tags)) :
    db'.users = db.users ∧ ∃ row, db'.registrations.lookup env.newUid = some row ∧
      tags = normalizeTags env.unicode env.maxTagCount
        (checked.user.tags ++ inviteDerivedTags row.suspicionScore) := by
  unfold enforceInviteForRegistration at consumed
  dsimp only at consumed
  split at consumed
  · cases consumed
  split at consumed
  · cases consumed
  next db₁ score entered =>
  cases consumed
  unfold consumeInviteForRegistration at entered
  dsimp only at entered
  split at entered
  · cases entered
  split at entered
  · cases entered
  split at entered
  · cases entered
  split at entered
  · cases entered
  cases entered
  exact ⟨rfl, _, AList.lookup_insert _, rfl⟩

/-- The steps of a registration, up to the number of its credentials: the database and the tags
after the invite, what the authenticator answers, and what is validated. -/
structure Passed (env : AccountEnv) (db : AccountDb) (acc : NewAccount) where
  checked : CheckedAccount
  invited : AccountDb
  tags : Option (List String)
  record : Auth.Level × List String
  validated : List String × List String
  checks : checkAccount env db acc = .ok checked
  stored : env.fails .usersCreate = false
  consumed : enforceInviteForRegistration env
    { db with users := db.users.insert env.newUid checked.user }
    (normalizedInPlace env.unicode env.maxTagCount acc.tags) checked = (invited, .ok tags)
  recorded : checked.handler.addRecord = .ok record
  requested : requestCredentials env env.newUid record.2 checked.creds = .ok validated

/-- The steps of a registration that succeeds. -/
structure Accepted (env : AccountEnv) (db : AccountDb)
    (acc : NewAccount) extends Passed env db acc where
  enough : (env.authValidators record.1).length ≤ checked.creds.length

/-- The tags after the invite and what the authenticator and the validators add to them. -/
def Accepted.result (a : Accepted env db acc) : AccountDb :=
  let tagged := if env.fails .updateTags then a.invited else a.invited.resetTags env.newUid a.tags
  if env.fails .updateCredTags then tagged else tagged.addTags env.newUid a.validated.2

variable (a : Accepted env db acc)

theorem Accepted.reply :
    (replyCreateUser env db acc).1 = a.result ∧ (replyCreateUser env db acc).2.isError = false := by
  have stored : ¬ env.fails .usersCreate := by simp [a.stored]
  have enough : ¬ a.checked.creds.length < (env.authValidators a.record.1).length :=
    Nat.not_lt.mpr a.enough
  unfold replyCreateUser
  rw [a.checks]
  dsimp only
  rw [if_neg stored, a.consumed]
  dsimp [completeAccount]
  rw [a.recorded]
  dsimp only
  rw [if_neg enough, addCreds, a.requested]
  dsimp only
  split
  all_goals exact ⟨rfl, rfl⟩

theorem Accepted.result_registrations :
    a.result.registrations = a.invited.registrations := by
  unfold Accepted.result AccountDb.resetTags AccountDb.addTags
  dsimp only
  repeat' split
  all_goals rfl

theorem preCheckCredentials_error {reply : AccountReply}
    (refused : preCheckCredentials env creds = .error reply) : reply.isError := by
  induction creds with
  | nil => cases refused
  | cons cr rest ih =>
    unfold preCheckCredentials at refused
    split at refused
    · cases checked : preCheckCredentials env rest with
      | error e =>
        rw [checked] at refused
        cases refused
        exact ih checked
      | ok value =>
        rw [checked] at refused
        cases refused
    · split at refused
      · cases refused
        rfl
      · split at refused
        · next checked =>
          cases refused
          exact ih checked
        · dsimp only at refused
          split at refused
          · cases refused
          · cases refused

theorem checkAccount_error {reply : AccountReply} (refused : checkAccount env db acc = .error reply) :
    reply.isError := by
  unfold checkAccount at refused
  dsimp only at refused
  iterate 6
    split at refused
    · cases refused
      rfl
  cases preChecked : preCheckCredentials env (normalizeCredentials env acc.creds) with
  | error e =>
    rw [preChecked] at refused
    cases refused
    exact preCheckCredentials_error preChecked
  | ok value =>
    rw [preChecked] at refused
    split at refused
    · cases refused
    split at refused
    · cases refused
      rfl
    · cases refused

theorem replyCreateUser_succeeds (succeeds : (replyCreateUser env db acc).2.isError = false) :
    Nonempty (Accepted env db acc) := by
  unfold replyCreateUser at succeeds
  split at succeeds
  · next reply refused =>
    rw [checkAccount_error refused] at succeeds
    cases succeeds
  next checked checks =>
  split at succeeds
  · cases succeeds
  next stored =>
  dsimp only at succeeds
  split at succeeds
  · cases succeeds
  next invited tags consumed =>
  unfold completeAccount at succeeds
  dsimp only at succeeds
  split at succeeds
  · cases succeeds
  next level recTags recorded =>
  split at succeeds
  · cases succeeds
  next enough =>
  cases requested : requestCredentials env env.newUid recTags checked.creds with
  | error e =>
    rw [addCreds, requested] at succeeds
    cases succeeds
  | ok validated =>
    have stored : env.fails .usersCreate = false := Bool.not_eq_true _ ▸ stored
    exact ⟨⟨checked, invited, tags, (level, recTags), validated, checks, stored, consumed,
      recorded, requested⟩, Nat.not_lt.mp enough⟩

end LastochkaServer.Source
