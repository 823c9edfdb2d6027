import LastochkaServer.Source.LegacyMigration
import LastochkaServer.Guarantees.InviteAccounting

/-!
# Migration to a telephone number is not atomic

The endpoint changes the login first and enters the credential next. A request that is answered with
an error leaves logins and credentials as they were, and one that is answered with success sets
both, in every case but one: the login has been changed when the credential cannot be entered.
-/

namespace LastochkaServer.Guarantees.LoginMigration

open Source Auth

variable (env : MigrationEnv) (s : MigrationState) (call : MigrationCall)

/-- An error leaves logins and credentials as they were. After a success the user with the legacy
login has the number as login and as a validated credential. -/
def AllOrNothing : Prop :=
  (400 ≤ (handleLegacyPhoneMigration env s call).2.status →
    (∀ u, (handleLegacyPhoneMigration env s call).1.auth.login u = s.auth.login u) ∧
      (handleLegacyPhoneMigration env s call).1.creds = s.creds) ∧
  ((handleLegacyPhoneMigration env s call).2.success →
    ∃ req record, call.body = some req ∧
      s.auth.getAuthUniqueRecord none none "basic" (env.unicode.lowerTrim req.legacyLogin) =
        .ok (some record) ∧
      (handleLegacyPhoneMigration env s call).1.auth.login record.user =
        some ("basic:" ++ normalizeRussianPhone env.unicode req.phone) ∧
      (handleLegacyPhoneMigration env s call).1.creds.Validated record.user .tel
        ("+" ++ normalizeRussianPhone env.unicode req.phone))

/-- The request passes the checks that come before the first write. -/
structure Acceptable (req : LegacyPhoneMigrationRequest) (record : AuthRecord) : Prop where
  named : env.unicode.lowerTrim req.legacyLogin ≠ ""
  secret : req.legacyPassword ≠ ""
  number : isValidRussianMobilePhone (normalizeRussianPhone env.unicode req.phone)
  unused : phoneCredentialExists env s (normalizeRussianPhone env.unicode req.phone) = .ok false
  found : s.auth.getAuthUniqueRecord (env.fault .record) (env.fault .recordPlain) "basic"
    (env.unicode.lowerTrim req.legacyLogin) = .ok (some record)
  current : ¬ ∃ expires ∈ record.expires, expires < env.now
  proved : env.passwordMatches record.secret req.legacyPassword
  free : ensurePhoneLoginIsFreeOrOwned env s (normalizeRussianPhone env.unicode req.phone)
    record.user = .ok ()

/-- The request is accepted, the login changes, and the credential cannot be entered. -/
def Stranded : Prop :=
  call.method = .post ∧ (allow s.rates call.rateKey env.now).2 ∧
    ∃ req record, call.body = some req ∧ Acceptable env s req record ∧ env.fault .update = none ∧
      s.auth.Renames record.user "basic" ("basic:" ++ normalizeRussianPhone env.unicode req.phone) ∧
      s.auth.login record.user ≠ some ("basic:" ++ normalizeRussianPhone env.unicode req.phone) ∧
      env.fault .upsert ≠ none

variable {env s call} {req : LegacyPhoneMigrationRequest} {record : AuthRecord} {phone : String}

theorem readForm_ok_iff {form : String × String} :
    readForm env req = .ok form ↔
      form = (env.unicode.lowerTrim req.legacyLogin, normalizeRussianPhone env.unicode req.phone) ∧
      env.unicode.lowerTrim req.legacyLogin ≠ "" ∧ req.legacyPassword ≠ "" ∧
      isValidRussianMobilePhone (normalizeRussianPhone env.unicode req.phone) := by
  have digits : isValidRussianMobilePhone (normalizeRussianPhone env.unicode req.phone) →
      normalizeRussianPhone env.unicode req.phone ≠ "" := by
    intro number none
    rw [none] at number
    exact absurd number (by decide)
  unfold readForm
  simp only []
  split_ifs with blank valid
  · simp only [false_iff]
    rintro ⟨-, named, secret, number⟩
    exact blank.elim named fun other => other.elim secret (digits number)
  · rw [not_or, not_or] at blank
    simp only [Except.ok.injEq, blank.1, blank.2.1, not_false_eq_true, and_true, valid, ne_eq]
    exact eq_comm
  · simp [valid]

theorem checkPhone_ok_iff :
    checkPhone env s phone = .ok () ↔ phoneCredentialExists env s phone = .ok false := by
  unfold checkPhone
  split
  · next failed => simp [failed]
  · next taken found =>
    cases taken <;> simp [found]

theorem proveLogin_ok_iff {legacyLogin password : String} :
    proveLogin env s legacyLogin password = .ok record ↔
      s.auth.getAuthUniqueRecord (env.fault .record) (env.fault .recordPlain) "basic" legacyLogin =
        .ok (some record) ∧
      (¬ ∃ expires ∈ record.expires, expires < env.now) ∧
      env.passwordMatches record.secret password := by
  unfold proveLogin
  split
  · next failed => simp [failed]
  · next absent => simp [absent]
  next other found =>
  simp only [found, Except.ok.injEq, Option.some.injEq]
  split_ifs with expired proved
  · simp only [false_iff]
    rintro ⟨rfl, current, -⟩
    exact current expired
  · simp only [Except.ok.injEq]
    constructor
    · rintro rfl
      exact ⟨rfl, expired, proved⟩
    · exact fun same => same.1
  · simp only [false_iff]
    rintro ⟨rfl, -, matched⟩
    exact proved matched

theorem checkLogin_ok_iff {owner : Uid} :
    Source.checkLogin env s phone owner = .ok () ↔ ensurePhoneLoginIsFreeOrOwned env s phone owner =
      .ok () := by
  unfold Source.checkLogin
  split
  · next failed => simp [failed]
  · next free => simp [free]

theorem migrationTarget_ok_iff :
    migrationTarget env s req = .ok (phone, record) ↔
      phone = normalizeRussianPhone env.unicode req.phone ∧ Acceptable env s req record := by
  constructor
  · intro passed
    obtain ⟨form, read, passed⟩ := Lib.bind_ok passed
    obtain ⟨rfl, named, secret, number⟩ := readForm_ok_iff.mp read
    obtain ⟨⟨⟩, unused, passed⟩ := Lib.bind_ok passed
    obtain ⟨found, proved, passed⟩ := Lib.bind_ok passed
    obtain ⟨⟨⟩, free, passed⟩ := Lib.bind_ok passed
    obtain ⟨rfl, rfl⟩ := Prod.mk.inj (Except.ok.inj passed)
    obtain ⟨looked, current, matched⟩ := proveLogin_ok_iff.mp proved
    exact ⟨rfl, named, secret, number, checkPhone_ok_iff.mp unused, looked, current, matched,
      checkLogin_ok_iff.mp free⟩
  · rintro ⟨rfl, named, secret, number, unused, found, current, proved, free⟩
    simp only [migrationTarget, readForm_ok_iff.mpr ⟨rfl, named, secret, number⟩,
      checkPhone_ok_iff.mpr unused,
      proveLogin_ok_iff.mpr ⟨found, current, proved⟩, checkLogin_ok_iff.mpr free, bind, Except.bind]
    rfl

/-- An answer with an error. -/
def IsError (reply : MigrationReply) : Prop := 400 ≤ reply.status ∧ reply.success = false

theorem refusal_isError {status : Nat} (error : String) (high : 400 ≤ status) :
    IsError (refusal status error) :=
  ⟨high, rfl⟩

theorem registered_or_failed_isError (p : Prop) [Decidable p] :
    IsError (if p then phoneRegistered else serverError) := by
  split_ifs
  all_goals exact refusal_isError _ (by decide)

theorem migrationTarget_error {reply : MigrationReply}
    (refused : migrationTarget env s req = .error reply) :
    IsError reply := by
  rcases Lib.bind_failure refused with read | ⟨form, -, refused⟩
  · unfold readForm at read
    simp only [] at read
    split_ifs at read
    · exact Except.error.inj read ▸ refusal_isError _ (by decide)
    · exact Except.error.inj read ▸ refusal_isError _ (by decide)
  rcases Lib.bind_failure refused with checked | ⟨⟨⟩, -, refused⟩
  · unfold checkPhone at checked
    split at checked
    · exact Except.error.inj checked ▸ refusal_isError _ (by decide)
    · split_ifs at checked
      exact Except.error.inj checked ▸ refusal_isError _ (by decide)
  rcases Lib.bind_failure refused with proved | ⟨found, -, refused⟩
  · unfold proveLogin at proved
    split at proved
    · refine Except.error.inj proved ▸ ?_
      split_ifs
      · exact refusal_isError _ (by decide)
      · exact refusal_isError _ (by decide)
    · exact Except.error.inj proved ▸ refusal_isError _ (by decide)
    · split_ifs at proved
      · exact Except.error.inj proved ▸ refusal_isError _ (by decide)
      · exact Except.error.inj proved ▸ refusal_isError _ (by decide)
  rcases Lib.bind_failure refused with checked | ⟨⟨⟩, -, refused⟩
  · unfold Source.checkLogin at checked
    split at checked
    · exact Except.error.inj checked ▸ registered_or_failed_isError _
    · cases checked
  · cases refused

/-- The number is free, so that only a failure of the store keeps the credential out. -/
theorem upsertPhone_free (record : AuthRecord)
    (unused : phoneCredentialExists env s phone = .ok false)
    (works : env.fault .upsert = none) :
    ∃ creds, migrate.upsertPhone env s phone record = (creds, .ok true) ∧
      creds.Validated record.user .tel ("+" ++ phone) := by
  have unlisted : s.creds.candidates "tel" ("+" ++ phone) = [] := by
    unfold phoneCredentialExists Credentials.userCredExists at unused
    cases looked : env.fault .credExists with
    | some e => simp [looked] at unused
    | none =>
      by_contra listed
      simp [looked, listed] at unused
  have free : s.creds.has (synthOf CredMethod.tel.name ("+" ++ phone)) = false := by
    rw [Credentials.has, List.any_eq_false]
    intro c mem same
    have found : c ∈ s.creds.candidates "tel" ("+" ++ phone) :=
      List.mem_filter.mpr ⟨mem, by simp only [Bool.or_eq_true]; exact .inl same⟩
    rw [unlisted] at found
    exact List.not_mem_nil found
  unfold migrate.upsertPhone
  rw [works]
  exact Credentials.credUpsert_validated "" free

theorem basicName_ne (phone : String) : "basic:" ++ phone ≠ "" := by
  intro same
  have text := congrArg String.toList same
  simp at text

/-- What the three writes lead to. -/
inductive Outcome (env : MigrationEnv) (s : MigrationState) (phone : String) (record : AuthRecord) :
    MigrationState × MigrationReply → Prop
  | refused {s' : MigrationState} {reply : MigrationReply}
      (kept : ¬ (env.fault .update = none ∧ s.auth.Renames record.user "basic" ("basic:" ++ phone)))
      (auth : s'.auth = s.auth) (creds : s'.creds = s.creds) (error : IsError reply) :
    Outcome env s phone record (s', reply)
  | stranded {s' : MigrationState} {reply : MigrationReply}
      (renamed : env.fault .update = none ∧ s.auth.Renames record.user "basic" ("basic:" ++ phone))
      (login : ∀ u, s'.auth.login u = if u = record.user then some ("basic:" ++ phone)
        else s.auth.login u)
      (fails : env.fault .upsert ≠ none) (creds : s'.creds = s.creds) (error : IsError reply) :
      Outcome env s phone record (s', reply)
  | migrated {s' : MigrationState} {reply : MigrationReply}
      (login : s'.auth.login record.user = some ("basic:" ++ phone))
      (works : env.fault .upsert = none)
      (creds : s'.creds.Validated record.user .tel ("+" ++ phone)) (ok : reply.status = 200) :
      Outcome env s phone record (s', reply)

theorem migrate_outcome (record : AuthRecord)
    (unused : phoneCredentialExists env s phone = .ok false) :
    Outcome env s phone record (migrate env s phone record) := by
  have renamed :
      (s.auth.authUpdRecord (env.fault .update) record.user "basic" ("basic:" ++ phone) record.authLvl
      record.secret record.expires).2 = .ok () ↔ _ :=
        AuthRecords.authUpdRecord_ok_iff (basicName_ne phone)
  unfold migrate
  split
  · next auth e updated =>
    rw [updated] at renamed
    have kept :
        (s.auth.authUpdRecord (env.fault .update) record.user "basic" ("basic:" ++ phone)
          record.authLvl
        record.secret record.expires).1 = s.auth :=
          AuthRecords.authUpdRecord_error (by rw [updated]; simp)
    rw [updated] at kept
    exact .refused (fun both => by simpa using renamed.mpr both) kept rfl
      (registered_or_failed_isError _)
  next auth updated =>
  have login := AuthRecords.authUpdRecord_login (basicName_ne phone) (congrArg Prod.snd updated)
  rw [updated] at renamed login
  cases fails : env.fault .upsert with
  | some e =>
    rw [migrate.upsertPhone, fails]
    exact .stranded (renamed.mp rfl) login (by simp [fails]) rfl (registered_or_failed_isError _)
  | none =>
    obtain ⟨creds, entered, validated⟩ := upsertPhone_free record unused fails
    rw [entered]
    exact .migrated (by rw [login, if_pos rfl]) fails
      (Credentials.credConfirm_validated _ validated) rfl

/-- What a request leads to: it is refused without a change, or acceptable and the writes follow. -/
inductive Handled (env : MigrationEnv) (s : MigrationState) (call : MigrationCall) :
    MigrationState × MigrationReply → Prop
  | refused {s' : MigrationState} {reply : MigrationReply}
      (unacceptable : ∀ req record, call.method = .post → (allow s.rates call.rateKey env.now).2 →
        call.body = some req → ¬ Acceptable env s req record)
      (auth : s'.auth = s.auth) (creds : s'.creds = s.creds) (fruitless : reply.success = false) :
      Handled env s call (s', reply)
  | accepted {req : LegacyPhoneMigrationRequest} {record : AuthRecord}
      {rates : String → Option EndpointRateState} (post : call.method = .post)
      (allowed : (allow s.rates call.rateKey env.now).2) (body : call.body = some req)
      (acceptable : Acceptable env s req record) :
      Handled env s call
        (migrate env { s with rates } (normalizeRussianPhone env.unicode req.phone) record)

theorem handle_cases (env : MigrationEnv) (s : MigrationState) (call : MigrationCall) :
    Handled env s call (handleLegacyPhoneMigration env s call) := by
  unfold handleLegacyPhoneMigration
  split
  · next method => exact .refused (fun _ _ post => by simp [method] at post) rfl rfl rfl
  · next method => exact .refused (fun _ _ post => by simp [method] at post) rfl rfl rfl
  next method =>
  split
  · next rates limited =>
    exact .refused (fun _ _ _ allowed => by simp [limited] at allowed) rfl rfl rfl
  next rates allowed =>
  split
  · next nobody => exact .refused (fun _ _ _ _ body => by simp [nobody] at body) rfl rfl rfl
  next req body =>
  split
  · next reply refused =>
    refine .refused (fun req' record _ _ body' acceptable => ?_) rfl rfl
      (migrationTarget_error refused).2
    obtain rfl := Option.some.inj (body.symm.trans body')
    rw [migrationTarget_ok_iff.mpr ⟨rfl, acceptable⟩] at refused
    cases refused
  · next phone record passed =>
    obtain ⟨rfl, acceptable⟩ := migrationTarget_ok_iff.mp passed
    exact .accepted method (by rw [allowed]) body acceptable

theorem getAuthUniqueRecord_faultless {t : AuthRecords} {fault plainFault : Option StoreError}
    {scheme unique : String}
    (found : t.getAuthUniqueRecord fault plainFault scheme unique = .ok (some record)) :
    t.getAuthUniqueRecord none none scheme unique = .ok (some record) := by
  unfold AuthRecords.getAuthUniqueRecord at found ⊢
  split at found
  · cases found
  · next canonical => rw [canonical]; exact found
  next canonical =>
  rw [canonical]
  split at found
  · cases found
  · exact found

/-- A request for migration is all or nothing just when it does not end between the two writes. -/
theorem migration_all_or_nothing (env : MigrationEnv) (s : MigrationState) (call : MigrationCall) :
    AllOrNothing env s call ↔ ¬ Stranded env s call := by
  unfold AllOrNothing
  have handled := handle_cases env s call
  generalize handleLegacyPhoneMigration env s call = result at handled
  cases handled with
  | refused unacceptable auth creds fruitless =>
    refine iff_of_true ⟨fun _ => ⟨fun u => by rw [auth], creds⟩, fun success => ?_⟩ ?_
    · exact absurd (success.symm.trans fruitless) (by simp)
    · rintro ⟨post, allowed, req, record, body, acceptable, -⟩
      exact unacceptable req record post allowed body acceptable
  | @accepted req record rates post allowed body acceptable =>
    have outcome := migrate_outcome (s := { s with rates }) record acceptable.unused
    generalize migrate env { s with rates } (normalizeRussianPhone env.unicode req.phone) record =
      result at outcome
    -- The request and the record of a stranded request are those at hand.
    have same : ∀ {req' record'}, call.body = some req' → Acceptable env s req' record' →
        req' = req ∧ record' = record := by
      intro req' record' body' acceptable'
      obtain rfl := Option.some.inj (body'.symm.trans body)
      exact ⟨rfl, Option.some.inj (Except.ok.inj (acceptable'.found.symm.trans acceptable.found))⟩
    cases outcome with
    | refused kept auth creds error =>
      refine iff_of_true ⟨fun _ => ⟨fun u => by rw [auth], creds⟩, fun success => ?_⟩ ?_
      · exact absurd (success.symm.trans error.2) (by simp)
      · rintro ⟨-, -, req', record', body', acceptable', works, renames, -⟩
        obtain ⟨rfl, rfl⟩ := same body' acceptable'
        exact kept ⟨works, renames⟩
    | @stranded s' reply renamed login fails creds error =>
      have unchanged : (∀ u, s'.auth.login u = s.auth.login u) ↔
          s.auth.login record.user =
          some ("basic:" ++ normalizeRussianPhone env.unicode req.phone) := by
        simp only [login]
        constructor
        · intro every
          exact ((every record.user).symm.trans (if_pos rfl))
        · intro already u
          split_ifs with mine
          · rw [mine, already]
          · rfl
      constructor
      · rintro ⟨atomic, -⟩ ⟨-, -, req', record', body', acceptable', -, -, different, -⟩
        obtain ⟨rfl, rfl⟩ := same body' acceptable'
        exact different (unchanged.mp (atomic error.1).1)
      · intro safe
        refine ⟨fun _ => ⟨unchanged.mpr ?_, creds⟩, fun success => ?_⟩
        · by_contra different
          exact safe
            ⟨post, allowed, req, record, body, acceptable, renamed.1, renamed.2, different, fails⟩
        · exact absurd (success.symm.trans error.2) (by simp)
    | migrated login works creds ok =>
      refine iff_of_true ⟨fun high => ?_, fun _ => ?_⟩ ?_
      · rw [ok] at high
        exact absurd high (by decide)
      · exact ⟨req, record, body, getAuthUniqueRecord_faultless acceptable.found, login, creds⟩
      · rintro ⟨-, -, -, -, -, -, -, -, -, fails⟩
        exact fails works

/-- Alice logs in by a name, and nobody has credentials. -/
def aliceByName : MigrationState where
  auth := ⟨[⟨"basic:alice", 1, "basic", levelAuth, [1], none⟩], by decide, by decide⟩
  creds := .empty
  rates _ := none

/-- The store fails when the credential is entered. -/
def upsertFails : MigrationEnv where
  unicode := InviteAccounting.ascii
  now := 0
  passwordMatches _ _ := true
  fault call := if call = .upsert then some .internal else none

def toPhone : MigrationCall := ⟨.post, "127.0.0.1", some ⟨"Alice", "secret", "+7 916 123-45-67"⟩⟩

/-- The answer is an error, and the login has been replaced by the number. -/
theorem login_changed_with_error :
    (handleLegacyPhoneMigration upsertFails aliceByName toPhone).2.status = 500 ∧
      aliceByName.auth.login 1 = some "basic:alice" ∧
      (handleLegacyPhoneMigration upsertFails aliceByName toPhone).1.auth.login 1 =
      some "basic:79161234567" ∧
      (handleLegacyPhoneMigration upsertFails aliceByName toPhone).1.creds.rows = [] := by
  decide

end LastochkaServer.Guarantees.LoginMigration
