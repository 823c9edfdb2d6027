import LastochkaServer.Guarantees.SecretReset
import LastochkaServer.Source.Registration

/-!
# Invites and the accounts that they were used for

A registration creates the account, consumes a use of the invite in a transaction of its own, and
deletes the account again if a later step fails. The consumed use is never given back: it matches
the accounts only if nothing fails after the transaction, or if the invite was refused and the
account could be deleted (`accounted_iff`). `failed_registration_consumes` is a registration without
the required credentials, which uses up an invite and leaves no account.
-/

namespace LastochkaServer.Guarantees.InviteAccounting

open Lib Lib.Run Source

variable {db db' : AccountDb} {checked : CheckedAccount} {uid v : Uid} {tags : List String}

variable (env : AccountEnv) (db : AccountDb) (acc : NewAccount)

/-- The code of the invite that the request names. -/
def codeOf : String :=
  env.upper (env.unicode.trimSpace
    (inviteCodeFromAccountCreate env (normalizedInPlace env.unicode env.maxTagCount acc.tags)))

def usesOf (db : AccountDb) (code : String) : Option Int := (db.invites.lookup code).map (·.useCount)

/-- The attempt is recorded: one more use, and a registration of the user. -/
def Recorded (db' : AccountDb) : Prop :=
  (∃ n, usesOf db (codeOf env acc) = some n ∧ usesOf db' (codeOf env acc) = some (n + 1)) ∧
    env.newUid ∈ db'.registrations

/-- The attempt has left no trace. -/
def Unrecorded (db' : AccountDb) : Prop :=
  (∀ code, usesOf db' code = usesOf db code) ∧ env.newUid ∉ db'.registrations

/-- The invite reflects the attempt just when the account exists, and an error consumes nothing. -/
structure Accounted (db' : AccountDb) (reply : AccountReply) : Prop where
  kept : env.newUid ∈ db'.users → Recorded env db acc db'
  dropped : env.newUid ∉ db'.users → Unrecorded env db db'
  error : reply.isError → Unrecorded env db db'

/-- The invite that the request names can be used. -/
def Usable : Prop :=
  inviteCodeFromAccountCreate env (normalizedInPlace env.unicode env.maxTagCount acc.tags) ≠ "" ∧
    env.fails .inviteTx = false ∧
    ∃ row, db.invites.lookup (codeOf env acc) = some row ∧
      row.refusal env.now (userId env.newUid) = none

/-- Nothing fails after the invite has been consumed: the authentication record is added, no
required credentials are missing, and the validators take all of them. -/
def Completes (checked : CheckedAccount) : Prop :=
  ∃ record, checked.handler.addRecord = .ok record ∧
    (env.authValidators record.1).length ≤ checked.creds.length ∧
    ∀ cr ∈ checked.creds, ∀ vld, (env.validators.lookup cr.method).filter (·.initialized) = some vld →
      ∃ isNew, vld.request env.newUid cr = .ok isNew

/-- The request is refused before an account is created, or it completes; where only the invite is
refused, the account can be deleted. -/
def Settles : Prop :=
  ∀ checked, checkAccount env db acc = .ok checked → env.fails .usersCreate = false →
    (Usable env db acc → Completes env checked) ∧
    (¬ Usable env db acc → env.fails .usersDelete = false)

variable {env db acc}

/-- The part of the database that is about invites. -/
def SameInvites (db db' : AccountDb) : Prop :=
  db'.invites = db.invites ∧ db'.registrations = db.registrations

theorem SameInvites.refl (db : AccountDb) : SameInvites db db := ⟨rfl, rfl⟩

theorem SameInvites.trans {db₁ db₂ db₃ : AccountDb} (first : SameInvites db₁ db₂)
    (second : SameInvites db₂ db₃) :
    SameInvites db₁ db₃ := ⟨second.1.trans first.1, second.2.trans first.2⟩

theorem SameInvites.usesOf (same : SameInvites db db') (code : String) :
    usesOf db' code = usesOf db code := by
  rw [InviteAccounting.usesOf, InviteAccounting.usesOf, same.1]

theorem deleteUser_same (env : AccountEnv) (db : AccountDb) : SameInvites db (db.deleteUser env) := by
  unfold AccountDb.deleteUser
  split_ifs <;> exact ⟨rfl, rfl⟩

theorem addCreds_same (env : AccountEnv) (db : AccountDb) (uid : Uid)
    (creds : List Wire.MsgCredClient) (tags : List String) :
    SameInvites db (addCreds env db uid creds tags).1 := by
  unfold addCreds
  split
  · exact .refl db
  · dsimp only
    split_ifs
    · exact .refl db
    · unfold AccountDb.addTags
      split <;> exact ⟨rfl, rfl⟩

theorem mem_resetTags {reset : Option (List String)} (present : v ∈ db.users) :
    v ∈ (db.resetTags uid reset).users := by
  unfold AccountDb.resetTags
  split
  · exact (AList.mem_insert _).mpr (.inr present)
  · exact present

theorem mem_addTags (present : v ∈ db.users) : v ∈ (db.addTags uid tags).users := by
  unfold AccountDb.addTags
  split
  · exact (AList.mem_insert _).mpr (.inr present)
  · exact present

theorem mem_addCreds {env : AccountEnv} {creds : List Wire.MsgCredClient} (present : v ∈ db.users) :
    v ∈ (addCreds env db uid creds tags).1.users := by
  unfold addCreds
  split
  · exact present
  · dsimp only
    split_ifs
    · exact present
    · exact mem_addTags present

theorem requestCredentials_returns_iff (env : AccountEnv) (uid : Uid) (tags : List String)
    (creds : List Wire.MsgCredClient) :
    (∃ res, requestCredentials env uid tags creds = .ok res) ↔
      ∀ cr ∈ creds, ∀ vld, (env.validators.lookup cr.method).filter (·.initialized) = some vld →
        ∃ isNew, vld.request uid cr = .ok isNew := by
  induction creds generalizing tags with
  | nil => exact iff_of_true ⟨_, rfl⟩ fun _ mem => by cases mem
  | cons cr rest ih =>
    rw [List.forall_mem_cons, requestCredentials]
    cases found : (env.validators.lookup cr.method).filter (·.initialized) with
    | none =>
      refine (ih tags).trans ⟨fun later => ⟨fun vld same => ?_, later⟩, And.right⟩
      cases same
    | some vld =>
      cases answer : vld.request uid cr with
      | error e =>
        refine iff_of_false (fun ⟨_, done⟩ => by simp [answer] at done) fun all => ?_
        obtain ⟨isNew, accepted⟩ := all.1 vld rfl
        rw [answer] at accepted
        cases accepted
      | ok isNew =>
        have taken : ∀ other, some vld = some other → ∃ isNew, other.request uid cr = .ok isNew := by
          intro other same
          cases same
          exact ⟨isNew, answer⟩
        rw [and_iff_right taken]
        have mapped (f : List String × List String → List String × List String) (tags : List String) :
            (∃ res, f <$> requestCredentials env uid tags rest = .ok res) ↔
              ∃ res, requestCredentials env uid tags rest = .ok res :=
          ⟨fun ⟨_, done⟩ => (map_ok done).imp fun _ => And.left,
            fun ⟨_, done⟩ => ⟨_, by rw [done]; rfl⟩⟩
        simp only [answer]
        split_ifs
        · exact (mapped _ _).trans (ih _)
        · exact (mapped _ _).trans (ih _)
        · exact ih tags

theorem completeAccount_same (db : AccountDb) (checked : CheckedAccount)
    (tags : Option (List String)) :
    SameInvites db (completeAccount env db acc checked tags).1 := by
  have tagged :
      SameInvites db (if env.fails .updateTags then db else db.resetTags env.newUid tags) := by
    split_ifs
    · exact .refl db
    · unfold AccountDb.resetTags
      split <;> exact ⟨rfl, rfl⟩
  refine tagged.trans ?_
  unfold completeAccount
  dsimp only
  generalize (if env.fails .updateTags then db else db.resetTags env.newUid tags) = db
  split
  · exact deleteUser_same env db
  next level recTags added =>
  have saved := addCreds_same env db env.newUid checked.creds recTags
  generalize addCreds env db env.newUid checked.creds recTags = res at saved
  obtain ⟨db', outcome⟩ := res
  cases outcome with
  | error e =>
    dsimp only
    split_ifs
    · exact deleteUser_same env db
    · exact saved.trans (deleteUser_same env db')
  | ok validated =>
    split_ifs
    · exact deleteUser_same env db
    · exact saved
    · exact saved

theorem addCreds_outcome (env : AccountEnv) (db : AccountDb) (uid : Uid)
    (creds : List Wire.MsgCredClient) (tags : List String) :
    (∃ validated, (addCreds env db uid creds tags).2 = .ok validated) ↔
      ∃ res, requestCredentials env uid tags creds = .ok res := by
  unfold addCreds
  cases requestCredentials env uid tags creds with
  | error e => exact iff_of_false (fun ⟨_, done⟩ => by cases done) fun ⟨_, done⟩ => by cases done
  | ok res => exact iff_of_true ⟨_, rfl⟩ ⟨_, rfl⟩

/-- The account stays, and the reply says so, just when nothing fails. -/
theorem completeAccount_outcome {tags : Option (List String)} (present : env.newUid ∈ db.users) :
    (Completes env checked ∧ (completeAccount env db acc checked tags).2.isError = false ∧
        env.newUid ∈ (completeAccount env db acc checked tags).1.users) ∨
      (¬ Completes env checked ∧ (completeAccount env db acc checked tags).2.isError) := by
  have present' :
      env.newUid ∈ (if env.fails .updateTags then db else db.resetTags env.newUid tags).users := by
    split_ifs
    · exact present
    · exact mem_resetTags present
  unfold completeAccount
  dsimp only
  generalize (if env.fails .updateTags then db else db.resetTags env.newUid tags) = db at present'
  cases added : checked.handler.addRecord with
  | error e =>
    refine .inr ⟨?_, rfl⟩
    rintro ⟨record, done, -⟩
    rw [added] at done
    cases done
  | ok record =>
    obtain ⟨level, recTags⟩ := record
    dsimp only
    by_cases missing : checked.creds.length < (env.authValidators level).length
    · rw [if_pos missing]
      refine .inr ⟨?_, rfl⟩
      rintro ⟨record, done, enough, -⟩
      rw [added] at done
      cases done
      exact absurd enough (Nat.not_le.mpr missing)
    · rw [if_neg missing]
      have requests := (addCreds_outcome env db env.newUid checked.creds recTags).trans
        (requestCredentials_returns_iff env env.newUid recTags checked.creds)
      have saved : env.newUid ∈ (addCreds env db env.newUid checked.creds recTags).1.users :=
        mem_addCreds present'
      generalize addCreds env db env.newUid checked.creds recTags = res at requests saved
      obtain ⟨db', outcome⟩ := res
      cases outcome with
      | error e =>
        refine .inr ⟨?_, rfl⟩
        rintro ⟨record, done, -, taken⟩
        obtain ⟨_, done⟩ := requests.mpr taken
        cases done
      | ok validated =>
        refine .inl
          ⟨⟨(level, recTags), added, Nat.not_lt.mp missing, requests.mp ⟨validated, rfl⟩⟩, ?_⟩
        split_ifs
        · exact ⟨rfl, saved⟩
        · exact ⟨rfl, saved⟩

/-- Where the invite cannot be used, nothing is written. -/
theorem consume_refused {code : String} (checked : CheckedAccount)
    (unusable : ¬ (env.fails .inviteTx = false ∧ ∃ row,
      db.invites.lookup (env.upper (env.unicode.trimSpace code)) = some row ∧
        row.refusal env.now (userId env.newUid) = none)) :
    ∃ err, consumeInviteForRegistration env db code checked = (db, .error err) := by
  unfold consumeInviteForRegistration
  cases fails : env.fails .inviteTx with
  | true => exact ⟨_, if_pos rfl⟩
  | false =>
    rw [if_neg Bool.false_ne_true]
    split
    · exact ⟨_, rfl⟩
    · next row found =>
      split
      · exact ⟨_, rfl⟩
      · next checks => exact absurd ⟨fails, row, found, checks⟩ unusable

theorem enforce_refused (checked : CheckedAccount) (unusable : ¬ Usable env db acc) :
    ∃ err, enforceInviteForRegistration env db
      (normalizedInPlace env.unicode env.maxTagCount acc.tags) checked =
      (db, .error err) := by
  unfold enforceInviteForRegistration
  by_cases named : inviteCodeFromAccountCreate env
    (normalizedInPlace env.unicode env.maxTagCount acc.tags) = ""
  · exact ⟨_, if_pos named⟩
  · obtain ⟨err, refused⟩ := consume_refused checked fun usable => unusable ⟨named, usable⟩
    rw [if_neg named, refused]
    exact ⟨_, rfl⟩

/-- Where it can be used, one use and the registration are recorded. -/
theorem enforce_consumed (checked : CheckedAccount) (usable : Usable env db acc)
    (fresh : env.newUid ∉ db.registrations) :
    ∃ row, db.invites.lookup (codeOf env acc) = some row ∧ ∃ tags,
      enforceInviteForRegistration env db (normalizedInPlace env.unicode env.maxTagCount acc.tags)
        checked =
        (db.consume env (codeOf env acc) row checked, .ok tags) := by
  obtain ⟨named, fails, row, found, checks⟩ := usable
  have consumed : consumeInviteForRegistration env db
      (inviteCodeFromAccountCreate env (normalizedInPlace env.unicode env.maxTagCount acc.tags))
        checked = (db.consume env (codeOf env acc) row checked,
          .ok ((suspicions env db row.inviterUserId checked).map (·.2)).sum) := by
    unfold codeOf at found ⊢
    simp only [consumeInviteForRegistration, fails, found, checks, Bool.false_eq_true, if_false,
      if_neg fresh]
  refine ⟨row, found, ?_⟩
  unfold enforceInviteForRegistration
  rw [if_neg named, consumed]
  exact ⟨_, rfl⟩

/-- The database with the account that is being registered. -/
def withUser (env : AccountEnv) (db : AccountDb) (checked : CheckedAccount) : AccountDb :=
  { db with users := db.users.insert env.newUid checked.user }

/-- The steps of `replyCreateUser` once the checks are passed and the account is created. -/
def afterCreation (env : AccountEnv) (db : AccountDb) (acc : NewAccount) (checked : CheckedAccount) :
    AccountDb × AccountReply :=
  match enforceInviteForRegistration env (withUser env db checked)
    (normalizedInPlace env.unicode env.maxTagCount acc.tags) checked with
  | (db, .error err) => (db.deleteUser env, .invite err)
  | (db, .ok tags) => completeAccount env db acc checked tags

theorem replyCreateUser_created (passed : checkAccount env db acc = .ok checked)
    (stored : env.fails .usersCreate = false) :
    replyCreateUser env db acc = afterCreation env db acc checked := by
  rw [replyCreateUser, passed]
  dsimp only
  rw [if_neg (by rw [stored]; exact Bool.false_ne_true)]
  rfl

theorem unrecorded_same (fresh : env.newUid ∉ db.registrations) (same : SameInvites db db') :
    Unrecorded env db db' := ⟨same.usesOf, same.2 ▸ fresh⟩

theorem consume_recorded {row : Invite} (found : db.invites.lookup (codeOf env acc) = some row)
    (same : SameInvites ((withUser env db checked).consume env (codeOf env acc) row checked) db') :
    Recorded env db acc db' := by
  refine ⟨⟨row.useCount, by rw [usesOf, found]; rfl, ?_⟩, ?_⟩
  · rw [same.usesOf, usesOf, AccountDb.consume]
    rw [AList.lookup_insert]
    rfl
  · rw [same.2]
    exact (AList.mem_insert _).mpr (.inl rfl)

theorem Recorded.not_unrecorded (recorded : Recorded env db acc db') : ¬ Unrecorded env db db' :=
  fun unrecorded => unrecorded.2 recorded.2

/-- A consumed invite matches the account only if nothing fails afterwards. -/
theorem accounted_consumed (usable : Usable env db acc) (fresh : env.newUid ∉ db.registrations) :
    Accounted env db acc (afterCreation env db acc checked).1 (afterCreation env db acc checked).2 ↔
      Completes env checked := by
  have usable' : Usable env (withUser env db checked) acc := usable
  obtain ⟨row, found, tags, consumed⟩ := enforce_consumed checked usable' fresh
  rw [afterCreation, consumed]
  have recorded : Recorded env db acc (completeAccount env
      ((withUser env db checked).consume env (codeOf env acc) row checked) acc checked tags).1 :=
    consume_recorded found (completeAccount_same _ checked tags)
  have present :
      env.newUid ∈ ((withUser env db checked).consume env (codeOf env acc) row checked).users :=
    (AList.mem_insert _).mpr (.inl rfl)
  rcases completeAccount_outcome present with ⟨completes, answered, stays⟩ | ⟨fails, answered⟩
  · refine iff_of_true ⟨fun _ => recorded, fun gone => absurd stays gone, fun error => ?_⟩ completes
    rw [answered] at error
    cases error
  · -- Whether the account could be deleted or not, an error was reported and the use stays consumed.
    exact iff_of_false (fun accounted => recorded.not_unrecorded (accounted.error answered)) fails

/-- A refused invite matches the account if that can be deleted. -/
theorem accounted_refused (unusable : ¬ Usable env db acc) (fresh : env.newUid ∉ db.registrations) :
    Accounted env db acc (afterCreation env db acc checked).1 (afterCreation env db acc checked).2 ↔
      env.fails .usersDelete = false := by
  have unusable' : ¬ Usable env (withUser env db checked) acc := unusable
  obtain ⟨err, refused⟩ := enforce_refused checked unusable'
  rw [afterCreation, refused]
  have unrecorded : Unrecorded env db ((withUser env db checked).deleteUser env) :=
    unrecorded_same fresh (deleteUser_same env (withUser env db checked))
  cases fails : env.fails .usersDelete with
  | true =>
    refine iff_of_false (fun accounted => ?_) Bool.true_eq_false.mp
    have stays : env.newUid ∈ ((withUser env db checked).deleteUser env).users := by
      rw [AccountDb.deleteUser, if_pos fails]
      exact (AList.mem_insert _).mpr (.inl rfl)
    exact (accounted.kept stays).not_unrecorded unrecorded
  | false =>
    have gone : env.newUid ∉ ((withUser env db checked).deleteUser env).users := by
      rw [AccountDb.deleteUser, if_neg (by rw [fails]; exact Bool.false_ne_true)]
      exact fun present => (AList.mem_erase.mp present).1 rfl
    exact iff_of_true ⟨fun present => absurd present gone, fun _ => unrecorded, fun _ => unrecorded⟩
      rfl

/-- The invites match the accounts just when the registration settles. -/
theorem accounted_iff (env : AccountEnv) (db : AccountDb) (acc : NewAccount)
    (new_user : env.newUid ∉ db.users)
    (fresh : env.newUid ∉ db.registrations) :
    Accounted env db acc (replyCreateUser env db acc).1 (replyCreateUser env db acc).2 ↔
      Settles env db acc := by
  have unchanged (reply : AccountReply) : Accounted env db acc db reply :=
    ⟨fun present => absurd present new_user, fun _ => unrecorded_same fresh (.refl db),
      fun _ => unrecorded_same fresh (.refl db)⟩
  cases passed : checkAccount env db acc with
  | error reply =>
    rw [replyCreateUser, passed]
    refine iff_of_true (unchanged reply) fun checked ok => ?_
    rw [passed] at ok
    cases ok
  | ok checked =>
    cases stored : env.fails .usersCreate with
    | true =>
      rw [replyCreateUser, passed]
      dsimp only
      rw [if_pos stored]
      refine iff_of_true (unchanged _) fun _ _ ok => ?_
      rw [stored] at ok
      cases ok
    | false =>
      have settles : Settles env db acc ↔ (Usable env db acc → Completes env checked) ∧
          (¬ Usable env db acc → env.fails .usersDelete = false) := by
        refine ⟨fun settled => settled checked passed stored, fun both checked' ok _ => ?_⟩
        rw [passed] at ok
        cases ok
        exact both
      rw [settles, replyCreateUser_created passed stored]
      by_cases usable : Usable env db acc
      · rw [accounted_consumed usable fresh]
        exact ⟨fun completes => ⟨fun _ => completes, absurd usable⟩, fun both => both.1 usable⟩
      · rw [accounted_refused usable fresh]
        exact ⟨fun deleted => ⟨fun used => absurd used usable, fun _ => deleted⟩,
          fun both => both.2 usable⟩

theorem asciiSpace_toLower (c : Char) : asciiSpace c.toLower = asciiSpace c := by
  unfold Char.toLower
  split
  · next upper =>
    have lower_bound : 65 ≤ c.val.toNat := upper.1
    simp only [asciiSpace, ← Char.toNat_val, beq_eq_decide, Char.ext_iff, ← UInt32.toNat_inj,
      UInt32.toNat_add]
    grind
  · rfl

/-- The characters of ASCII. -/
def ascii : Unicode :=
  { SecretReset.asciiCase with
    isSpace := asciiSpace
    isLetter := Char.isAlpha
    isDigit := Char.isDigit
    isNumber := Char.isDigit
    space_lower := asciiSpace_toLower
    space_ascii _ _ := rfl
    letter_ascii _ _ := rfl
    digit_ascii _ _ := rfl
    number_ascii _ _ := rfl }

/-- A server that requires an email address. -/
def requiringEmail : AccountEnv where
  unicode := ascii
  upper text := String.ofList (text.toList.map Char.toUpper)
  now := 0
  newUid := 1
  handlers scheme := if scheme =
    "basic" then some { isUnique := .ok (), addRecord := .ok (Auth.levelAuth, []) } else none
  authValidators _ := ["email"]

/-- An invite for one registration. -/
def invited : AccountDb :=
  { invites := (∅ : GoMap String Invite).insert "LETMEIN"
      { id := "1", inviterUserId := userId 7, maxUses := 1 } }

/-- A request that names the invite and no address. -/
def withoutEmail : NewAccount := { scheme := "basic", tags := ["invite:letmein"] }

/-- The registration fails and the account is deleted, but the invite is used up. -/
theorem failed_registration_consumes :
    let after := replyCreateUser requiringEmail invited withoutEmail
    after.2 = .missingCredentials ["email"] ∧ 1 ∉ after.1.users ∧
      usesOf invited "LETMEIN" = some 0 ∧ usesOf after.1 "LETMEIN" = some 1 ∧
      1 ∈ after.1.registrations ∧
      ¬ Accounted requiringEmail invited withoutEmail after.1 after.2 := by
  have answered :
      (replyCreateUser requiringEmail invited withoutEmail).2 = .missingCredentials ["email"] := by
    decide +kernel
  have registered : 1 ∈ (replyCreateUser requiringEmail invited withoutEmail).1.registrations := by
    decide +kernel
  refine ⟨answered,
    by decide +kernel, by decide +kernel, by decide +kernel, registered, fun accounted => ?_⟩
  exact (accounted.error (by rw [answered]; rfl)).2 registered

/-- A validator that takes every address. -/
def anyEmail : Validator where
  preCheck cr := .ok ("email:" ++ cr.value)
  request _ _ := .ok true

/-- The server with a validator of addresses. -/
def validatingEmail : AccountEnv :=
  { requiringEmail with validators := (∅ : GoMap String Validator).insert "email" anyEmail }

def withEmail : NewAccount :=
  { withoutEmail with creds := [{ method := "email", value := "al@x.org", response := "" }] }

/-- A registration with the address completes, and the invite and the account are both there. -/
theorem completed_registration_accounted :
    1 ∉ invited.users ∧ 1 ∉ invited.registrations ∧
      let after := replyCreateUser validatingEmail invited withEmail
      after.2 = .created 1 Auth.levelAuth ∧
        Accounted validatingEmail invited withEmail after.1 after.2 := by
  refine ⟨by decide, by decide, by decide +kernel, ?_⟩
  refine (accounted_iff validatingEmail invited withEmail (by decide) (by decide)).mpr
    fun checked passed _ => ?_
  have known : (checkAccount validatingEmail invited withEmail).toOption.map
      (fun c => (c.handler.addRecord.toOption, c.creds.map (·.method))) =
        some (some (Auth.levelAuth, []), ["email"]) := by decide +kernel
  rw [passed] at known
  have record : checked.handler.addRecord.toOption = some (Auth.levelAuth, []) :=
    congrArg Prod.fst (Option.some.inj known)
  have methods : checked.creds.map (·.method) = ["email"] := congrArg Prod.snd (Option.some.inj known)
  refine ⟨fun _ => ⟨(Auth.levelAuth, []), ?_, ?_, fun cr member vld found => ⟨true, ?_⟩⟩,
    fun _ => rfl⟩
  · cases added : checked.handler.addRecord with
    | error e => rw [added] at record; cases record
    | ok r => rw [added] at record; exact congrArg Except.ok (Option.some.inj record)
  · exact (congrArg List.length methods).ge.trans_eq (List.length_map _)
  · have method : cr.method = "email" := by
      have listed := List.mem_map_of_mem (f := fun cr : Wire.MsgCredClient => cr.method) member
      rwa [methods, List.mem_singleton] at listed
    rw [method] at found
    cases found
    rfl

end LastochkaServer.Guarantees.InviteAccounting
