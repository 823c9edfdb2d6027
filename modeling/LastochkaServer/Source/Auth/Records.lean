import LastochkaServer.Source.Auth.Token

/-!
# Authentication records

The table `auth` of the PostgreSQL adapter (`server/db/postgres/adapter.go:396-408, 848-945`)
and its use in `server/store/store.go:335-377`. Names are unique, and a user has one record of a
scheme. A name is stored with its scheme; names without one remain from older versions.

A time of zero stands for no expiration, and a user id of zero for no record. Left out: the limits
on the lengths of columns.
-/

namespace LastochkaServer.Source

open Auth

structure AuthRecord where
  uname : String
  user : Uid
  scheme : String
  authLvl : Level
  secret : List UInt8
  expires : Option Time
  deriving DecidableEq

structure AuthRecords where
  rows : List AuthRecord
  unames : (rows.map (·.uname)).Nodup
  owners : (rows.map fun r => (r.user, r.scheme)).Nodup

namespace AuthRecords

def authGetUniqueRecord (t : AuthRecords) (unique : String) : Option AuthRecord :=
  t.rows.find? (·.uname = unique)

/-- `store.Users.GetAuthUniqueRecord`: the name with its scheme, or else the name as it is. -/
def getAuthUniqueRecord (t : AuthRecords) (fault plainFault : Option StoreError)
    (scheme unique : String) :
    Except StoreError (Option AuthRecord) :=
  match fault, (t.authGetUniqueRecord (scheme ++ ":" ++ unique)).filter (·.user ≠ 0) with
  | some e, _ => .error e
  | none, some found => .ok (some found)
  | none, none =>
    match plainFault with
    | some e => .error e
    | none => .ok ((t.authGetUniqueRecord unique).filter (·.user ≠ 0))

/-- The columns that `AuthUpdRecord` sets. -/
def updated (r : AuthRecord) (unique : String) (authLvl : Level) (secret : List UInt8)
    (expires : Option Time) :
    AuthRecord :=
  { r with
    authLvl
    uname := if unique = "" then r.uname else unique
    secret := if secret = [] then r.secret else secret
    expires := expires.or r.expires }

def updateRow (user : Uid) (scheme unique : String) (authLvl : Level) (secret : List UInt8)
    (expires : Option Time) (r : AuthRecord) : AuthRecord :=
  if r.user = user ∧ r.scheme = scheme then updated r unique authLvl secret expires else r

theorem updateRow_owner (user : Uid) (scheme unique : String) (authLvl : Level) (secret : List UInt8)
    (expires : Option Time) (r : AuthRecord) :
    ((updateRow user scheme unique authLvl secret expires r).user,
      (updateRow user scheme unique authLvl secret expires r).scheme) = (r.user, r.scheme) := by
  unfold updateRow updated
  split_ifs <;> rfl

/-- `AuthUpdRecord`. An error of the database other than a duplicate name is reported as no
record. -/
def authUpdRecord (t : AuthRecords) (fault : Option StoreError) (user : Uid) (scheme unique : String)
    (authLvl : Level) (secret : List UInt8) (expires : Option Time) :
    AuthRecords × Except StoreError Unit :=
  match fault with
  | some .duplicate => (t, .error .duplicate)
  | some _ => (t, .error .notFound)
  | none =>
    if free :
        ((t.rows.map (updateRow user scheme unique authLvl secret expires)).map (·.uname)).Nodup then
      if t.rows.any fun r => r.user = user ∧ r.scheme = scheme then
        ({ rows := t.rows.map (updateRow user scheme unique authLvl secret expires)
           unames := free
           owners := by
            rw [List.map_map]
            exact (List.map_congr_left fun r _ => updateRow_owner _ _ _ _ _ _ r) ▸ t.owners }, .ok ())
      else (t, .error .notFound)
    else (t, .error .duplicate)

/-- The record of a user. -/
def ofUser (t : AuthRecords) (user : Uid) (scheme : String) : Option AuthRecord :=
  t.rows.find? fun r => r.user = user ∧ r.scheme = scheme

/-- The second part of `strings.Split(uname, ":")`. -/
def secondPart (uname : String) : Option String :=
  match uname.toList.dropWhile (· ≠ ':') with
  | [] => none
  | _ :: rest => some (String.ofList (rest.takeWhile (· ≠ ':')))

/-- `store.Users.GetAuthRecord` with `AuthGetRecord`: the record under the name without its
scheme. -/
def getAuthRecord (t : AuthRecords) (user : Uid) (scheme : String) : Except StoreError AuthRecord :=
  match t.ofUser user scheme with
  | none => .error .notFound
  | some r =>
    match secondPart r.uname with
    | none => .error .internal
    | some unique => .ok { r with uname := unique }

/-- The name that a user logs in with by a password. -/
def login (t : AuthRecords) (user : Uid) : Option String := (t.ofUser user "basic").map (·.uname)

/-- The name can be given to the user: the user has a record of the scheme, and the name is not in
another record. -/
def Renames (t : AuthRecords) (user : Uid) (scheme unique : String) : Prop :=
  (∃ r ∈ t.rows, r.user = user ∧ r.scheme = scheme) ∧
    ∀ r ∈ t.rows, r.uname = unique → r.user = user ∧ r.scheme = scheme

section

variable {t : AuthRecords} {user : Uid} {scheme unique : String} {authLvl : Level}
  {secret : List UInt8} {expires : Option Time} {r : AuthRecord} {fault : Option StoreError}

theorem owner_unique {r' : AuthRecord} (first : r ∈ t.rows) (second : r' ∈ t.rows)
    (user : r.user = r'.user)
    (scheme : r.scheme = r'.scheme) : r = r' :=
  List.inj_on_of_nodup_map t.owners first second (Prod.ext user scheme)

theorem authGetUniqueRecord_iff :
    t.authGetUniqueRecord unique = some r ↔ r ∈ t.rows ∧ r.uname = unique := by
  constructor
  · intro found
    exact ⟨List.mem_of_find?_eq_some found, by simpa using List.find?_some found⟩
  · rintro ⟨mem, rfl⟩
    cases found : t.authGetUniqueRecord r.uname with
    | none => exact absurd (decide_eq_true rfl) (List.find?_eq_none.mp found r mem)
    | some other =>
      have same : other.uname = r.uname := by simpa using List.find?_some found
      rw [List.inj_on_of_nodup_map t.unames (List.mem_of_find?_eq_some found) mem same]

theorem ofUser_iff :
    t.ofUser user scheme = some r ↔ r ∈ t.rows ∧ r.user = user ∧ r.scheme = scheme := by
  constructor
  · intro found
    exact ⟨List.mem_of_find?_eq_some found, by simpa using List.find?_some found⟩
  · rintro ⟨mem, rfl, rfl⟩
    cases found : t.ofUser r.user r.scheme with
    | none => exact absurd (by simp) (List.find?_eq_none.mp found r mem)
    | some other =>
      have same : other.user = r.user ∧ other.scheme = r.scheme := by
        simpa using List.find?_some found
      rw [owner_unique (List.mem_of_find?_eq_some found) mem same.1 same.2]

theorem updateRow_uname (r : AuthRecord) (named : unique ≠ "") :
    (updateRow user scheme unique authLvl secret expires r).uname =
      if r.user = user ∧ r.scheme = scheme then unique else r.uname := by
  unfold updateRow
  split_ifs
  · rw [updated, if_neg named]
  · rfl

theorem unames_nodup_iff (named : unique ≠ "")
    (mem : ∃ r ∈ t.rows, r.user = user ∧ r.scheme = scheme) :
    ((t.rows.map (updateRow user scheme unique authLvl secret expires)).map (·.uname)).Nodup ↔
      ∀ r ∈ t.rows, r.uname = unique → r.user = user ∧ r.scheme = scheme := by
  obtain ⟨own, present, owned⟩ := mem
  rw [List.map_map]
  constructor
  · intro distinct r there same
    by_contra other
    have equal : r = own := by
      refine List.inj_on_of_nodup_map distinct there present ?_
      rw [Function.comp_apply, Function.comp_apply, updateRow_uname r named,
        updateRow_uname own named, if_neg other, if_pos owned, same]
    exact other (equal ▸ owned)
  · intro free
    refine List.Nodup.map_on (fun x first y second same => ?_) t.unames.of_map
    rw [Function.comp_apply, Function.comp_apply, updateRow_uname x named,
      updateRow_uname y named] at same
    split_ifs at same with xOwned yOwned yOwned
    · exact owner_unique first second (xOwned.1.trans yOwned.1.symm) (xOwned.2.trans yOwned.2.symm)
    · exact absurd (free y second same.symm) yOwned
    · exact absurd (free x first same) xOwned
    · exact List.inj_on_of_nodup_map t.unames first second same

theorem authUpdRecord_ok_iff (named : unique ≠ "") :
    (t.authUpdRecord fault user scheme unique authLvl secret expires).2 = .ok () ↔
      fault = none ∧ t.Renames user scheme unique := by
  unfold authUpdRecord Renames
  split
  · simp
  · simp
  simp only [true_and]
  by_cases mem : ∃ r ∈ t.rows, r.user = user ∧ r.scheme = scheme
  · have any : (t.rows.any fun r => r.user = user ∧ r.scheme = scheme) := by
      simpa [List.any_eq_true] using mem
    simp only [unames_nodup_iff named mem, any, if_true, and_iff_right mem]
    split_ifs with free
    · exact iff_of_true rfl free
    · exact iff_of_false (by simp) free
  · have missing : (t.rows.any fun r => r.user = user ∧ r.scheme = scheme) = false := by
      rw [List.any_eq_false]
      intro r present
      simpa using fun same other => mem ⟨r, present, same, other⟩
    simp only [missing, Bool.false_eq_true, if_false]
    refine iff_of_false ?_ fun both => mem both.1
    split_ifs <;> simp

theorem authUpdRecord_error
    (failed : (t.authUpdRecord fault user scheme unique authLvl secret expires).2 ≠ .ok ()) :
    (t.authUpdRecord fault user scheme unique authLvl secret expires).1 = t := by
  unfold authUpdRecord at failed ⊢
  split
  · rfl
  · rfl
  · split_ifs with free any
    · simp only [dif_pos free, if_pos any] at failed
      exact absurd rfl failed
    · rfl
    · rfl

theorem authUpdRecord_login (named : unique ≠ "")
    (updated : (t.authUpdRecord fault user "basic" unique authLvl secret expires).2 = .ok ())
    (u : Uid) :
    (t.authUpdRecord fault user "basic" unique authLvl secret expires).1.login u =
      if u = user then some unique else t.login u := by
  obtain ⟨rfl, ⟨own, present, owned⟩, -⟩ := (authUpdRecord_ok_iff named).mp updated
  have rows : (t.authUpdRecord none user "basic" unique authLvl secret expires).1.rows =
      t.rows.map (updateRow user "basic" unique authLvl secret expires) := by
    unfold authUpdRecord at updated ⊢
    split_ifs at updated ⊢
    rfl
  have owner : ∀ r, ((updateRow user "basic" unique authLvl secret expires r).user = u ∧
      (updateRow user "basic" unique authLvl secret expires r).scheme = "basic") ↔
      r.user = u ∧ r.scheme = "basic" := by
    intro r
    have same := Prod.mk.inj (updateRow_owner user "basic" unique authLvl secret expires r)
    rw [same.1, same.2]
  rw [login, login, ofUser, ofUser, rows, List.find?_map, Option.map_map]
  simp only [Function.comp_def, owner]
  by_cases mine : u = user
  · subst mine
    rw [if_pos rfl]
    cases found : t.rows.find? fun r => r.user = u ∧ r.scheme = "basic" with
    | none => exact absurd (by simpa using owned) (List.find?_eq_none.mp found own present)
    | some r =>
      have chosen := List.find?_some found
      rw [Option.map_some, updateRow_uname r named, if_pos (of_decide_eq_true chosen)]
  · rw [if_neg mine]
    cases found : t.rows.find? fun r => r.user = u ∧ r.scheme = "basic" with
    | none => rfl
    | some r =>
      have chosen : r.user = u ∧ r.scheme = "basic" := by simpa using List.find?_some found
      rw [Option.map_some, Option.map_some, updateRow_uname r named,
        if_neg fun same => mine (chosen.1.symm.trans same.1)]

end

end AuthRecords

end LastochkaServer.Source
