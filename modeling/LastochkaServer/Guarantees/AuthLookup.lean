import LastochkaServer.Source.Auth.Records

/-!
# Lookups of authentication records in both directions

`GetAuthUniqueRecord` finds the user of a name, `GetAuthRecord` the name of a user
(`server/store/store.go:335-363`). `lookups_inverse_iff` says for which tables and names the second
undoes the first.
-/

namespace LastochkaServer.Guarantees.AuthLookup

open Source Source.AuthRecords

variable {t : AuthRecords} {scheme unique : String}

/-- The record is of the scheme and under the name, with or without the scheme before it. -/
def Names (r : AuthRecord) (scheme unique : String) : Prop :=
  r.scheme = scheme ∧ (r.uname = scheme ++ ":" ++ unique ∨ r.uname = unique)

/-- A user is found only by the name of a record of the scheme, and then the name is found for the
user. -/
def Inverse (t : AuthRecords) (scheme unique : String) : Prop :=
  ∀ found, t.getAuthUniqueRecord none none scheme unique = .ok (some found) →
    (∃ r ∈ t.rows, r.user = found.user ∧ Names r scheme unique) ∧
      ∃ r, t.getAuthRecord found.user scheme = .ok r ∧ r.uname = unique

theorem secondPart_ne (unique : String) : secondPart unique ≠ some unique := by
  unfold secondPart
  intro same
  split at same
  · cases same
  next colon rest left =>
  have shorter := (List.takeWhile_sublist (l := rest) (· ≠ ':')).length_le
  have longer := (List.dropWhile_sublist (l := unique.toList) (· ≠ ':')).length_le
  have whole := congrArg (·.toList.length) (Option.some.inj same)
  rw [left, List.length_cons] at longer
  simp only [String.toList_ofList] at whole
  omega

theorem getAuthRecord_named {user : Uid}
    (found : ∃ r, t.getAuthRecord user scheme = .ok r ∧ r.uname = unique) :
    ∃ r, t.ofUser user scheme = some r ∧ secondPart r.uname = some unique := by
  obtain ⟨r, ran, rfl⟩ := found
  unfold getAuthRecord at ran
  split at ran
  · cases ran
  next record listed =>
  split at ran
  · cases ran
  · next part =>
    cases ran
    exact ⟨record, listed, part⟩

/-- The record that both lookups go through has its scheme before the name. -/
theorem Inverse.canonical (inverse : Inverse t scheme unique) {found : AuthRecord}
    (ran : t.getAuthUniqueRecord none none scheme unique = .ok (some found)) :
    ∃ r, t.authGetUniqueRecord (scheme ++ ":" ++ unique) = some r ∧ r.user = found.user ∧
      r.scheme = scheme ∧
      secondPart (scheme ++ ":" ++ unique) = some unique := by
  obtain ⟨⟨r, mem, user, kind, name⟩, again⟩ := inverse found ran
  obtain ⟨r', listed, part⟩ := getAuthRecord_named again
  have same : r' = r := Option.some.inj (listed.symm.trans (ofUser_iff.mpr ⟨mem, user, kind⟩))
  subst same
  rcases name with canonical | legacy
  · exact ⟨r', authGetUniqueRecord_iff.mpr ⟨mem, canonical⟩, user, kind, canonical ▸ part⟩
  · rw [legacy] at part
    exact absurd part (secondPart_ne unique)

/-- The lookups undo each other if and only if nobody is found, or the record found has the scheme
before its name, is of the scheme, and the name is all that stands between the first two colons. -/
theorem lookups_inverse_iff (t : AuthRecords) (scheme unique : String) :
    Inverse t scheme unique ↔
      match (t.authGetUniqueRecord (scheme ++ ":" ++ unique)).filter (·.user ≠ 0) with
      | some r => r.scheme = scheme ∧ secondPart (scheme ++ ":" ++ unique) = some unique
      | none => (t.authGetUniqueRecord unique).filter (·.user ≠ 0) = none := by
  cases first : (t.authGetUniqueRecord (scheme ++ ":" ++ unique)).filter (·.user ≠ 0) with
  | some r =>
    obtain ⟨listed, someone⟩ := Option.filter_eq_some_iff.mp first
    obtain ⟨member, name⟩ := authGetUniqueRecord_iff.mp listed
    have returned : t.getAuthUniqueRecord none none scheme unique = .ok (some r) := by
      unfold getAuthUniqueRecord
      rw [first]
    constructor
    · intro inverse
      obtain ⟨r', again, -, kind, part⟩ := inverse.canonical returned
      cases listed.symm.trans again
      exact ⟨kind, part⟩
    · rintro ⟨kind, part⟩ found same
      cases returned.symm.trans same
      refine ⟨⟨r, member, rfl, kind, .inl name⟩, { r with uname := unique }, ?_, rfl⟩
      rw [getAuthRecord, ofUser_iff.mpr ⟨member, rfl, kind⟩]
      simp [name, part]
  | none =>
    have returned : t.getAuthUniqueRecord none none scheme unique =
        .ok ((t.authGetUniqueRecord unique).filter (·.user ≠ 0)) := by
      unfold getAuthUniqueRecord
      rw [first]
    constructor
    · intro inverse
      cases second : (t.authGetUniqueRecord unique).filter (·.user ≠ 0) with
      | none => rfl
      | some found =>
        rw [second] at returned
        obtain ⟨r, listed, user, -⟩ := inverse.canonical returned
        have someone : found.user ≠ 0 := by simpa using (Option.filter_eq_some_iff.mp second).2
        rw [listed, Option.filter_some, if_pos (by simpa [user] using someone)] at first
        cases first
    · intro nobody found same
      rw [returned, nobody] at same
      cases same

/-- A record from before names had their scheme. -/
def legacy : AuthRecords :=
  ⟨[⟨"alice", 1, "basic", Auth.levelAuth, [], none⟩], by decide, by decide⟩

/-- The user of a legacy record is found, also under a scheme of which there is no record, but not
the name. -/
theorem legacy_not_inverse : ¬ Inverse legacy "basic" "alice" ∧ ¬ Inverse legacy "token" "alice" := by
  refine ⟨fun inverse => ?_, fun inverse => ?_⟩
  all_goals
    obtain ⟨r, listed, -⟩ := inverse.canonical rfl
    cases listed

end LastochkaServer.Guarantees.AuthLookup
