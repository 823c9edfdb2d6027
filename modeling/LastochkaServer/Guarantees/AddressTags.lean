import LastochkaServer.Guarantees.InviteAccounting
import LastochkaServer.Source.Profile

/-!
# The tag of a public address

A user is found by the address in the public value through a tag (`server/topic.go:2279-2413`). A
request that changes the public value moves the tag along with the address. A request that does not
change it is taken as one that removes the address, because the new address is read from the values
to be stored only: the tag is removed while the address stays (`tags_follow_iff`).
`private_note_removes_tag` is a user who writes a private note and is no longer found.
-/

namespace LastochkaServer.Guarantees.AddressTags

open Lib Source

variable {row : UserRow} {tag : String} {db : AccountDb} {uid : Uid}

/-- The tags of addresses that a user has. -/
def unameTags (db : AccountDb) (uid : Uid) : Finset String :=
  (((db.users.lookup uid).elim [] (·.tags)).filter (hasPrefix · "uname:")).toFinset

/-- The tag of an address, if there is one. -/
def addressTags (address : Option String) : Finset String := (address.map unameTag).toFinset

/-- From `s` to `s'` the tags have become those of the stored address; without a public value in the
request they are as they were. -/
def TagsFollow (env : AccountEnv) (s s' : Accounts) (uid : Uid) (desc : MeDesc) : Prop :=
  unameTags s'.db uid = addressTags (addressOf env (s'.rows uid).pub) ∧
    (desc.pub.isNull → unameTags s'.db uid = unameTags s.db uid)

variable (env : AccountEnv) (typesModeCP2P : AccessMode) (compressed : Fields → Option Doc)
  (fails : MeFaults) (s : Accounts) (t : MeValues) (r : MeRequest)

/-- The public value changes, and with it the address: the tags were right already if nothing is
done to them, and else there was no tag of a third address. -/
def Moved (before : Finset String) (old new : Option String) : Prop :=
  if old = new ∨ fails.updateTags then before = addressTags new
  else before ⊆ addressTags old ∪ addressTags new

/-- The public value stays: the tags were right already if nothing is done to them, and else they
are right without the tag of the address. -/
def Unchanged (before : Finset String) (old stored : Option String) (untouched : Bool) : Prop :=
  if old = none ∨ fails.updateTags then before = addressTags stored
  else before \ addressTags old = addressTags stored ∧ (untouched → Disjoint before (addressTags old))

/-- The tags before the request are such that it leaves the right ones. -/
def Follows (desc : MeDesc) : Prop :=
  match newPublic compressed t.pub desc.pub with
  | some pub => Moved fails (unameTags s.db r.asUid) (addressOf env t.pub) (addressOf env pub)
  | none =>
    Unchanged fails (unameTags s.db r.asUid) (addressOf env t.pub)
      (addressOf env (s.rows r.asUid).pub)
      desc.pub.isNull

variable {env typesModeCP2P compressed fails s t r}

theorem mem_addressTags {address : Option String} :
    tag ∈ addressTags address ↔ ∃ a, address = some a ∧ tag = unameTag a := by
  cases address with
  | none
  | some a => simp [addressTags]

theorem mem_unameTags (found : db.users.lookup uid = some row) :
    tag ∈ unameTags db uid ↔ tag ∈ row.tags ∧ hasPrefix tag "uname:" := by
  rw [unameTags, found, List.mem_toFinset, List.mem_filter, Option.elim_some]

theorem unameTags_changeTags (found : db.users.lookup uid = some row) (old new : Option String) :
    unameTags (db.changeTags uid (new.map unameTag).toList (old.map unameTag).toList) uid =
      (unameTags db uid ∪ addressTags new) \ addressTags old := by
  have changed :
      (db.changeTags uid (new.map unameTag).toList (old.map unameTag).toList).users.lookup uid =
      some { row with
        tags := (row.tags ∪ (new.map unameTag).toList).filter (· ∉ (old.map unameTag).toList) } := by
    rw [AccountDb.changeTags, found]
    exact AList.lookup_insert _
  ext tag
  rw [mem_unameTags changed, Finset.mem_sdiff, Finset.mem_union, mem_unameTags found]
  have listed (address : Option String) : tag ∈ (address.map unameTag).toList ↔
      tag ∈ addressTags address := by
    cases address <;> simp [addressTags]
  have uname {address : Option String} (mem : tag ∈ addressTags address) :
      hasPrefix tag "uname:" := by
    obtain ⟨a, -, rfl⟩ := mem_addressTags.mp mem
    exact hasPrefix_append _ _
  simp only [List.mem_filter, List.mem_union_iff, decide_eq_true_eq, listed]
  constructor
  · rintro ⟨⟨own | added, kept⟩, named⟩
    · exact ⟨.inl ⟨own, named⟩, kept⟩
    · exact ⟨.inr added, kept⟩
  · rintro ⟨⟨own, named⟩ | added, kept⟩
    · exact ⟨⟨.inl own, kept⟩, named⟩
    · exact ⟨⟨.inr added, kept⟩, uname added⟩

/-- The tags and the stored address after a request that succeeds. -/
theorem replied_tags (found : s.db.users.lookup r.asUid = some row) {desc : MeDesc}
    (given : r.desc = some desc) {s' : Accounts} {t' : MeValues}
    (replied : replySetDescMe env typesModeCP2P compressed fails s t r = (s', t', .noErr)) :
    let old := addressOf env t.pub
    let new := (newPublic compressed t.pub desc.pub).bind (addressOf env)
    unameTags s'.db r.asUid = (if old = new ∨ fails.updateTags then unameTags s.db r.asUid
        else (unameTags s.db r.asUid ∪ addressTags new) \ addressTags old) ∧
      (s'.rows r.asUid).pub = (newPublic compressed t.pub desc.pub).getD (s.rows r.asUid).pub := by
  obtain ⟨plan, stored, prepared, done, rfl⟩ := replySetDescMe_ok replied
  obtain ⟨desc', given', pub⟩ := prepared.desc
  rw [given] at given'
  cases given'
  have user := done.user row found
  have same : unameTags stored.db r.asUid = unameTags s.db r.asUid := by
    ext tag
    rw [mem_unameTags user, mem_unameTags found]
  have old := prepared.old
  have new : plan.newAddress = (newPublic compressed t.pub desc.pub).bind (addressOf env) := by
    rw [prepared.new, pub]
  dsimp only
  rw [← old, ← new, ← pub, ← done.pub, ← same]
  unfold syncTags
  split
  · exact ⟨rfl, rfl⟩
  · exact ⟨unameTags_changeTags user _ _, rfl⟩

theorem sdiff_eq_iff_subset {before old new : Finset String} (apart : Disjoint new old) :
    (before ∪ new) \ old = new ↔ before ⊆ old ∪ new := by
  constructor
  · intro equal tag mem
    by_cases removed : tag ∈ old
    · exact Finset.mem_union_left _ removed
    · apply Finset.mem_union_right
      rw [← equal]
      exact Finset.mem_sdiff.mpr ⟨Finset.mem_union_left _ mem, removed⟩
  · intro inside
    ext tag
    rw [Finset.mem_sdiff, Finset.mem_union]
    constructor
    · rintro ⟨mem | mem, kept⟩
      · exact (Finset.mem_union.mp (inside mem)).resolve_left kept
      · exact mem
    · intro mem
      exact ⟨.inr mem, Finset.disjoint_left.mp apart mem⟩

theorem addressTags_disjoint {old new : Option String} (differ : old ≠ new) :
    Disjoint (addressTags new) (addressTags old) := by
  rw [Finset.disjoint_left]
  intro tag inNew inOld
  obtain ⟨a, rfl, rfl⟩ := mem_addressTags.mp inNew
  obtain ⟨b, rfl, same⟩ := mem_addressTags.mp inOld
  exact differ (congrArg some (by simpa [unameTag] using same.symm))

theorem null_newPublic {dst src : Doc} (null : src.isNull) : newPublic compressed dst src = none := by
  cases src with
  | null => rfl
  | text _
  | other _
  | map _ => cases null

/-- After a request that succeeds the tags follow the address just when they were such that it
leaves the right ones. -/
theorem tags_follow_iff (env : AccountEnv) (typesModeCP2P : AccessMode)
    (compressed : Fields → Option Doc)
    (fails : MeFaults) (s s' : Accounts) (t t' : MeValues) (r : MeRequest) (desc : MeDesc)
    (user : r.asUid ∈ s.db.users) (given : r.desc = some desc)
    (replied : replySetDescMe env typesModeCP2P compressed fails s t r = (s', t', .noErr)) :
    TagsFollow env s s' r.asUid desc ↔ Follows env compressed fails s t r desc := by
  obtain ⟨row, found⟩ := Option.isSome_iff_exists.mp (AList.lookup_isSome.mpr user)
  obtain ⟨tags, pub⟩ := replied_tags found given replied
  unfold TagsFollow Follows
  rw [tags, pub]
  cases changed : newPublic compressed t.pub desc.pub with
  | some pub =>
    have touched : desc.pub.isNull ≠ true := by
      intro null
      rw [null_newPublic null] at changed
      cases changed
    dsimp [Moved]
    rw [and_iff_left fun null => absurd null touched]
    split
    · rfl
    · next moves => exact sdiff_eq_iff_subset (addressTags_disjoint (not_or.mp moves).1)
  | none =>
    have nothing : addressTags none = ∅ := rfl
    dsimp [Unchanged]
    rw [nothing, Finset.union_empty]
    split
    · exact and_iff_left fun _ => rfl
    · rw [Finset.sdiff_eq_self_iff_disjoint]

/-- The public value of a user with an address. -/
def named (address : String) : Doc := .map [("uname", .text address)]

def alice : MeValues := { pub := named "alice" }

/-- User 1 has the address and its tag. -/
def aliceStored : Accounts where
  db := {
    users := (∅ : GoMap Uid UserRow).insert 1
      { tags := ["uname:alice"], profile := profileOf (named "alice") } }
  rows _ := alice

def note : MeDesc := { priv := .text "call back" }

def writesNote : MeRequest := { asUid := 1, desc := some note }

/-- The note is stored, the address is kept, and its tag is gone. -/
theorem private_note_removes_tag :
    let env := InviteAccounting.requiringEmail
    let after :=
      replySetDescMe env AccessMode.modeCP2P (fun _ => none) {} aliceStored alice writesNote
    after.2.2 = .noErr ∧ addressOf env (after.1.rows 1).pub = some "alice" ∧
      unameTags aliceStored.db 1 = {"uname:alice"} ∧ unameTags after.1.db 1 = ∅ ∧
      ¬ TagsFollow env aliceStored after.1 1 note := by
  have removed :
      unameTags (replySetDescMe InviteAccounting.requiringEmail AccessMode.modeCP2P (fun _ => none) {}
      aliceStored alice writesNote).1.db 1 = ∅ := by decide +kernel
  have had : unameTags aliceStored.db 1 = {"uname:alice"} := by decide +kernel
  refine ⟨by decide +kernel, by decide +kernel, had, removed, ?_⟩
  intro follow
  have kept := follow.2 rfl
  exact Finset.singleton_ne_empty _ kept.symm

def newName : MeDesc := { pub := named "bob" }

def renames : MeRequest := { asUid := 1, desc := some newName }

def renamed : Accounts × MeValues × MeReply :=
  replySetDescMe InviteAccounting.requiringEmail AccessMode.modeCP2P (fun _ => none) {} aliceStored
    alice renames

theorem renamed_noErr : renamed.2.2 = .noErr := by decide +kernel

theorem renames_follows : Follows InviteAccounting.requiringEmail (fun _ => none) {} aliceStored
    alice renames newName := by
  show Moved _ _ _ _
  unfold Moved
  decide +kernel

/-- A new address takes the place of the old one. -/
theorem rename_moves_tag :
    renamed.2.2 = .noErr ∧
      TagsFollow InviteAccounting.requiringEmail aliceStored renamed.1 1 newName := by
  have replied : replySetDescMe InviteAccounting.requiringEmail AccessMode.modeCP2P (fun _ => none)
      {} aliceStored alice
      renames = (renamed.1, renamed.2.1, .noErr) := by
    rw [← renamed_noErr, renamed]
  exact ⟨renamed_noErr,
    (tags_follow_iff _ _ _ _ _ _ _ _ renames newName (by decide) rfl replied).mpr renames_follows⟩

end LastochkaServer.Guarantees.AddressTags
