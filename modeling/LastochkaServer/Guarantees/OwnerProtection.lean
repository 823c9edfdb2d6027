import LastochkaServer.Lib.Run
import LastochkaServer.Source.Topic.Requests

/-!
# What users other than the owner can do

The permission rules of a group topic (`docs/API.md`, "Access control") for everybody but its owner:
nobody else gives `O`, touches the owner's modes or deletes the owner's subscription. What users are
given on a request of their own is what they had, where leaving and coming back counts for nothing;
an approver adds the mode asked for, but not `D`. Only sharers and approvers act on other users, and
only approvers choose the mode given. The store may fail at any call.

One request of a non-owner does change the owner's modes, by design: the acceptance of a transfer,
for which the owner has given `O` to the user before.
-/

namespace LastochkaServer.Guarantees.OwnerProtection

open Lib Lib.Run Source Source.AccessMode

variable {a a' : Acl} {u : Uid} {g : Grant} {r : SubRequest} {fail : Faults}

/-- A group topic with an owner, whose default modes do not contain `O`. -/
structure Governed (a : Acl) : Prop where
  group : a.cat = .grp
  alive : ∀ u g, a.grants u = some g → g.deleted = false
  owner : ∃ g, a.grants a.owner = some g ∧ g.mode.isOwner ∧ g.reader = false
  accessAuth : a.accessAuth.isOwner = false
  accessAnon : a.accessAnon.isOwner = false

/-- The given mode of `u` contains `O`, in the cache or in a stored subscription, deleted or not: a
deleted one is restored when the user comes back. -/
def GivenOwner (a : Acl) (u : Uid) : Prop :=
  (∃ g, a.grants u = some g ∧ g.given.isOwner) ∨
    ∃ row, a.rows u = some row ∧ row.given.isOwner

/-- The user has been given `O` by the owner and asks for it. -/
def acceptsTransfer (a : Acl) (r : SubRequest) : Bool :=
  match requestedMode r.want, a.grants r.asUid with
  | .ok m, some g => m.isOwner && g.given.isOwner
  | _, _ => false

def accepts (a : Acl) : Request → Bool
  | .sub r => acceptsTransfer a r
  | .set r => r.target = r.asUid && acceptsTransfer a r.toSub
  | _ => false

/-- The mode given to a user before a request: the cached one; for a user who is not cached the one
of the stored subscription, deleted or not; and without one the default for the level. -/
def standing (a : Acl) (u : Uid) (lvl : AuthLevel) : AccessMode :=
  ((a.grants u).map (·.given)).getD (a.restored u lvl)

/-- The mode that a request names for its own user. -/
def asked : Request → Option AccessMode
  | .sub r => (requestedMode r.want).toOption
  | .set r => if r.target = r.asUid then (requestedMode r.mode).toOption else none
  | _ => none

def level : Request → AuthLevel
  | .sub r => r.asLvl
  | .set r => r.asLvl
  | _ => .none

/-- Users may be given what they had before. A cached approver who asks for `A` adds the mode asked
for, except `D` and without asking for `O`. -/
def Entitled (a : Acl) (u : Uid) (lvl : AuthLevel) (asked : Option AccessMode)
    (given : AccessMode) : Prop :=
  given = standing a u lvl ∨
    ∃ g m, a.grants u = some g ∧ g.given.isAdmin ∧ asked = some m ∧ m.isAdmin ∧
      m.isOwner = false ∧ given = g.given ||| (m &&& ~~~modeDelete)

/-- What a request may do to the given mode of its own user, in the cache and in the store. Somebody
who was not cached may also come in as a channel reader. -/
structure OwnRule (a a' : Acl) (u : Uid) (lvl : AuthLevel) (asked : Option AccessMode) : Prop where
  cached : ∀ g, a'.grants u = some g → Entitled a u lvl asked g.given ∨
    (a.grants u = none ∧ g.reader ∧ g.given = modeCChnReader)
  stored : ∀ row, a'.rows u = some row → Entitled a u lvl asked row.given ∨
    ∃ old, a.rows u = some old ∧ row.given = old.given

/-- What a request may do to another user. An approver sets the given mode of a subscriber, or
invites a stranger, with the mode that the request names, without `O`, and removes subscribers. A
sharer invites a stranger with the default mode, and may drop a banned channel reader from the
cache. Invited users want what they have wanted before, or what they allow by default. -/
inductive OtherRule (a a' : Acl) : Request → Uid → Prop
  | invited (r : SetSubRequest) (want given : AccessMode) (uncached : a.grants r.target = none)
      (sharer : a.Sharer r.asUid)
      (chosen : (a.Admin r.asUid ∧ requestedMode r.mode = .ok given ∧ given.isOwner = false) ∨
        (requestedMode r.mode = .ok modeUnset ∧ given = a.defaultFor .auth ||| modeJoin))
      (wanted : want = ((a.rows r.target).map (·.want)).getD (a.userAccess r.target &&& given))
      (cached : a'.grants r.target = some ⟨want, given, false, false⟩)
      (stored : a'.rows r.target = some ⟨want, given, true⟩) : OtherRule a a' (.set r) r.target
  | changed (r : SetSubRequest) (given : AccessMode) (g : Grant) (known : a.grants r.target = some g)
      (admin : a.Admin r.asUid) (asked : requestedMode r.mode = .ok given)
      (plain : given.isOwner = false)
      (cached : a'.grants r.target = some { g with given := given } ∨
        (a'.grants r.target = none ∧ g.reader ∧ given.isJoiner = false))
      (stored : a'.rows r.target = (a.rows r.target).map ({ · with given := given })) :
      OtherRule a a' (.set r) r.target
  | dropped (r : SetSubRequest) (g : Grant) (known : a.grants r.target = some g)
      (sharer : a.Sharer r.asUid) (reader : g.reader) (banned : g.given.isJoiner = false)
      (cached : a'.grants r.target = none) (stored : a'.rows r.target = a.rows r.target) :
      OtherRule a a' (.set r) r.target
  | removed (sess : Session) (asUid : Uid) (original : Addressing) (user : Uid) (g : Grant)
      (known : a.grants user = some g) (plain : g.mode.isOwner = false) (admin : a.Admin asUid)
      (cached : a'.grants user = none)
      (stored : a'.rows user = (a.rows user).map ({ · with active := false })) :
      OtherRule a a' (.del sess asUid original user) user

/-- What the permission rules allow a user who is not the owner. -/
structure Permitted (a a' : Acl) (r : Request) : Prop where
  owner : a'.owner = a.owner
  ownerGrant : a'.grants a.owner = a.grants a.owner
  ownerRow : a'.rows a.owner = a.rows a.owner
  noOwnershipGiven : ∀ u, GivenOwner a' u → GivenOwner a u
  noDeleterTaken : ∀ g, a'.grants r.actor = some g → g.given.isDeleter →
    (standing a r.actor (level r)).isDeleter
  noDeleterStored : ∀ row, a'.rows r.actor = some row → row.given.isDeleter →
    (standing a r.actor (level r)).isDeleter ∨
      ∃ old, a.rows r.actor = some old ∧ old.given.isDeleter
  own : OwnRule a a' r.actor (level r) (asked r)
  others : ∀ u, u ≠ r.actor →
    (a'.grants u = a.grants u ∧ a'.rows u = a.rows u) ∨ OtherRule a a' r u

/-- A request of a non-owner, other than an acceptance, changes the modes of one user, who is not
the owner and is given no `O`. -/
structure Local (a a' : Acl) (u : Uid) : Prop where
  notOwner : u ≠ a.owner
  only : Acl.ChangesOnly u a a'
  alive : ∀ g, a'.grants u = some g → g.deleted = false
  given : GivenOwner a' u → GivenOwner a u

section

variable {lvl : AuthLevel} {asked : Option AccessMode} {given : AccessMode}

theorem standing_cached (cached : a.grants u = some g) : standing a u lvl = g.given := by
  rw [standing, cached]
  rfl

theorem standing_uncached (uncached : a.grants u = none) : standing a u lvl = a.restored u lvl := by
  rw [standing, uncached]
  rfl

theorem Entitled.deleter (entitled : Entitled a u lvl asked given) (deleter : given.isDeleter) :
    (standing a u lvl).isDeleter := by
  rcases entitled with rfl | ⟨g, m, cached, -, -, -, -, rfl⟩
  · exact deleter
  · have stripped : (m &&& ~~~modeDelete).isDeleter = false := by
      have bit : (~~~modeDelete).getLsbD 6 = false := by decide
      rw [isDeleter_eq, BitVec.getLsbD_and, bit, Bool.and_false]
    rw [isDeleter_eq, BitVec.getLsbD_or, ← isDeleter_eq, ← isDeleter_eq, stripped,
      Bool.or_false] at deleter
    rwa [standing_cached cached]

theorem OwnRule.noDeleter (rule : OwnRule a a' u lvl asked) (cached : a'.grants u = some g)
    (deleter : g.given.isDeleter) : (standing a u lvl).isDeleter := by
  rcases rule.cached g cached with entitled | ⟨-, -, reader⟩
  · exact entitled.deleter deleter
  · rw [reader] at deleter
    exact absurd deleter (by decide)

theorem OwnRule.noDeleterRow (rule : OwnRule a a' u lvl asked) {row : RowGrant}
    (stored : a'.rows u = some row) (deleter : row.given.isDeleter) :
    (standing a u lvl).isDeleter ∨ ∃ old, a.rows u = some old ∧ old.given.isDeleter := by
  rcases rule.stored row stored with entitled | ⟨old, found, same⟩
  · exact .inl (entitled.deleter deleter)
  · exact .inr ⟨old, found, same ▸ deleter⟩

theorem OwnRule.same (grants : a'.grants u = a.grants u) (rows : a'.rows u = a.rows u) :
    OwnRule a a' u lvl asked where
  cached _ cached := by
    rw [grants] at cached
    exact .inl (.inl (standing_cached cached).symm)
  stored row stored := .inr ⟨row, rows ▸ stored, rfl⟩

theorem OwnRule.gone (uncached : a'.grants u = none)
    (rows : (a'.rows u).map (·.given) = (a.rows u).map (·.given)) : OwnRule a a' u lvl asked where
  cached _ cached := by
    rw [uncached] at cached
    cases cached
  stored row stored := by
    rw [stored, Option.map_some] at rows
    obtain ⟨old, found, same⟩ := Option.map_eq_some_iff.mp rows.symm
    exact .inr ⟨old, found, same.symm⟩

end

theorem Local.permitted {r : Request} (change : Local a a' u)
    (own : u = r.actor → OwnRule a a' r.actor (level r) (asked r))
    (other : u ≠ r.actor → OtherRule a a' r u) : Permitted a a' r := by
  have own : OwnRule a a' r.actor (level r) (asked r) := by
    by_cases self : u = r.actor
    · exact own self
    · exact .same (change.only.grants _ (Ne.symm self)) (change.only.rows _ (Ne.symm self))
  refine
    { owner := change.only.owner
      ownerGrant := change.only.grants _ (Ne.symm change.notOwner)
      ownerRow := change.only.rows _ (Ne.symm change.notOwner)
      noOwnershipGiven := ?_
      noDeleterTaken := fun _ cached => own.noDeleter cached
      noDeleterStored := fun _ stored => own.noDeleterRow stored
      own := own
      others := ?_ }
  · intro v given
    by_cases same : v = u
    · subst same
      exact change.given given
    · unfold GivenOwner at given ⊢
      rwa [change.only.grants v same, change.only.rows v same] at given
  · intro v stranger
    by_cases same : v = u
    · subst same
      exact .inr (other stranger)
    · exact .inl ⟨change.only.grants v same, change.only.rows v same⟩

theorem permitted_refl (a : Acl) (r : Request) : Permitted a a r where
  owner := rfl
  ownerGrant := rfl
  ownerRow := rfl
  noOwnershipGiven _ given := given
  noDeleterTaken _ cached deleter := by rwa [standing_cached cached]
  noDeleterStored row stored deleter := .inr ⟨row, stored, deleter⟩
  own := .same rfl rfl
  others _ _ := .inl ⟨rfl, rfl⟩

theorem Local.governed (change : Local a a' u) (before : Governed a) : Governed a' where
  group := change.only.cat.trans before.group
  alive v g cached := by
    by_cases same : v = u
    · subst same
      exact change.alive g cached
    · rw [change.only.grants v same] at cached
      exact before.alive v g cached
  owner := by
    rw [change.only.owner, change.only.grants _ (Ne.symm change.notOwner)]
    exact before.owner
  accessAuth := by
    rw [change.only.accessAuth]
    exact before.accessAuth
  accessAnon := by
    rw [change.only.accessAnon]
    exact before.accessAnon

section

variable {b : Acl} (stranger : u ≠ a.owner) (only : Acl.ChangesOnly u a b)
  (rows : ∀ row, b.rows u = some row → row.given.isOwner → GivenOwner a u)
include stranger only rows

theorem Local.entered (alive : g.deleted = false)
    (given : g.given.isOwner → GivenOwner a u) : Local a (b.put u g) u where
  notOwner := stranger
  only := only.trans (.put _)
  alive _ cached := by
    rw [Acl.put_grants] at cached
    cases cached
    exact alive
  given := by
    rintro (⟨g, cached, owner⟩ | ⟨row, stored, owner⟩)
    · rw [Acl.put_grants] at cached
      cases cached
      exact given owner
    · exact rows row stored owner

theorem Local.dropped : Local a (b.drop u) u where
  notOwner := stranger
  only := only.trans .drop
  alive := by simp
  given := by
    rintro (⟨g, cached, -⟩ | ⟨row, stored, owner⟩)
    · simp at cached
    · exact rows row stored owner

end

theorem Governed.default_plain (gov : Governed a) (lvl : AuthLevel) :
    (a.defaultFor lvl).isOwner = false := by
  cases lvl with
  | none => exact (by decide : modeNone.isOwner = false)
  | anon => exact gov.accessAnon
  | auth => exact gov.accessAuth
  | root => exact (by decide : modeCPublic.isOwner = false)

theorem Governed.owner_not_reader (gov : Governed a) (cached : a.grants u = some g)
    (reader : g.reader) : u ≠ a.owner := by
  rintro rfl
  obtain ⟨g', cached', -, subscriber⟩ := gov.owner
  rw [cached] at cached'
  cases cached'
  rw [reader] at subscriber
  cases subscriber

/-- A subscriber's request that accepts no transfer keeps the given mode, or is an approver's, who
asks for no `O`. -/
theorem updatedModes_given {m want given : AccessMode} {ownerChange : Bool}
    (modes : UpdatedModes a r m g want given ownerChange)
    (refused : (m.isOwner && g.given.isOwner) = false) :
    ownerChange = false ∧
      (given = g.given ∨ (g.given.isAdmin ∧ m.isAdmin ∧ m.isOwner = false ∧
        given = g.given ||| (m &&& ~~~modeDelete))) := by
  cases modes with
  | unchanged
  | unbanned => exact ⟨rfl, .inl rfl⟩
  | owner given explicit offered keeps raised =>
    rw [offered, Bool.and_true] at refused
    refine ⟨by rw [refused, Bool.false_and], .inl ?_⟩
    rcases raised with same | ⟨asks, -⟩
    · exact same
    · rw [refused] at asks
      cases asks
  | member given explicit plain asks other raised =>
    refine ⟨rfl, raised.imp_right ?_⟩
    rintro ⟨admin, asked, raised⟩
    exact ⟨admin, asked, asks, raised⟩

/-- What a returning user is given contains `O` only if the stored subscription did. -/
theorem Governed.restored_plain (gov : Governed a) {lvl : AuthLevel}
    (owner : (a.restored u lvl).isOwner) : GivenOwner a u := by
  unfold Acl.restored Acl.orDefault at owner
  split_ifs at owner
  · rw [gov.default_plain] at owner
    cases owner
  · cases stored : a.rows u with
    | none =>
      rw [stored] at owner
      exact absurd owner (by decide)
    | some row =>
      rw [stored] at owner
      exact .inr ⟨row, stored, owner⟩

theorem enroll_stored {want given : AccessMode} {row : RowGrant}
    (stored : (a.enroll u want given).rows u = some row) :
    a.rows u = some row ∨ row.given = given := by
  unfold Acl.enroll at stored
  split_ifs at stored
  · exact .inl stored
  · rw [Acl.storeRow_rows] at stored
    cases stored
    exact .inr rfl

theorem saveModes_stored {want given : AccessMode} {row : RowGrant}
    (stored : (a.saveModes u g want given).rows u = some row) :
    row.given = given ∨ ∃ old, a.rows u = some old ∧ row.given = old.given := by
  rw [Acl.saveModes_rows] at stored
  obtain ⟨old, found, rfl⟩ := Option.map_eq_some_iff.mp stored
  dsimp only
  split_ifs
  · exact .inl rfl
  · exact .inr ⟨old, found, rfl⟩

theorem joined_local (gov : Governed a) (stranger : u ≠ a.owner) (lvl : AuthLevel)
    (asked : Option AccessMode) (want : AccessMode) (uncached : a.grants u = none) :
    let a' := (a.enroll u want (a.restored u lvl)).put u ⟨want, a.restored u lvl, false, false⟩
    Local a a' u ∧ OwnRule a a' u lvl asked := by
  have entitled : Entitled a u lvl asked (a.restored u lvl) := .inl (standing_uncached uncached).symm
  refine ⟨.entered stranger (.enroll _ _) (fun row stored owner => ?_) rfl gov.restored_plain, ?_, ?_⟩
  · rcases enroll_stored stored with found | given
    · exact .inr ⟨row, found, owner⟩
    · exact gov.restored_plain (given ▸ owner)
  · intro g cached
    rw [Acl.put_grants] at cached
    cases cached
    exact .inl entitled
  · intro row stored
    rcases enroll_stored stored with found | given
    · exact .inr ⟨row, found, rfl⟩
    · exact .inl (given ▸ entitled)

theorem updated_local (gov : Governed a) (stranger : u ≠ a.owner) (lvl : AuthLevel)
    {m given : AccessMode} (want : AccessMode) (cached : a.grants u = some g)
    (raised : given = g.given ∨ (g.given.isAdmin ∧ m.isAdmin ∧ m.isOwner = false ∧
      given = g.given ||| (m &&& ~~~modeDelete))) :
    let a' := (a.saveModes u g want given).settle u g want given
    Local a a' u ∧ OwnRule a a' u lvl (some m) := by
  have plain : given.isOwner → g.given.isOwner := by
    rcases raised with rfl | ⟨-, -, asks, rfl⟩
    · exact id
    · rw [isOwner_or, isOwner_and, asks, Bool.false_and, Bool.or_false]
      exact id
  have entitled : Entitled a u lvl (some m) given := by
    rcases raised with rfl | ⟨admin, asks, other, raised⟩
    · exact .inl (standing_cached cached).symm
    · exact .inr ⟨g, m, cached, admin, rfl, asks, other, raised⟩
  refine ⟨⟨stranger, (Acl.ChangesOnly.saveModes g want given).trans (.settle g want given), ?_, ?_⟩,
    ?_, ?_⟩
  · intro g' after
    rw [Acl.settle_cached _ _ after]
    exact gov.alive _ g cached
  · rintro (⟨g', after, owner⟩ | ⟨row, stored, owner⟩)
    · rw [Acl.settle_cached _ _ after] at owner
      exact .inl ⟨g, cached, plain owner⟩
    · rw [Acl.settle_rows] at stored
      rcases saveModes_stored stored with new | ⟨old, found, same⟩
      · exact .inl ⟨g, cached, plain (new ▸ owner)⟩
      · exact .inr ⟨old, found, same ▸ owner⟩
  · intro g' after
    rw [Acl.settle_cached _ _ after]
    exact .inl entitled
  · intro row stored
    rw [Acl.settle_rows] at stored
    rcases saveModes_stored stored with new | old
    · exact .inl (new ▸ entitled)
    · exact .inr old

theorem selfSub_local (gov : Governed a) (stranger : r.asUid ≠ a.owner)
    (refused : acceptsTransfer a r = false) (change : SelfSub fail a r a') :
    a' = a ∨ (Local a a' r.asUid ∧
      OwnRule a a' r.asUid r.asLvl (requestedMode r.want).toOption) := by
  unfold acceptsTransfer at refused
  cases change with
  | kept => exact .inl rfl
  | joined m addressed uncached asked joiner =>
    exact .inr (joined_local gov stranger _ _ _ uncached)
  | joinedReader want uncached =>
    refine .inr ⟨.entered stranger .refl (fun row stored owner => .inr ⟨row, stored, owner⟩) rfl ?_,
      ?_, fun row stored => .inr ⟨row, stored, rfl⟩⟩
    · exact fun owner => absurd owner (by decide : ¬ modeCChnReader.isOwner = true)
    · intro g cached
      rw [Acl.put_grants] at cached
      cases cached
      exact .inr ⟨uncached, rfl, rfl⟩
  | updated m want given g cached asked modes =>
    simp only [asked, cached] at refused
    rw [asked]
    exact .inr (updated_local gov stranger _ want cached (updatedModes_given modes refused).2)
  | tookOver m want given g cached asked modes
  | interrupted m want given g cached asked modes a' failed stored =>
    simp only [asked, cached] at refused
    cases (updatedModes_given modes refused).1

theorem invited_local {given : AccessMode} (gov : Governed a) (uncached : a.grants u = none)
    (want : AccessMode) (plain : ¬ given.isOwner) :
    Local a ((a.storeRow u ⟨want, given, true⟩).put u ⟨want, given, false, false⟩) u := by
  refine .entered ?_ (.storeRow _) (fun row stored owner => ?_) rfl (fun owner => absurd owner plain)
  · intro isOwner
    obtain ⟨g, cached, -⟩ := gov.owner
    rw [← isOwner] at cached
    cases uncached.symm.trans cached
  · rw [Acl.storeRow_rows] at stored
    cases stored
    exact absurd owner plain

theorem regiven_local {given : AccessMode} (gov : Governed a) (cached : a.grants u = some g)
    (stranger : u ≠ a.owner) (plain : ¬ given.isOwner) : Local a (a.regive u g given) u := by
  refine ⟨stranger, .regive g given, ?_, ?_⟩
  · intro g' after
    rw [Acl.regive_cached _ _ after]
    exact gov.alive _ g cached
  · rintro (⟨g', after, owner⟩ | ⟨row, stored, owner⟩)
    · rw [Acl.regive_cached _ _ after] at owner
      exact absurd owner plain
    · obtain ⟨old, -, rfl⟩ := Option.map_eq_some_iff.mp ((Acl.regive_rows ..).symm.trans stored)
      exact absurd owner plain

/-- Nobody but a reader without `J` is dropped from the cache by a new given mode. -/
theorem regive_grants (given : AccessMode) :
    (a.regive u g given).grants u = some { g with given := given } ∨
      ((a.regive u g given).grants u = none ∧ g.reader ∧ given.isJoiner = false) := by
  unfold Acl.regive
  split_ifs with joiner
  · exact .inl (Acl.put_grants ..)
  · rw [Acl.detach_put]
    split_ifs with reader
    · exact .inr ⟨Acl.drop_grants .., reader, Bool.not_eq_true _ ▸ joiner⟩
    · exact .inl (Acl.put_grants ..)

theorem granted_local {s : SetSubRequest} (gov : Governed a) (stranger : s.asUid ≠ a.owner)
    (change : Granted a s.toGrant a') :
    a' = a ∨ (Local a a' s.target ∧ OtherRule a a' (.set s) s.target) := by
  -- a mode with `O` is granted by the owner only
  have plain {given : AccessMode} (transfer : given.isOwner → a.owner = s.asUid) :
      ¬ given.isOwner := fun granted => stranger (transfer granted).symm
  cases change with
  | kept => exact .inl rfl
  | invited want given uncached sharer explicit wanted =>
    have chosen : (a.Admin s.asUid ∧ requestedMode s.mode = .ok given ∧ given.isOwner = false) ∨
        (requestedMode s.mode = .ok modeUnset ∧ given = a.defaultFor .auth ||| modeJoin) := by
      rcases explicit with ⟨asked, -, admin, transfer⟩ | default
      · exact .inl ⟨admin, asked, Bool.not_eq_true _ ▸ plain transfer⟩
      · exact .inr default
    have unowned : ¬ given.isOwner := by
      rcases chosen with ⟨-, -, plain⟩ | ⟨-, rfl⟩
      · rw [plain]
        decide
      · rw [isOwner_or, gov.default_plain]
        decide
    refine .inr ⟨invited_local gov uncached want unowned,
      .invited s want given uncached sharer chosen ?_ (Acl.put_grants ..) (Acl.storeRow_rows ..)⟩
    rcases wanted with ⟨row, stored, same⟩ | ⟨unstored, same⟩
    · rw [same, show a.rows s.target = some row from stored]
      rfl
    · rw [same, show a.rows s.target = none from unstored]
      rfl
  | changed given g cached admin asked explicit transfer protected_ =>
    have other : s.target ≠ a.owner := fun isOwner => plain transfer (protected_ isOwner.symm).1
    exact .inr ⟨regiven_local gov cached other (plain transfer),
      .changed s given g cached admin asked (Bool.not_eq_true _ ▸ plain transfer)
        (regive_grants given) (Acl.regive_rows ..)⟩
  | dropped g cached sharer banned =>
    cases reader : g.reader with
    | false =>
      simp [Acl.detach, cached, reader]
    | true =>
      have gone : a.detach s.toGrant.target = a.drop s.toGrant.target := by
        simp [Acl.detach, cached, reader]
      rw [gone]
      exact .inr ⟨.dropped (gov.owner_not_reader cached reader) .refl
        (fun row stored owner => .inr ⟨row, stored, owner⟩),
        .dropped s g cached sharer reader banned (Acl.drop_grants ..) rfl⟩

theorem givenOwner_removed {row : RowGrant} (stored : (a.deactivate u).rows u = some row)
    (owner : row.given.isOwner) : GivenOwner a u := by
  rw [Acl.deactivate, Acl.editRow_rows] at stored
  obtain ⟨old, found, rfl⟩ := Option.map_eq_some_iff.mp stored
  exact .inr ⟨old, found, owner⟩

theorem answered_local {r : Request} (gov : Governed a) (stranger : r.actor ≠ a.owner)
    (refused : accepts a r = false) (change : Answered fail a r a') :
    a' = a ∨ (Permitted a a' r ∧ ∃ u, Local a a' u) := by
  cases change with
  | kept => exact .inl rfl
  | sub s a' change =>
    refine (selfSub_local gov stranger refused change).imp_right ?_
    rintro ⟨change, own⟩
    exact ⟨change.permitted (fun _ => own) (absurd rfl), _, change⟩
  | setSelf s a' own change =>
    have refused : acceptsTransfer a s.toSub = false := by
      simpa only [accepts, own, decide_true, Bool.true_and] using refused
    refine (selfSub_local gov stranger refused change).imp_right ?_
    rintro ⟨change, rule⟩
    refine ⟨change.permitted (fun _ => ?_) (absurd rfl), _, change⟩
    rw [asked, if_pos own]
    exact rule
  | setOther s a' other change =>
    refine (granted_local gov stranger change).imp_right ?_
    rintro ⟨change, rule⟩
    exact ⟨change.permitted (fun self => absurd self other) fun _ => rule, _, change⟩
  | removed sess asUid original user g cached plain other admin =>
    have isOther : user ≠ a.owner := by
      rintro rfl
      obtain ⟨g', cached', owner, -⟩ := gov.owner
      rw [cached] at cached'
      cases cached'
      rw [plain] at owner
      cases owner
    have change : Local a ((a.deactivate user).drop user) user :=
      .dropped isOther (.editRow _) fun _ => givenOwner_removed
    exact .inr ⟨change.permitted (fun self => absurd self other) fun _ =>
      .removed sess asUid original user g cached plain admin (Acl.drop_grants ..)
        (Acl.editRow_rows ..), _, change⟩
  | left sess asUid original other subscriber =>
    have change : Local a ((a.deactivate asUid).drop asUid) asUid :=
      .dropped stranger (.editRow _) fun _ => givenOwner_removed
    refine .inr ⟨change.permitted (fun _ => .gone (Acl.drop_grants ..) ?_) (absurd rfl), _, change⟩
    change ((a.deactivate asUid).rows asUid).map (·.given) = _
    rw [Acl.deactivate, Acl.editRow_rows, Option.map_map]
    rfl
  | readerLeft sess asUid original other reader =>
    have change : Local a (a.drop asUid) asUid :=
      .dropped stranger .refl fun row stored owner => .inr ⟨row, stored, owner⟩
    exact .inr ⟨change.permitted (fun _ => .gone (Acl.drop_grants ..) rfl) (absurd rfl), _, change⟩

/-- One request, with the store calls of it that fail. -/
def step (cfg : Config) (w : World) (e : Faults × Request) : World :=
  serve cfg e.1 w e.2

/-- The request is made by a user who is not the owner and accepts no transfer. -/
def ByOther (w : World) (e : Faults × Request) : Prop :=
  e.2.actor ≠ w.topic.owner ∧ accepts w.acl e.2 = false

theorem step_local (cfg : Config) (w : World) (e : Faults × Request) (gov : Governed w.acl)
    (other : ByOther w e) :
    (step cfg w e).acl = w.acl ∨
      (Permitted w.acl (step cfg w e).acl e.2 ∧ ∃ u, Local w.acl (step cfg w e).acl u) :=
  answered_local gov other.1 other.2 (serve_acl gov.group gov.alive)

theorem step_governed (cfg : Config) (w : World) (e : Faults × Request) (gov : Governed w.acl)
    (other : ByOther w e) : Governed (step cfg w e).acl := by
  rcases step_local cfg w e gov other with same | ⟨-, u, change⟩
  · rw [same]
    exact gov
  · exact change.governed gov

/-- In every run of requests by users other than the owner, none of which accepts a transfer, every
step stays within the permission rules. -/
theorem nonOwner_requests_permitted (cfg : Config) (w : World) (gov : Governed w.acl)
    (requests : List (Faults × Request)) (others : Guarded (step cfg) ByOther w requests)
    (before after : List (Faults × Request)) (e : Faults × Request)
    (taken : requests = before ++ e :: after) :
    Permitted (run (step cfg) w before).acl (run (step cfg) w (before ++ [e])).acl e.2 := by
  subst taken
  obtain ⟨gov', other⟩ : Governed (run (step cfg) w before).acl ∧
      ByOther (run (step cfg) w before) e := run_step (step_governed cfg) gov others
  have next : run (step cfg) w (before ++ [e]) = step cfg (run (step cfg) w before) e := by
    simp [run]
  rw [next]
  rcases step_local cfg _ e gov' other with same | ⟨permitted, -⟩
  · rw [same]
    exact permitted_refl _ _
  · exact permitted

theorem created_governed {cfg : Config} {users : GoMap Uid User} {name : String}
    {r : NewTopicRequest} {w : World} (created : initTopicNewGrp cfg users name r = .ok w)
    (accessAuth : w.topic.accessAuth.isOwner = false)
    (accessAnon : w.topic.accessAnon.isOwner = false) : Governed w.acl := by
  obtain ⟨cat, owner, grants, -⟩ := initTopicNewGrp_acl created
  refine ⟨cat, ?_, ?_, accessAuth, accessAnon⟩
  · intro u g cached
    rw [grants] at cached
    split_ifs at cached
    cases cached
    rfl
  · rw [owner, grants, if_pos rfl]
    have full : modeCFull.isOwner := by decide
    exact ⟨_, rfl, by rw [Grant.mode, isOwner_and, creatorWant_owner, full, Bool.and_self], rfl⟩

def device (sid : String) : Session := { sid := sid, proto := .websock }

def joinRequest : Faults × Request :=
  (fun _ => false, .sub { sess := device "s2", asUid := 2, asLvl := .auth })

/-- The new subscriber asks for every permission. -/
def takeOverRequest : Faults × Request :=
  (fun _ => false, .set { sess := device "s2", asUid := 2, asLvl := .auth, mode := "JRWPASDO" })

/-- The new subscriber tries to ban the owner. -/
def banRequest : Faults × Request :=
  (fun _ => false,
    .set { sess := device "s2", asUid := 2, asLvl := .auth, user := some 1, mode := "N" })

def leaveRequest : Faults × Request :=
  (fun _ => false, .unsub (device "s2") 2 .topic)

/-- The former subscriber comes back and asks for more than before. -/
def returnRequest : Faults × Request :=
  (fun _ => false, .sub { sess := device "s2", asUid := 2, asLvl := .auth, want := "JRWPASD" })

/-- A member who leaves and comes back has the mode given before, whatever is asked for. -/
theorem returning_member_permitted :
    ∃ w, initTopicNewGrp {} ∅ "grpT" { asUser := 1 } = .ok w ∧
      Permitted (run (step {}) w [joinRequest, takeOverRequest, banRequest, leaveRequest]).acl
        (run (step {}) w [joinRequest, takeOverRequest, banRequest, leaveRequest,
          returnRequest]).acl returnRequest.2 := by
  have created : initTopicNewGrp {} ∅ "grpT" { asUser := 1 } = .ok _ := rfl
  refine ⟨_, created, ?_⟩
  have gov := created_governed created (by decide) (by decide)
  exact nonOwner_requests_permitted {} _ gov
    [joinRequest, takeOverRequest, banRequest, leaveRequest, returnRequest]
    ⟨⟨by decide, by decide⟩, ⟨by decide, by decide⟩, ⟨by decide, by decide⟩,
      ⟨by decide, by decide⟩, ⟨by decide, by decide⟩, trivial⟩
    [joinRequest, takeOverRequest, banRequest, leaveRequest] [] returnRequest rfl

def offerRequest : Faults × Request :=
  (fun _ => false,
    .set { sess := device "s1", asUid := 1, asLvl := .auth, user := some 2, mode := "JRWPO" })

def acceptRequest : Faults × Request :=
  (fun _ => false, .set { sess := device "s2", asUid := 2, asLvl := .auth, mode := "JRWPO" })

/-- The acceptance of a transfer is a request of a user who is not the owner, and it takes `O` from
the owner. -/
theorem acceptance_removes_ownership :
    ∃ w, initTopicNewGrp {} ∅ "grpT" { asUser := 1 } = .ok w ∧
      let before := run (step {}) w [joinRequest, offerRequest]
      let after := step {} before acceptRequest
      before.topic.owner = 1 ∧ acceptRequest.2.actor = 2 ∧
        (before.topic.pud 1).mode.isOwner ∧ (after.topic.pud 1).modeGiven.isOwner = false ∧
        (after.topic.pud 1).modeWant.isOwner = false := by
  refine ⟨_, rfl, ?_⟩
  decide

end LastochkaServer.Guarantees.OwnerProtection
