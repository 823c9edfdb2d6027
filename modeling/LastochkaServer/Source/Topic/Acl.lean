import LastochkaServer.Source.Topic.Fixture
import LastochkaServer.Source.Topic.RosterRequests

/-!
# The access list of a group topic

The abstract view of a group topic under which its permission rules are stated: who owns the topic,
the default modes, the modes of every cached subscriber and of every stored subscription. Each
subscription handler is shown to act on this view in one of a few ways, with the guards it has
checked. The invariants of the topic are derived from these results and never from the handlers'
code.
-/

namespace LastochkaServer.Source

open Lib AccessMode

variable {w w' : World} {g : Grant} {given : AccessMode}

/-- The modes of a cached subscriber. -/
structure Grant where
  want : AccessMode := 0
  given : AccessMode := 0
  /-- The subscriber is a channel reader. -/
  reader : Bool := false
  deleted : Bool := false
  deriving DecidableEq

/-- The modes of a stored subscription. -/
structure RowGrant where
  want : AccessMode
  given : AccessMode
  active : Bool
  deriving DecidableEq

@[ext] structure Acl where
  cat : TopicCat
  owner : Uid
  accessAuth : AccessMode
  accessAnon : AccessMode
  grants : Uid → Option Grant
  rows : Uid → Option RowGrant
  /-- What each user allows others to assume by default. -/
  userAccess : Uid → AccessMode

def PerUserData.grant (pud : PerUserData) : Grant :=
  { want := pud.modeWant, given := pud.modeGiven, reader := pud.isChan, deleted := pud.deleted }

@[simp] theorem grant_want (pud : PerUserData) : pud.grant.want = pud.modeWant := rfl
@[simp] theorem grant_given (pud : PerUserData) : pud.grant.given = pud.modeGiven := rfl

def Subscription.rowGrant (sub : Subscription) : RowGrant :=
  { want := sub.modeWant, given := sub.modeGiven, active := !sub.deletedAt }

/-- The access list of a topic and its store. -/
def World.acl (w : World) : Acl :=
  { cat := w.topic.cat
    owner := w.topic.owner
    accessAuth := w.topic.accessAuth
    accessAnon := w.topic.accessAnon
    grants := fun u => (w.topic.perUser.lookup u).map PerUserData.grant
    rows := fun u => (w.store.subs.lookup (.topic, u)).map Subscription.rowGrant
    userAccess := fun u => ((w.store.users.lookup u).map (·.accessAuth)).getD 0 }

/-- Both modes contain `O`. -/
def Grant.owns (g : Grant) : Bool := g.want.isOwner && g.given.isOwner

/-- The permissions in force. -/
def Grant.mode (g : Grant) : AccessMode := g.given &&& g.want

/-- The modes without `O`. -/
def Grant.disown (g : Grant) : Grant :=
  { g with want := g.want &&& ~~~modeOwner, given := g.given &&& ~~~modeOwner }

namespace Acl

def put (a : Acl) (u : Uid) (g : Grant) : Acl :=
  { a with grants := Function.update a.grants u (some g) }

def drop (a : Acl) (u : Uid) : Acl :=
  { a with grants := Function.update a.grants u none }

def storeRow (a : Acl) (u : Uid) (row : RowGrant) : Acl :=
  { a with rows := Function.update a.rows u (some row) }

/-- `u` is a subscriber who may invite others. -/
def Sharer (a : Acl) (u : Uid) : Prop := ∃ g, a.grants u = some g ∧ g.mode.isSharer

/-- `u` is a subscriber who may set the modes of others: an approver or the owner. -/
def Admin (a : Acl) (u : Uid) : Prop := ∃ g, a.grants u = some g ∧ g.mode.isAdmin

/-- Change a row, if there is one. -/
def editRow (a : Acl) (u : Uid) (edit : RowGrant → RowGrant) : Acl :=
  { a with rows := Function.update a.rows u ((a.rows u).map edit) }

/-- A user who is detached but not unsubscribed stays cached unless a channel reader. -/
def detach (a : Acl) (u : Uid) : Acl :=
  if ((a.grants u).map (·.reader)).getD false then a.drop u else a

/-- The default mode for a level. -/
def defaultFor (a : Acl) (lvl : AuthLevel) : AccessMode :=
  selectAccessMode lvl a.accessAnon a.accessAuth modeCPublic

def orDefault (a : Acl) (lvl : AuthLevel) (mode : AccessMode) : AccessMode :=
  if mode = modeUnset then a.defaultFor lvl else mode

/-- The mode given to a new subscriber: the one of an earlier subscription, or the default. -/
def restored (a : Acl) (u : Uid) (lvl : AuthLevel) : AccessMode :=
  a.orDefault lvl (((a.rows u).map (·.given)).getD modeUnset)

/-- Store a new subscription, unless there is an active one. -/
def enroll (a : Acl) (u : Uid) (want given : AccessMode) : Acl :=
  if ((a.rows u).map (·.active)).getD false then a else a.storeRow u ⟨want, given, true⟩

/-- Save those modes of a subscriber that have changed. -/
def saveModes (a : Acl) (u : Uid) (g : Grant) (want given : AccessMode) : Acl :=
  a.editRow u fun row =>
    { row with
      want := if want ≠ g.want then want else row.want
      given := if given ≠ g.given then given else row.given }

/-- Apply the new modes of a subscriber; a reader who no longer wants `J` is dropped. -/
def settle (a : Acl) (u : Uid) (g : Grant) (want given : AccessMode) : Acl :=
  let a := a.put u { g with want := want, given := given }
  if want.isJoiner then a else a.detach u

/-- Store and apply a new given mode of a subscriber; a reader who is banned is dropped. -/
def regive (a : Acl) (u : Uid) (g : Grant) (given : AccessMode) : Acl :=
  let a := (a.editRow u ({ · with given := given })).put u { g with given := given }
  if given.isJoiner then a else a.detach u

/-- The stored modes of the owner without `O`. -/
def disownRow (a : Acl) : Acl :=
  let old := (a.grants a.owner).getD {}
  a.editRow a.owner fun row => { row with want := old.disown.want, given := old.disown.given }

/-- The ownership passes to `u`. -/
def handOver (a : Acl) (u : Uid) : Acl :=
  { (a.disownRow).put a.owner ((a.grants a.owner).getD {}).disown with owner := u }

section fields

variable (a : Acl) (u : Uid)

@[simp] theorem put_grants (g : Grant) : (a.put u g).grants u = some g := Function.update_self ..
@[simp] theorem put_rows (g : Grant) : (a.put u g).rows = a.rows := rfl
@[simp] theorem drop_grants : (a.drop u).grants u = none := Function.update_self ..
@[simp] theorem drop_rows : (a.drop u).rows = a.rows := rfl
@[simp] theorem storeRow_rows (row : RowGrant) : (a.storeRow u row).rows u = some row :=
  Function.update_self ..
@[simp] theorem editRow_rows (edit : RowGrant → RowGrant) :
    (a.editRow u edit).rows u = (a.rows u).map edit := Function.update_self ..

theorem saveModes_rows (g : Grant) (want given : AccessMode) :
    (a.saveModes u g want given).rows u = (a.rows u).map fun row =>
      { row with
        want := if want ≠ g.want then want else row.want
        given := if given ≠ g.given then given else row.given } :=
  editRow_rows ..

@[simp] theorem detach_rows : (a.detach u).rows = a.rows := by
  unfold detach
  split_ifs <;> rfl

@[simp] theorem settle_rows (g : Grant) (want given : AccessMode) :
    (a.settle u g want given).rows = a.rows := by
  unfold settle
  split_ifs
  · rfl
  · rw [detach_rows, put_rows]

/-- Whoever is still cached after a detachment has the same modes. -/
theorem detach_cached (cached : (a.detach u).grants u = some g) : a.grants u = some g := by
  unfold detach at cached
  split_ifs at cached
  · simp at cached
  · exact cached

theorem put_detach_cached {g' : Grant} {stays : Prop} [Decidable stays]
    (cached : (if stays then a.put u g else (a.put u g).detach u).grants u = some g') : g' = g := by
  split_ifs at cached
  · rw [put_grants] at cached
    exact (Option.some.inj cached).symm
  · have kept := detach_cached _ u cached
    rw [put_grants] at kept
    exact (Option.some.inj kept).symm

theorem settle_cached {g' : Grant} {want : AccessMode}
    (cached : (a.settle u g want given).grants u = some g') :
    g' = { g with want := want, given := given } := put_detach_cached a u cached

theorem regive_cached {g' : Grant} (cached : (a.regive u g given).grants u = some g') :
    g' = { g with given := given } := put_detach_cached _ u cached

@[simp] theorem regive_rows (g : Grant) (given : AccessMode) :
    (a.regive u g given).rows u = (a.rows u).map ({ · with given := given }) := by
  unfold regive
  split_ifs
  · rw [put_rows, editRow_rows]
  · rw [detach_rows, put_rows, editRow_rows]

end fields

end Acl

/-- The two lists differ in the modes of `u` only. -/
structure Acl.ChangesOnly (u : Uid) (a a' : Acl) : Prop where
  cat : a'.cat = a.cat
  owner : a'.owner = a.owner
  accessAuth : a'.accessAuth = a.accessAuth
  accessAnon : a'.accessAnon = a.accessAnon
  grants : ∀ v, v ≠ u → a'.grants v = a.grants v
  rows : ∀ v, v ≠ u → a'.rows v = a.rows v

namespace Acl.ChangesOnly

variable {a b c : Acl} {u : Uid}

theorem refl : ChangesOnly u a a := ⟨rfl, rfl, rfl, rfl, fun _ _ => rfl, fun _ _ => rfl⟩

theorem trans (first : ChangesOnly u a b) (second : ChangesOnly u b c) : ChangesOnly u a c where
  cat := second.cat.trans first.cat
  owner := second.owner.trans first.owner
  accessAuth := second.accessAuth.trans first.accessAuth
  accessAnon := second.accessAnon.trans first.accessAnon
  grants v other := (second.grants v other).trans (first.grants v other)
  rows v other := (second.rows v other).trans (first.rows v other)

theorem put (g : Grant) : ChangesOnly u a (a.put u g) :=
  ⟨rfl, rfl, rfl, rfl, fun _ other => Function.update_of_ne other _ _, fun _ _ => rfl⟩

theorem drop : ChangesOnly u a (a.drop u) :=
  ⟨rfl, rfl, rfl, rfl, fun _ other => Function.update_of_ne other _ _, fun _ _ => rfl⟩

theorem storeRow (row : RowGrant) : ChangesOnly u a (a.storeRow u row) :=
  ⟨rfl, rfl, rfl, rfl, fun _ _ => rfl, fun _ other => Function.update_of_ne other _ _⟩

theorem editRow (edit : RowGrant → RowGrant) : ChangesOnly u a (a.editRow u edit) :=
  ⟨rfl, rfl, rfl, rfl, fun _ _ => rfl, fun _ other => Function.update_of_ne other _ _⟩

theorem detach : ChangesOnly u a (a.detach u) := by
  unfold Acl.detach
  split_ifs
  · exact drop
  · exact refl

theorem enroll (want given : AccessMode) : ChangesOnly u a (a.enroll u want given) := by
  unfold Acl.enroll
  split_ifs
  · exact refl
  · exact storeRow _

theorem saveModes (g : Grant) (want given : AccessMode) :
    ChangesOnly u a (a.saveModes u g want given) :=
  editRow _

theorem settle (g : Grant) (want given : AccessMode) : ChangesOnly u a (a.settle u g want given) := by
  unfold Acl.settle
  split_ifs
  · exact put _
  · exact (put _).trans detach

theorem regive (g : Grant) (given : AccessMode) : ChangesOnly u a (a.regive u g given) := by
  unfold Acl.regive
  split_ifs
  · exact (editRow _).trans (put _)
  · exact ((editRow _).trans (put _)).trans detach

end Acl.ChangesOnly

def Card.grant (card : Card) : Grant := ⟨card.want, card.given, card.isChan, card.deleted⟩

def Entry.rowGrant (e : Entry) : RowGrant := ⟨e.want, e.given, e.active⟩

/-- The access list that a roster holds. -/
def Roster.acl (ro : Roster) (userAccess : Uid → AccessMode) : Acl where
  cat := ro.cat
  owner := ro.owner
  accessAuth := ro.accessAuth
  accessAnon := ro.accessAnon
  grants u := (ro.cards u).map Card.grant
  rows u := (ro.rows (.topic, u)).map Entry.rowGrant
  userAccess := userAccess

theorem acl_roster (w : World) : w.acl = w.roster.acl w.acl.userAccess := by
  unfold World.acl Roster.acl World.roster
  simp only [Option.map_map]
  rfl

@[simp] theorem acl_refuse (w : World) (sid : String) (r : Rejection) :
    (w.refuse sid r).acl = w.acl := by
  unfold World.refuse
  split <;> rfl

/-- The users' own defaults stay where the fixture does. -/
theorem acl_of_fixture (kept : w'.fixture = w.fixture) : w'.acl = w'.roster.acl w.acl.userAccess := by
  have users : w'.store.users = w.store.users := congrArg Fixture.users kept
  have access : w'.acl.userAccess = w.acl.userAccess := by
    unfold World.acl
    rw [users]
  rw [acl_roster, access]

section projection

variable (ro : Roster) (access : Uid → AccessMode) (u : Uid)

theorem acl_put (card : Card) :
    (ro.put u (some card)).acl access = (ro.acl access).put u card.grant :=
  congrArg (fun grants => ({ ro.acl access with grants := grants } : Acl))
    (Function.comp_update (Option.map Card.grant) ro.cards u (some card))

theorem acl_erase : (ro.put u none).acl access = (ro.acl access).drop u :=
  congrArg (fun grants => ({ ro.acl access with grants := grants } : Acl))
    (Function.comp_update (Option.map Card.grant) ro.cards u none)

theorem acl_file (e : Option Entry) : (ro.file (.topic, u) e).acl access =
    { ro.acl access with rows := Function.update (ro.acl access).rows u (e.map Entry.rowGrant) } := by
  ext1
  all_goals try rfl
  funext v
  by_cases same : v = u
  · subst same
    simp [Roster.acl, Roster.file]
  · simp [Roster.acl, Roster.file, same]

theorem acl_edit {change : Entry → Entry} {edit : RowGrant → RowGrant}
    (agree : ∀ e, (change e).rowGrant = edit e.rowGrant) :
    (ro.edit (.topic, u) change).acl access = (ro.acl access).editRow u edit := by
  rw [Roster.edit, acl_file]
  unfold Acl.editRow Roster.acl
  simp [Option.map_map, Function.comp_def, agree]

/-- Rows under the channel name are not part of the view. -/
theorem acl_file_channel (e : Option Entry) :
    (ro.file (.channel, u) e).acl access = ro.acl access := by
  ext1
  all_goals rfl

end projection

theorem Acl.detach_put (a : Acl) (u : Uid) (g : Grant) :
    (a.put u g).detach u = if g.reader then a.drop u else a.put u g := by
  simp [Acl.detach, Acl.put, Acl.drop]

theorem Acl.drop_uncached (a : Acl) (u : Uid) (uncached : a.grants u = none) : a.drop u = a := by
  rw [Acl.drop, ← uncached, Function.update_eq_self]

theorem acl_detached (ro : Roster) (access : Uid → AccessMode) (u : Uid) (card : Card) :
    (ro.put u card.detached).acl access = ((ro.acl access).put u card.grant).detach u := by
  unfold Card.detached
  rw [Acl.detach_put, show card.grant.reader = card.isChan from rfl]
  split_ifs
  · exact acl_erase ..
  · exact acl_put ..

theorem acl_settled (ro : Roster) (access : Uid → AccessMode) (u : Uid) (card : Card) :
    (ro.put u card.settled).acl access = if card.want.isJoiner then (ro.acl access).put u card.grant
      else ((ro.acl access).put u card.grant).detach u := by
  unfold Card.settled
  split_ifs
  · exact acl_put ..
  · exact acl_detached ..

theorem acl_setPud (w : World) (u : Uid) (pud : PerUserData) :
    ({ w with topic := w.topic.setPud u pud } : World).acl = w.acl.put u pud.grant := by
  rw [acl_roster, roster_setPud, acl_put, acl_roster w]
  rfl

theorem acl_createSub (w : World) (u : Uid) (want given : AccessMode) (privateData : Value) :
    ({ w with store := w.store.createSub .topic u want given privateData } : World).acl =
      w.acl.storeRow u ⟨want, given, true⟩ := by
  rw [acl_roster, roster_createSub, acl_file, acl_roster w]
  rfl

end LastochkaServer.Source
