import LastochkaServer.Lib.Run
import LastochkaServer.Source.Topic.Requests

/-!
# One owner

A group topic has one owner: the user recorded in `t.owner` is the only one whose wanted and given
modes both contain `O`. The code keeps it so on the paths that check for `O`, but `O` also comes
together on paths that do not: a new subscription takes any mode the client asks for, an invitation
restores the mode wanted earlier, and a user who comes back after a self-ban wants all that is
given. `eventSafe` says when no such path is taken, and `topic_sole_owner` that the topic then has
one owner in every state of every run.
-/

namespace LastochkaServer.Guarantees.GroupOwnership

open Lib Lib.Run Source Source.AccessMode

variable {a a' : Acl} {u owner : Uid} {g : Grant} {row : Option RowGrant} {want given : AccessMode}
  {w : World} {r : SubRequest} {fail : Faults} {cfg : Config}

/-- The users whose wanted and given modes both contain `O`. -/
def owners (w : World) : Set Uid :=
  {u | ∃ pud, w.topic.perUser.lookup u = some pud ∧ pud.modeWant.isOwner ∧
    pud.modeGiven.isOwner}

/-- What happens to a topic: a request of a user, or unloading and loading. -/
inductive Event
  | request (r : Request)
  | reload (order : RowOrder)

/-- The store never fails here. -/
def step (cfg : Config) (w : World) : Event → World
  | .request r => serve cfg (fun _ => false) w r
  | .reload order => reload cfg order w

/-- The mode an invited user wants: that of an earlier subscription, or the user's default. -/
def invitedWants (a : Acl) (u : Uid) : AccessMode :=
  ((a.rows u).map (·.want)).getD (a.userAccess u)

/-- A user's own request: a new subscription does not bring together `O` wanted and given, nobody
but the owner comes back from a self-ban to a given `O`, and the ownership is not accepted by a
channel reader. -/
def selfSafe (a : Acl) (r : SubRequest) : Bool :=
  match requestedMode r.want with
  | .error _ => true
  | .ok m =>
    match a.grants r.asUid with
    | none => r.asChan ||
        !((a.orDefault r.asLvl m).isOwner && (a.restored r.asUid r.asLvl).isOwner)
    | some g =>
      if m = modeUnset then g.want.isJoiner || !g.given.isOwner || a.owner = r.asUid
      else !(m.isOwner && g.given.isOwner && !g.want.isOwner) || !g.reader

/-- A grant or an invitation does not give `O` to a user who wants it already. -/
def grantSafe (a : Acl) (r : GrantRequest) : Bool :=
  match requestedMode r.mode with
  | .error _ => true
  | .ok m =>
    match a.grants r.target with
    | none =>
      let given := if m = modeUnset then a.defaultFor .auth ||| modeJoin else m
      !(given.isOwner && (invitedWants a r.target).isOwner)
    | some g => !(m.isOwner && g.want.isOwner) || a.owner ≠ r.asUid

/-- A reload gets all subscriptions of the topic. Of a grant something is asked only if the
requester may make it. -/
def eventSafe (cfg : Config) (w : World) : Event → Bool
  | .request (.sub r) => selfSafe w.acl r
  | .request (.set r) =>
    if r.target = r.asUid then selfSafe w.acl r.toSub
    else !(grantedMode cfg w.topic r.toGrant).isOk || grantSafe w.acl r.toGrant
  | .request _ => true
  | .reload _ => w.store.activeSubs.length ≤ cfg.maxResults

def isActive (row : Option RowGrant) : Bool := (row.map (·.active)).getD false

/-- The cached and the stored modes of one user: subscribers are stored as they are cached, channel
readers and strangers have no active row, and `O` is wanted and given for the owner alone. -/
def Consistent (owner u : Uid) (grant : Option Grant) (row : Option RowGrant) : Prop :=
  match grant with
  | none => u ≠ owner ∧ isActive row = false
  | some g => g.deleted = false ∧ (g.owns ↔ u = owner) ∧
      if g.reader then u ≠ owner ∧ isActive row = false else row = some ⟨g.want, g.given, true⟩

structure Owned (a : Acl) : Prop where
  group : a.cat = .grp
  users : ∀ u, Consistent a.owner u (a.grants u) (a.rows u)

theorem Owned.alive (inv : Owned a) (u : Uid) (g : Grant) (cached : a.grants u = some g) :
    g.deleted = false := by
  have user := inv.users u
  rw [cached] at user
  exact user.1

/-- A change of one user's modes keeps the invariant if they are consistent afterwards. -/
theorem Owned.change (inv : Owned a) (only : Acl.ChangesOnly u a a')
    (user : Consistent a.owner u (a'.grants u) (a'.rows u)) : Owned a' where
  group := only.cat.trans inv.group
  users v := by
    rw [only.owner]
    by_cases same : v = u
    · rw [same]
      exact user
    · rw [only.grants v same, only.rows v same]
      exact inv.users v

theorem owners_of_owned (inv : Owned w.acl) : owners w = {w.topic.owner} := by
  ext u
  have user := inv.users u
  simp only [owners, Set.mem_ofPred_eq, Set.mem_singleton_iff]
  cases cached : w.topic.perUser.lookup u with
  | none =>
    have absent : w.acl.grants u = none := by simp [World.acl, cached]
    rw [absent] at user
    simpa using (show u ≠ w.topic.owner from user.1)
  | some pud =>
    have present : w.acl.grants u = some pud.grant := by simp [World.acl, cached]
    rw [present] at user
    rw [show u = w.topic.owner ↔ pud.grant.owns from user.2.1.symm]
    simp [Grant.owns]

section

variable (user : Consistent owner u (some g) row)
include user

theorem Consistent.stored (subscriber : g.reader = false) : row = some ⟨g.want, g.given, true⟩ := by
  have shape := user.2.2
  rwa [if_neg (by simp [subscriber])] at shape

theorem Consistent.reader (reader : g.reader) : u ≠ owner ∧ isActive row = false := by
  have shape := user.2.2
  rwa [if_pos reader] at shape

/-- New modes of a subscriber or reader, saved in the row, if there is one. -/
theorem Consistent.update (want given : AccessMode) (edit : RowGrant → RowGrant)
    (keeps : ∀ row, (edit row).active = row.active)
    (saves : edit ⟨g.want, g.given, true⟩ = ⟨want, given, true⟩)
    (owns : ({ g with want := want, given := given } : Grant).owns ↔ u = owner) :
    Consistent owner u (some { g with want := want, given := given }) (row.map edit) := by
  refine ⟨user.1, owns, ?_⟩
  split_ifs with reader
  · obtain ⟨other, inactive⟩ := user.reader reader
    refine ⟨other, ?_⟩
    cases row with
    | none => rfl
    | some row => exact (keeps row).trans inactive
  · rw [user.stored (Bool.not_eq_true _ ▸ reader), Option.map_some, saves]

end

/-- A reader who is dropped leaves no trace; other users stay as they are. -/
theorem Owned.detach (inv : Owned a) (u : Uid) : Owned (a.detach u) := by
  unfold Acl.detach
  split_ifs with reader
  · refine inv.change .drop ?_
    have user := inv.users u
    cases cached : a.grants u with
    | none => simp [cached] at reader
    | some g =>
      rw [cached] at user reader
      obtain ⟨other, inactive⟩ := user.reader (by simpa using reader)
      rw [Acl.drop_grants, Acl.drop_rows]
      exact ⟨other, inactive⟩
  · exact inv

/-- The modes after a subscriber's request that does not change hands contain `O` for the owner
alone. -/
theorem updatedModes_owns {a : Acl} {r : SubRequest} {m want given : AccessMode} {g : Grant}
    (cached : a.grants r.asUid = some g) (asked : requestedMode r.want = .ok m)
    (safe : selfSafe a r) (owns : g.owns ↔ r.asUid = a.owner)
    (modes : UpdatedModes a r m g want given false) :
    ({ g with want := want, given := given } : Grant).owns ↔ r.asUid = a.owner := by
  simp only [selfSafe, asked, cached] at safe
  simp only [Grant.owns, Bool.and_eq_true] at owns ⊢
  generalize kept : false = changed at modes
  cases modes with
  | unchanged unset joiner => exact owns
  | unbanned unset banned =>
    simp only [unset, if_true, banned, Bool.false_or, Bool.or_eq_true, Bool.not_eq_true',
      decide_eq_true_eq] at safe
    rw [isOwner_or, Bool.or_eq_true]
    rcases safe with plain | isOwner
    · rw [← owns]
      simp [plain]
    · have given := (owns.mpr isOwner.symm).2
      exact ⟨fun _ => isOwner.symm, fun _ => ⟨.inl given, given⟩⟩
  | owner given explicit offered keeps raised =>
    have offers : given.isOwner := by
      rcases raised with rfl | ⟨-, rfl⟩
      · exact offered
      · rw [isOwner_or, offered, Bool.true_or]
    cases asks : m.isOwner with
    | true =>
      have wanted : g.want.isOwner := by simpa [asks] using kept
      simpa [offers] using owns.mp ⟨wanted, offered⟩
    | false =>
      simp only [Bool.false_eq_true, false_and, false_iff]
      intro isOwner
      rw [(keeps isOwner.symm).1] at asks
      cases asks
  | member given explicit plain asks other raised =>
    simp only [asks, Bool.false_eq_true, false_and, false_iff]
    exact fun isOwner => other isOwner.symm

theorem selfSub_settled (inv : Owned a) (cached : a.grants u = some g)
    (owns : ({ g with want := want, given := given } : Grant).owns ↔ u = a.owner) :
    Owned ((a.saveModes u g want given).settle u g want given) := by
  have user := inv.users u
  rw [cached] at user
  have saved :
      Owned ((a.saveModes u g want given).put u { g with want := want, given := given }) := by
    refine inv.change ((Acl.ChangesOnly.saveModes g want given).trans (.put _)) ?_
    rw [Acl.put_grants, Acl.put_rows, Acl.saveModes_rows]
    refine user.update want given _ (fun _ => rfl) ?_ owns
    split_ifs <;> simp_all
  unfold Acl.settle
  split_ifs
  · exact saved
  · exact saved.detach u

/-- Users who neither give nor take the ownership stay consistent when it changes hands. -/
theorem Consistent.reassign {owner' : Uid} {grant : Option Grant}
    (user : Consistent owner u grant row)
    (old : u ≠ owner) (new : u ≠ owner') : Consistent owner' u grant row := by
  cases grant with
  | none => exact ⟨new, user.2⟩
  | some g =>
    refine ⟨user.1, ?_, ?_⟩
    · rw [user.2.1]
      exact ⟨fun same => absurd same old, fun same => absurd same new⟩
    · cases reader : g.reader with
      | true =>
        exact ⟨new, (user.reader reader).2⟩
      | false =>
        exact user.stored reader

theorem Owned.owner_cached (inv : Owned a) : ∃ g, a.grants a.owner = some g ∧ g.reader = false := by
  have user := inv.users a.owner
  cases cached : a.grants a.owner with
  | none =>
    rw [cached] at user
    exact absurd rfl user.1
  | some g =>
    rw [cached] at user
    cases reader : g.reader with
    | true => exact absurd rfl (user.reader reader).1
    | false => exact ⟨g, rfl, reader⟩

theorem disown_owns (g : Grant) : g.disown.owns = false := by
  simp [Grant.owns, Grant.disown, isOwner_strip]

/-- The acceptance of a transfer: the ownership moves from one subscriber to another. -/
theorem handedOver_owned (inv : Owned a) (other : u ≠ a.owner) (cached : a.grants u = some g)
    (subscriber : g.reader = false) (owns : ({ g with want := want, given := given } : Grant).owns) :
    Owned (((a.saveModes u g want given).handOver u).settle u g want given) := by
  have user := inv.users u
  rw [cached] at user
  obtain ⟨old, oldCached, oldSubscriber⟩ := inv.owner_cached
  have oldUser := inv.users a.owner
  rw [oldCached] at oldUser
  rw [Acl.settle_subscriber _ _ _ _ _ subscriber]
  refine ⟨inv.group, fun v => ?_⟩
  obtain ⟨grant, row⟩ := Acl.handedOver want given other (user.stored subscriber) oldCached
    (oldUser.stored oldSubscriber) v
  change Consistent u v _ _
  rw [grant, row]
  split_ifs with taker giver
  · exact ⟨user.1, by simp [owns, taker], by simp [subscriber]⟩
  · exact ⟨oldUser.1, by simp [disown_owns, taker], by simp [Grant.disown, oldSubscriber]⟩
  · exact (inv.users v).reassign giver taker

theorem selfSub_owned (inv : Owned a) (healthy : ∀ call, fail call = false) (safe : selfSafe a r)
    (change : SelfSub fail a r a') : Owned a' := by
  have user := inv.users r.asUid
  cases change with
  | kept => exact inv
  | joined m addressed uncached asked joiner =>
    rw [uncached] at user
    simp only [selfSafe, asked, uncached, addressed, Bool.false_or, Bool.not_eq_true'] at safe
    refine inv.change ((Acl.ChangesOnly.enroll _ _).trans (.put _)) ?_
    have fresh : a.enroll r.asUid (a.orDefault r.asLvl m) (a.restored r.asUid r.asLvl) =
        a.storeRow r.asUid ⟨a.orDefault r.asLvl m, a.restored r.asUid r.asLvl, true⟩ :=
      if_neg (by simpa [isActive] using user.2)
    rw [Acl.put_grants, Acl.put_rows, fresh, Acl.storeRow_rows]
    exact ⟨rfl, by simp [Grant.owns, safe, user.1], rfl⟩
  | joinedReader want uncached =>
    rw [uncached] at user
    refine inv.change (.put _) ?_
    rw [Acl.put_grants, Acl.put_rows]
    have plain : modeCChnReader.isOwner = false := by decide
    exact ⟨rfl, by simp only [Grant.owns, plain, Bool.and_false, Bool.false_eq_true, user.1], user⟩
  | updated m want given g cached asked modes =>
    rw [cached] at user
    exact selfSub_settled inv cached (updatedModes_owns cached asked safe user.2.1 modes)
  | tookOver m want given g cached asked modes =>
    rw [cached] at user
    simp only [selfSafe, asked, cached] at safe
    obtain ⟨rfl, asks, offers, offered, fresh⟩ := modes.taken
    have subscriber : g.reader = false := by
      have explicit : want ≠ modeUnset := by
        rintro rfl
        exact absurd asks (by decide)
      rw [if_neg explicit, asks, offered, fresh] at safe
      simpa only [Bool.not_false, Bool.and_self, Bool.not_true, Bool.false_or, Bool.not_eq_true']
        using safe
    have other : r.asUid ≠ a.owner := by
      intro isOwner
      have owns := user.2.1.mpr isOwner
      rw [Grant.owns, fresh] at owns
      cases owns
    exact handedOver_owned inv other cached subscriber (by simp [Grant.owns, asks, offers])
  | interrupted m want given g cached asked modes a' failed stored =>
    rw [healthy, healthy] at failed
    simp at failed

/-- An invitation that meets `grantSafe` does not bring `O` wanted and given together. -/
theorem invited_owns {r : GrantRequest} (uncached : a.grants r.target = none) (safe : grantSafe a r)
    (explicit : requestedMode r.mode = .ok given ∧ given ≠ modeUnset ∧ a.Admin r.asUid ∧
        (given.isOwner → a.owner = r.asUid) ∨
      requestedMode r.mode = .ok modeUnset ∧ given = a.defaultFor .auth ||| modeJoin)
    (wanted : (∃ row, a.rows r.target = some row ∧ want = row.want) ∨
      (a.rows r.target = none ∧ want = a.userAccess r.target &&& given)) :
    (⟨want, given, false, false⟩ : Grant).owns = false := by
  have checked : (given.isOwner && (invitedWants a r.target).isOwner) = false := by
    unfold grantSafe at safe
    rcases explicit with ⟨asked, set, -⟩ | ⟨asked, rfl⟩
    · simpa only [asked, uncached, if_neg set, Bool.not_eq_true'] using safe
    · simpa only [asked, uncached, if_true, Bool.not_eq_true'] using safe
  unfold Grant.owns
  rcases wanted with ⟨row, stored, rfl⟩ | ⟨missing, rfl⟩
  · rw [invitedWants, stored] at checked
    rw [Bool.and_comm]
    exact checked
  · rw [invitedWants, missing] at checked
    rw [isOwner_and, Bool.and_assoc, Bool.and_self, Bool.and_comm]
    exact checked

theorem granted_owned {r : GrantRequest} (inv : Owned a) (other : r.target ≠ r.asUid)
    (safe : grantSafe a r) (change : Granted a r a') : Owned a' := by
  have user := inv.users r.target
  cases change with
  | kept => exact inv
  | invited want given uncached sharer explicit wanted =>
    rw [uncached] at user
    refine inv.change ((Acl.ChangesOnly.storeRow _).trans (.put _)) ?_
    rw [Acl.put_grants, Acl.put_rows, Acl.storeRow_rows]
    have plain := invited_owns uncached safe explicit wanted
    exact ⟨rfl, by simp [plain, user.1], rfl⟩
  | changed given g cached admin asked explicit transfer protected_ =>
    rw [cached] at user
    have notOwner : r.target ≠ a.owner := by
      intro isOwner
      have granted := (protected_ isOwner.symm).1
      exact other (isOwner.trans (transfer granted))
    have plain : ({ g with given := given } : Grant).owns = false := by
      simp only [grantSafe, asked, cached, Bool.or_eq_true, Bool.not_eq_true', ne_eq,
        decide_not] at safe
      rcases safe with apart | stranger
      · rw [Grant.owns, Bool.and_comm]
        exact apart
      · have refused : given.isOwner = false := by
          rw [← Bool.not_eq_true]
          exact fun granted => absurd (transfer granted) (by simpa using stranger)
        rw [Grant.owns, refused, Bool.and_false]
    have changed : Owned ((a.editRow r.target ({ · with given := given })).put r.target
        { g with given := given }) := by
      refine inv.change ((Acl.ChangesOnly.editRow _).trans (.put _)) ?_
      rw [Acl.put_grants, Acl.put_rows, Acl.editRow_rows]
      exact user.update g.want given _ (fun _ => rfl) rfl (by simp [plain, notOwner])
    unfold Acl.regive
    split_ifs
    · exact changed
    · exact changed.detach _
  | dropped g cached sharer banned => exact inv.detach _

theorem removed_owned (inv : Owned a) (other : u ≠ a.owner) : Owned ((a.deactivate u).drop u) := by
  refine inv.change ((Acl.ChangesOnly.editRow _).trans .drop) ?_
  rw [Acl.drop_grants, Acl.drop_rows]
  refine ⟨other, ?_⟩
  rw [Acl.deactivate, Acl.editRow_rows]
  cases a.rows u <;> rfl

theorem answered_owned {r : Request} (inv : Owned a) (healthy : ∀ call, fail call = false)
    (safeSub : ∀ s, r = .sub s → selfSafe a s) (safeSet : ∀ s, r = .set s →
      (if s.target = s.asUid then selfSafe a s.toSub else grantSafe a s.toGrant) = true)
    (change : Answered fail a r a') : Owned a' := by
  cases change with
  | kept => exact inv
  | sub s a' change => exact selfSub_owned inv healthy (safeSub s rfl) change
  | setSelf s a' own change =>
    have safe := safeSet s rfl
    rw [if_pos own] at safe
    exact selfSub_owned inv healthy safe change
  | setOther s a' other change =>
    have safe := safeSet s rfl
    rw [if_neg other] at safe
    exact granted_owned inv other safe change
  | removed sess asUid original user g cached plain other admin =>
    refine removed_owned inv fun isOwner => ?_
    have mem := inv.users user
    rw [cached] at mem
    have owns := mem.2.1.mpr isOwner
    rw [Grant.mode, isOwner_and, Bool.and_comm] at plain
    exact absurd owns (by rw [Grant.owns, plain]; decide)
  | left sess asUid original other subscriber => exact removed_owned inv (Ne.symm other)
  | readerLeft sess asUid original other reader =>
    have dropped := inv.detach asUid
    have known : ((a.grants asUid).map (·.reader)).getD false = true := by
      cases cached : a.grants asUid with
      | none => simp [cached] at reader
      | some g => simpa [cached] using reader
    rwa [Acl.detach, if_pos known] at dropped

theorem reload_owned (order : RowOrder) (inv : Owned w.acl)
    (complete : w.store.activeSubs.length ≤ cfg.maxResults) : Owned (reload cfg order w).acl := by
  -- an active row is the row of a cached subscriber
  have active : ∀ u row, w.acl.rows u = some row → row.active →
      ∃ g, w.acl.grants u = some g ∧ row = ⟨g.want, g.given, true⟩ := by
    intro u row stored on
    have user := inv.users u
    have known : isActive (w.acl.rows u) := by simp [isActive, stored, on]
    cases cached : w.acl.grants u with
    | none =>
      rw [cached] at user
      rw [user.2] at known
      cases known
    | some g =>
      rw [cached] at user
      cases reader : g.reader with
      | true =>
        rw [(user.reader reader).2] at known
        cases known
      | false => exact ⟨g, rfl, Option.some.inj (stored.symm.trans (user.stored reader))⟩
  have owns : ∀ u row, w.acl.rows u = some row → row.active →
      ((row.given &&& row.want).isOwner ↔ u = w.acl.owner) := by
    intro u row stored on
    obtain ⟨g, cached, rfl⟩ := active u row stored on
    have user := inv.users u
    rw [cached] at user
    rw [← user.2.1, isOwner_and, Bool.and_comm]
    rfl
  obtain ⟨cat, rows, -⟩ := reload_rest cfg order w
  have owner : (reload cfg order w).acl.owner = w.acl.owner := by
    obtain ⟨g, cached, subscriber⟩ := inv.owner_cached
    have user := inv.users w.acl.owner
    rw [cached] at user
    exact reload_owner order complete _ owns ⟨_, user.stored subscriber, rfl⟩
  refine ⟨cat, fun u => ?_⟩
  rw [owner, rows, reload_grants order complete]
  cases stored : w.acl.rows u with
  | none =>
    have user := inv.users u
    refine ⟨?_, rfl⟩
    rintro rfl
    obtain ⟨g, cached, subscriber⟩ := inv.owner_cached
    rw [cached] at user
    rw [user.stored subscriber] at stored
    cases stored
  | some row =>
    cases on : row.active with
    | true =>
      rw [Option.filter_some, if_pos on]
      refine ⟨rfl, ?_, ?_⟩
      · rw [← owns u row stored on, isOwner_and, Bool.and_comm]
        rfl
      · simp [← on]
    | false =>
      rw [Option.filter_some, if_neg (by simp [on])]
      refine ⟨?_, by simp [isActive, on]⟩
      rintro rfl
      obtain ⟨g, cached, subscriber⟩ := inv.owner_cached
      have user := inv.users w.acl.owner
      rw [cached] at user
      rw [user.stored subscriber] at stored
      cases stored
      cases on

theorem created_owned {users : GoMap Uid User} {name : String} {r : NewTopicRequest}
    (created : initTopicNewGrp cfg users name r = .ok w) : Owned w.acl := by
  obtain ⟨cat, owner, grants, rows⟩ := initTopicNewGrp_acl created
  refine ⟨cat, fun u => ?_⟩
  rw [owner, grants, rows]
  split_ifs with same
  · have full : modeCFull.isOwner := by decide
    exact ⟨rfl, by simp [Grant.owns, creatorWant_owner, full, same], rfl⟩
  · exact ⟨same, rfl⟩

theorem step_owned (cfg : Config) (w : World) (e : Event) (inv : Owned w.acl)
    (safe : eventSafe cfg w e) : Owned (step cfg w e).acl := by
  cases e with
  | reload order => exact reload_owned order inv (by simpa [eventSafe] using safe)
  | request r =>
    by_cases denied : ∃ s, r = .set s ∧ s.target ≠ s.asUid ∧
        (grantedMode cfg w.topic s.toGrant).isOk = false
    · obtain ⟨s, rfl, other, checked⟩ := denied
      rw [step, serve_denied other checked]
      exact inv
    refine answered_owned inv (fun _ => rfl) ?_ ?_ (serve_acl inv.group inv.alive)
    · rintro s rfl
      exact safe
    · rintro s rfl
      simp only [eventSafe] at safe
      split_ifs at safe ⊢ with own
      · exact safe
      · refine (Bool.or_eq_true_iff.mp safe).resolve_left fun refused => denied ⟨s, rfl, own, ?_⟩
        exact (Bool.not_eq_true' _).mp refused

/-- In every run from the creation of a group topic whose events all meet `eventSafe`, the users
whose wanted and given modes contain `O` are exactly the owner, in every state reached. -/
theorem topic_sole_owner (cfg : Config) (users : GoMap Uid User) (name : String)
    (r : NewTopicRequest) (w : World) (created : initTopicNewGrp cfg users name r = .ok w)
    (events : List Event)
    (safe : Guarded (step cfg) (fun w e => eventSafe cfg w e = true) w events) :
    owners (run (step cfg) w events) = {(run (step cfg) w events).topic.owner} :=
  owners_of_owned (run_invariant (step_owned cfg) (created_owned created) safe)

/-- A stranger subscribes asking for `O`, which is recorded as wanted. -/
def strangerAsksForOwnership : Event :=
  .request
    (.sub { sess := { sid := "s2", proto := .websock }, asUid := 2, asLvl := .auth, want := "JRWPO" })

/-- The owner gives `O` to the new subscriber, who has accepted in advance. -/
def ownerOffersOwnership : Event :=
  .request (.set
    { sess := { sid := "s1", proto := .websock }, asUid := 1, asLvl := .auth, user := some 2,
      mode := "JRWPO" })

/-- Both users have `O` wanted and given, and the recorded owner is still the first one. -/
theorem second_owner_without_transfer :
    ∃ w, initTopicNewGrp {} ∅ "grpT" { asUser := 1 } = .ok w ∧
      let w' := run (step {}) w [strangerAsksForOwnership, ownerOffersOwnership]
      1 ∈ owners w' ∧ 2 ∈ owners w' ∧ w'.topic.owner = 1 := by
  refine ⟨_, rfl, ⟨_, rfl, ?_, ?_⟩, ⟨_, rfl, ?_, ?_⟩, ?_⟩ <;> decide

/-- An ordinary transfer: the stranger joins, is offered the ownership, accepts it, and the topic is
loaded again. -/
theorem sole_owner_after_transfer :
    ∃ w, initTopicNewGrp {} ∅ "grpT" { asUser := 1 } = .ok w ∧
      let events := [
        .request (.sub { sess := { sid := "s2", proto := .websock }, asUid := 2, asLvl := .auth }),
        ownerOffersOwnership,
        .request (.sub
          { sess := { sid := "s2", proto := .websock }, asUid := 2, asLvl := .auth,
            want := "JRWPO" }),
        .reload .asStored]
      owners (run (step {}) w events) = {(run (step {}) w events).topic.owner} ∧
        (run (step {}) w events).topic.owner = 2 := by
  refine ⟨_, rfl, ?_, by decide⟩
  exact topic_sole_owner {} ∅ "grpT" { asUser := 1 } _ rfl _ (by decide)

end LastochkaServer.Guarantees.GroupOwnership
