import LastochkaServer.Source.Topic.Roster

/-!
# What the subscription handlers do to the roster

One lemma for each handler of `server/topic.go:1492-2094, 3392-3561`, in topics of every category:
the cards and the rows after it, in terms of those before and of the modes that the handler
computes.
-/

namespace LastochkaServer.Source

open Lib AccessMode

variable {w w' : World} {fail : Faults} {r : SubRequest} {cfg : Config}
  {res : Except String (Option MsgAccessMode)} {m oldWant oldGiven : AccessMode}
  {userData old : PerUserData} {n : NewSub} {asUid uid : Uid} {cached : Option PerUserData}
  {sess : Session} {new : PerUserData} {original : Addressing}

/-- The card after a request: a reader who does not want to join is dropped. -/
def Card.settled (card : Card) : Option Card := if card.want.isJoiner then some card
    else card.detached

theorem applySub_roster (ran : applySub w r oldWant oldGiven userData = .ok (w', res)) :
    w'.roster = w.roster.put r.asUid userData.card.settled := by
  obtain ⟨applied, reported, ran⟩ := bind_ok ran
  have listed : applied.roster = w.roster.put r.asUid (some userData.card) := by
    rw [roster_reportChange reported, roster_setPud]
  dsimp only at ran
  unfold Card.settled
  have wants : userData.card.want = userData.modeWant := rfl
  rw [wants]
  split at ran
  · next refuses =>
    obtain ⟨evicted, gone, ran⟩ := bind_ok ran
    cases ran
    have refuses : ¬ userData.modeWant.isJoiner := by simpa using refuses
    rw [if_neg refuses, evictUser_roster gone, forgetUser_card, listed, Roster.put_same,
      Option.bind_some, Roster.put_put]
  next joins =>
  have joins : userData.modeWant.isJoiner := by simpa using joins
  rw [if_pos joins]
  split at ran
  all_goals
    cases ran
    exact listed

/-- The card of a new subscription. -/
def NewSub.card (n : NewSub) : Card where
  want := n.userData.modeWant
  given := n.userData.modeGiven
  isChan := n.userData.isChan

theorem newSubData_card (gone : ∀ pud, cached = some pud → pud.deleted)
    (got : newSubData cfg fail w r m cached = .ok (.ok n)) :
    ∃ modes, newSubModes cfg fail w r m cached = .ok (.ok modes) ∧ modes.userData.modeGiven.isJoiner ∧
      n.userData.card = modes.card ∧ n.sub = modes.sub ∧ n.oldWant = modes.oldWant := by
  obtain ⟨modes, found, joiner, -, privateData, rfl⟩ := newSubData_ok got
  have shape := newSubModes_shape found
  refine ⟨modes, found, joiner, ?_, rfl, rfl⟩
  unfold PerUserData.revived
  split_ifs with removed
  · rfl
  · cases cached with
    | none =>
      rw [shape]
      rfl
    | some pud =>
      rw [shape] at removed
      exact absurd (gone pud rfl) removed

/-- Store a new subscription, if there is none, or a reader's changed mode. -/
def Roster.enrol (ro : Roster) (r : SubRequest) (n : NewSub) : Roster :=
  if n.sub.isNone || (n.sub.map (·.deletedAt)).getD false then
    ro.file (r.tname, r.asUid) (some { want := n.userData.modeWant, given := n.userData.modeGiven })
  else if r.asChan ∧ n.userData.modeWant ≠ n.oldWant then
    ro.edit (r.tname, r.asUid) ({ · with want := n.userData.modeWant })
  else ro

theorem saveNewSub_roster (saved : saveNewSub fail w r n = .ok w') :
    w'.roster = w.roster.enrol r n := by
  unfold saveNewSub at saved
  unfold Roster.enrol
  dsimp only at saved
  split at saved
  · next missing =>
    rw [if_pos missing]
    split at saved
    · cases saved
    · cases saved
      exact roster_createSub w ..
  next present =>
  rw [if_neg present]
  split at saved
  · next changed =>
    rw [if_pos changed]
    split at saved
    · cases saved
    · cases saved
      exact roster_updateSub w _ _ _ _ fun _ => rfl
  · next same =>
    rw [if_neg same]
    cases saved
    rfl

/-- Save those modes that have changed. -/
def Roster.saveModes (ro : Roster) (uid : Uid) (old new : PerUserData) : Roster :=
  ro.edit (.topic, uid) fun e =>
    { e with
      want := if new.modeWant ≠ old.modeWant then new.modeWant else e.want
      given := if new.modeGiven ≠ old.modeGiven then new.modeGiven else e.given }

theorem saveUpdatedSub_roster (saved : saveUpdatedSub fail w r old new = .ok w') :
    w'.roster = w.roster.saveModes r.asUid old new ∧ w'.topic = w.topic ∧
      (new.modeWant ≠ old.modeWant ∨ new.modeGiven ≠ old.modeGiven → fail .subsUpdate = false) := by
  unfold saveUpdatedSub at saved
  dsimp only at saved
  split at saved
  · next unchanged =>
    cases saved
    simp only [Bool.not_eq_true', Bool.or_eq_false_iff, decide_eq_false_iff_not, not_not] at unchanged
    refine ⟨?_, rfl, fun changed => ?_⟩
    · simp only [Roster.saveModes, unchanged.1.2, unchanged.2, ne_eq, not_true_eq_false, if_false]
      exact (Roster.edit_id w.roster (.topic, r.asUid)).symm
    · exact absurd changed (not_or.mpr ⟨not_not.mpr unchanged.1.2, not_not.mpr unchanged.2⟩)
  split at saved
  · cases saved
  · next stores =>
    cases saved
    exact ⟨roster_updateSub w _ _ _ _ fun _ => rfl, rfl, fun _ => Bool.not_eq_true _ ▸ stores⟩

theorem updatedPrivate_card (r : SubRequest) (pud : PerUserData) :
    (updatedPrivate r pud).card = pud.card ∧ (updatedPrivate r pud).modeWant = pud.modeWant ∧
      (updatedPrivate r pud).modeGiven = pud.modeGiven := by
  unfold updatedPrivate
  split_ifs <;> exact ⟨rfl, rfl, rfl⟩

/-- The card without `O`. -/
def Card.disown (card : Card) : Card :=
  { card with want := card.want &&& ~~~modeOwner, given := card.given &&& ~~~modeOwner }

/-- The row of the owner takes over the cached modes without `O`. -/
def Roster.disownRow (ro : Roster) : Roster :=
  let old := ((ro.cards ro.owner).getD {}).disown
  ro.edit (.topic, ro.owner) fun e => { e with want := old.want, given := old.given }

/-- The ownership passes to `uid`. -/
def Roster.handOver (ro : Roster) (uid : Uid) : Roster :=
  { (ro.disownRow).put ro.owner (some ((ro.cards ro.owner).getD {}).disown) with owner := uid }

/-- The ownership stays, passes to the user, or a store failure stops its transfer half way. -/
theorem changeOwner_roster {ownerChange : Bool} {res : Except Rejection Unit}
    (ran : changeOwner fail w asUid ownerChange = .ok (w', res)) :
    match res with
    | .error _ => ownerChange ∧ (fail .ownerUpdate ∨ fail .ownerChange) ∧
        (w'.roster = w.roster ∨ w'.roster = w.roster.disownRow)
    | .ok () => w'.roster = bif ownerChange then w.roster.handOver asUid else w.roster := by
  unfold changeOwner at ran
  split at ran
  · next kept =>
    cases ran
    have kept : ownerChange = false := by simpa using kept
    dsimp only
    rw [kept, cond_false]
  next hands =>
  have hands : ownerChange := by simpa using hands
  have old : (w.topic.pud w.topic.owner).disown.card =
      ((w.roster.cards w.roster.owner).getD {}).disown := by
    have owner := card_pud w w.topic.owner
    change (w.topic.pud w.topic.owner).card.disown = _
    rw [owner]
    rfl
  have stored : ({ w with store := w.store.updateSub .topic w.topic.owner fun sub =>
      { sub with
        modeWant := (w.topic.pud w.topic.owner).disown.modeWant
        modeGiven := (w.topic.pud w.topic.owner).disown.modeGiven } } : World).roster =
        w.roster.disownRow := by
    refine (roster_updateSub w .topic w.topic.owner _ (fun e => { e with
      want := (w.topic.pud w.topic.owner).disown.card.want
      given := (w.topic.pud w.topic.owner).disown.card.given }) fun _ => rfl).trans ?_
    rw [old]
    rfl
  split at ran
  · next failed =>
    cases ran
    exact ⟨hands, .inl failed, .inl rfl⟩
  split at ran
  · next failed =>
    cases ran
    exact ⟨hands, .inr failed, .inr stored⟩
  · obtain ⟨notified, reported, ran⟩ := bind_ok ran
    rw [notifySubChange_ok reported] at ran
    cases ran
    dsimp only
    rw [hands, cond_true]
    have put := roster_setPud { w with store := w.store.updateSub .topic w.topic.owner fun sub =>
      { sub with
        modeWant := (w.topic.pud w.topic.owner).disown.modeWant
        modeGiven :=
          (w.topic.pud w.topic.owner).disown.modeGiven } } w.topic.owner
          (w.topic.pud w.topic.owner).disown
    rw [stored, old] at put
    change _ =
      ({ w.roster.disownRow.put w.topic.owner
          (some ((w.roster.cards w.roster.owner).getD {}).disown) with
        owner := asUid } : Roster)
    rw [← put]
    rfl

/-- What a request of a user for the own subscription does to the roster. -/
inductive SelfListed (cfg : Config) (fail : Faults) (w : World) (r : SubRequest) : Roster → Prop
  | kept : SelfListed cfg fail w r w.roster
  /-- The user was not subscribed, or not cached. -/
  | joined (m : AccessMode) (n : NewSub) (asked : requestedMode r.want = .ok m)
      (absent : ∀ pud, w.topic.perUser.lookup r.asUid = some pud → pud.deleted)
      (computed : newSubModes cfg fail w r m (w.topic.perUser.lookup r.asUid) = .ok (.ok n))
      (joiner : n.userData.modeGiven.isJoiner) :
      SelfListed cfg fail w r ((w.roster.enrol r n).put r.asUid n.card.settled)
  | changed (m : AccessMode) (old new : PerUserData) (ownerChange : Bool)
      (asked : requestedMode r.want = .ok m)
      (cached : w.topic.perUser.lookup r.asUid = some old) (present : old.deleted = false)
      (computed : updatedSubData cfg w.topic r m old = .ok (.ok (new, ownerChange)))
      (stores : new.modeWant ≠ old.modeWant ∨ new.modeGiven ≠ old.modeGiven →
        fail .subsUpdate = false) :
      SelfListed cfg fail w r
        ((bif ownerChange then (w.roster.saveModes r.asUid old new).handOver r.asUid
        else w.roster.saveModes r.asUid old new).put r.asUid new.card.settled)
  /-- A store failure has stopped the acceptance of a transfer half way. -/
  | interrupted (m : AccessMode) (old new : PerUserData) (asked : requestedMode r.want = .ok m)
      (cached : w.topic.perUser.lookup r.asUid = some old) (present : old.deleted = false)
      (computed : updatedSubData cfg w.topic r m old = .ok (.ok (new, true)))
      (failed : fail .ownerUpdate ∨ fail .ownerChange) (ro : Roster)
      (stored : ro = w.roster.saveModes r.asUid old new ∨
        ro = (w.roster.saveModes r.asUid old new).disownRow) :
      SelfListed cfg fail w r ro

theorem savePrivate_roster (saved : saveUpdatedSub fail w r old (updatedPrivate r new) = .ok w') :
    w'.roster = w.roster.saveModes r.asUid old new ∧
      (new.modeWant ≠ old.modeWant ∨ new.modeGiven ≠ old.modeGiven → fail .subsUpdate = false) := by
  obtain ⟨-, want, given⟩ := updatedPrivate_card r new
  obtain ⟨view, -, stores⟩ := saveUpdatedSub_roster saved
  rw [want, given] at stores
  exact ⟨by simpa only [Roster.saveModes, want, given] using view, stores⟩

theorem applyNewSub_roster {stored : World} (saved : saveNewSub fail w r n = .ok stored)
    (applied : applySub (if r.asChan then stored else stored.emit (.usersRegisterUser r.asUid true))
      r oldWant
      oldGiven userData = .ok (w', res)) :
    w'.roster = (w.roster.enrol r n).put r.asUid userData.card.settled := by
  have registered :
      (if r.asChan then stored else stored.emit (.usersRegisterUser r.asUid true)).roster =
      stored.roster := by
    split_ifs <;> rfl
  rw [applySub_roster applied, registered, saveNewSub_roster saved]

theorem thisUserSub_roster (ran : thisUserSub cfg fail w r = .ok (w', res)) :
    SelfListed cfg fail w r w'.roster := by
  cases thisUserSub_outcome ran with
  | refused rej _ same =>
    rw [same, roster_refuse]
    exact .kept
  | joined m n stored asked absent got saved applied =>
    obtain ⟨modes, got, joiner, card, sub, oldWant⟩ := newSubData_card absent got
    have want : n.userData.modeWant = modes.userData.modeWant := congrArg Card.want card
    have given : n.userData.modeGiven = modes.userData.modeGiven := congrArg Card.given card
    have enrolled : w.roster.enrol r n = w.roster.enrol r modes := by
      simp [Roster.enrol, sub, oldWant, want, given]
    rw [applyNewSub_roster saved applied, card, enrolled]
    exact .joined m modes asked absent got joiner
  | changed m old new ownerChange stored passed asked cached present got saved owned applied =>
    obtain ⟨view, stores⟩ := savePrivate_roster saved
    have handed := changeOwner_roster owned
    rw [applySub_roster applied, (updatedPrivate_card r new).1, handed, view]
    exact .changed m old new ownerChange asked cached present got stores
  | interrupted m old new ownerChange stored passed rej asked cached present got saved stopped same =>
    obtain ⟨hands, failed, effect⟩ := changeOwner_roster stopped
    rw [(savePrivate_roster saved).1] at effect
    rw [same, roster_refuse]
    subst hands
    exact .interrupted m old new asked cached present got failed _ effect

/-- What a request for the subscription of another user does to the roster. -/
inductive GrantListed (cfg : Config) (fail : Faults) (w : World) (r : GrantRequest) : Roster → Prop
  | kept : GrantListed cfg fail w r w.roster
  | invited (m want given wantUnion givenUnion : AccessMode)
      (checked : grantedMode cfg w.topic r = .ok m)
      (absent : ∀ pud, w.topic.perUser.lookup r.target = some pud → pud.deleted)
      (chosen : invitedGiven cfg w.topic m = .ok given)
      (wanted : invitedWant fail w.store r.target given = .ok want) (joiner : want.isJoiner)
      (ro : Roster)
      (listed : ro =
        (((w.roster.file (.topic, r.target) (some { want := want, given := given })).put r.target
        (some { want := want, given := given })).refresh wantUnion givenUnion))
      (exact : ro.Exact) : GrantListed cfg fail w r ro
  | changed (m : AccessMode) (old : PerUserData) (after : Option Card)
      (checked : grantedMode cfg w.topic r = .ok m)
      (cached : w.topic.perUser.lookup r.target = some old) (present : old.deleted = false)
      (explicit : m ≠ modeUnset)
      (settled : after = some { old.card with given := m } ∨
        after = ({ old.card with given := m } : Card).detached) :
      GrantListed cfg fail w r
        ((w.roster.edit (.topic, r.target) ({ · with given := m })).put r.target after)
  /-- A request that changes nothing for a banned reader only drops the reader from the cache. -/
  | dropped (old : PerUserData) (cached : w.topic.perUser.lookup r.target = some old)
      (present : old.deleted = false) :
      GrantListed cfg fail w r (w.roster.put r.target old.card.detached)

variable {r : GrantRequest}

theorem applyGrant_roster (taken : w.roster.cards r.target = some userData.card)
    (ran : applyGrant w r oldWant oldGiven userData = .ok (w', res)) :
    w'.roster = if userData.modeGiven.isJoiner then w.roster
      else w.roster.put r.target userData.card.detached := by
  obtain ⟨applied, reported, ran⟩ := bind_ok ran
  have same := roster_reportChange reported
  dsimp only at ran
  split at ran
  · next banned =>
    obtain ⟨evicted, gone, ran⟩ := bind_ok ran
    cases ran
    rw [if_neg (by simpa using banned), evictUser_roster gone, forgetUser_card, same, taken]
    rfl
  · next joins =>
    cases ran
    rw [if_pos (by simpa using joins)]
    exact same

theorem inviteUser_roster (ran : inviteUser cfg fail w r m = .ok (.ok (w', userData))) :
    ∃ want given wantUnion givenUnion, invitedGiven cfg w.topic m = .ok given ∧
      invitedWant fail w.store r.target given = .ok want ∧ want.isJoiner ∧
      userData.card = { want := want, given := given } ∧
      w'.roster =
        (((w.roster.file (.topic, r.target) (some { want := want, given := given })).put r.target
        (some { want := want, given := given })).refresh wantUnion givenUnion) ∧ w'.roster.Exact := by
  obtain ⟨want, given, chosen, wanted, joiner, rfl, rfl⟩ := inviteUser_ok ran
  have put :=
    roster_setPud { w with store := w.store.createSub .topic r.target want given none } r.target
  rw [roster_createSub] at put
  obtain ⟨wantUnion, givenUnion, view, exact⟩ := roster_union
    { w with
      store := w.store.createSub .topic r.target want given none
      topic := w.topic.setPud r.target { modeGiven := given, modeWant := want } }
  rw [put] at view exact
  refine ⟨want, given, wantUnion, givenUnion, chosen, wanted, joiner, rfl, view, ?_⟩
  exact view.symm ▸ exact

theorem anotherUserSub_roster (ran : anotherUserSub cfg fail w r = .ok (w', res)) :
    GrantListed cfg fail w r w'.roster := by
  cases anotherUserSub_outcome ran with
  | refused rej same =>
    rw [same, roster_refuse]
    exact .kept
  | invited m stored userData checked absent made applied =>
    obtain ⟨want, given, wantUnion, givenUnion, chosen, wanted, joiner, card, view, exact⟩ :=
      inviteUser_roster made
    have taken : stored.roster.cards r.target = some userData.card := by
      rw [view, card]
      exact Roster.put_same ..
    have kept : w'.roster = stored.roster := by
      have subscriber : userData.card.detached = some userData.card := by
        rw [card]
        rfl
      rw [applyGrant_roster taken applied, subscriber, ← taken, Roster.put_self, ite_self]
    rw [kept]
    exact .invited m want given wantUnion givenUnion checked absent chosen wanted joiner _ view exact
  | changed m old userData stored checked cached present granted applied =>
    rcases changeGiven_ok granted with ⟨-, rfl, rfl⟩ | ⟨explicit, -, -, -, rfl, rfl⟩
    · rw [applyGrant_roster (cards_of_cached cached) applied]
      split
      · exact .kept
      · exact .dropped userData cached present
    have put := roster_setPud
      { w with store := w.store.updateSub .topic r.target fun sub => { sub with modeGiven := m } }
      r.target
      { old with modeGiven := m }
    rw [roster_updateSub w .topic r.target _ ({ · with given := m }) fun _ => rfl] at put
    have taken := Roster.put_same (w.roster.edit (.topic, r.target) ({ · with given := m })) r.target
      (some ({ old with modeGiven := m } : PerUserData).card)
    rw [← put] at taken
    rw [applyGrant_roster taken applied]
    split
    · exact put.symm ▸ .changed m old _ checked cached present explicit (.inl rfl)
    · rw [put, Roster.put_put]
      exact .changed m old _ checked cached present explicit (.inr rfl)

/-- The row is marked as deleted. -/
def Roster.retire (ro : Roster) (key : Addressing × Uid) : Roster :=
  ro.edit key ({ · with active := false })

theorem retire_inactive {name : Addressing} (missing : w.store.deleteSub name uid = none) :
    w.roster.retire (name, uid) = w.roster := by
  unfold Roster.retire Roster.edit
  cases found : w.store.subs.lookup (name, uid) with
  | none =>
    have absent : w.roster.rows (name, uid) = none := by simp [World.roster, found]
    rw [absent, Option.map_none, ← absent, Roster.file_self]
  | some sub =>
    have stored : w.roster.rows (name, uid) = some sub.entry := by simp [World.roster, found]
    have deleted : sub.deletedAt := by
      simpa [Store.deleteSub, Store.getSub, found, Option.filter] using missing
    have same : ({ sub.entry with active := false } : Entry) = sub.entry := by
      simp [Subscription.entry, deleted]
    rw [stored, Option.map_some, same, ← stored, Roster.file_self]

/-- What a removal does to the roster; `name` is the one under which the subscription is looked
for. -/
inductive RemovalListed (ro : Roster) (uid : Uid) (name : Addressing) : Roster → Prop
  | kept : RemovalListed ro uid name ro
  | uncached (group : ro.cat ≠ .p2p) (missing : ro.cards uid = none) :
      RemovalListed ro uid name (ro.retire (name, uid))
  | removed (wantUnion givenUnion : AccessMode) (group : ro.cat ≠ .p2p) (after : Roster)
      (listed : after = ((ro.retire (name, uid)).put uid none).refresh wantUnion givenUnion)
      (exact : after.Exact) :
      RemovalListed ro uid name after
  | left (p2p : ro.cat = .p2p) (active : ∃ e, ro.rows (name, uid) = some e ∧ e.active) :
      RemovalListed ro uid name
        ((ro.retire (name, uid)).put uid (some { (ro.cards uid).getD {} with deleted := true }))

theorem forgotten_listed {ro : Roster} {name : Addressing} {skip : String}
    (retired : w.roster = ro.retire (name, uid))
    (active : ro.cat = .p2p → ∃ e, ro.rows (name, uid) = some e ∧ e.active)
    (gone : evictUser w uid true skip = .ok w') : RemovalListed ro uid name w'.roster := by
  have cat : w.topic.cat = ro.cat := congrArg Roster.cat retired
  have cards : w.roster.cards uid = ro.cards uid := by
    rw [retired]
    rfl
  have effect := forgetUser_left w uid
  rw [evictUser_roster gone]
  split at effect
  · next p2p =>
    rw [effect, cards, retired]
    exact .left (cat ▸ p2p) (active (cat ▸ p2p))
  next group =>
  have group : ro.cat ≠ .p2p := cat ▸ group
  rcases effect with ⟨same, missing⟩ | ⟨wantUnion, givenUnion, view, exact⟩
  · rw [same, retired]
    exact .uncached group (cards ▸ missing)
  · rw [view]
    rw [retired] at exact ⊢
    exact .removed wantUnion givenUnion group _ rfl exact

theorem replyDelSub_roster {w w' : World} {user : Uid}
    {res : Except String Unit} (ran : replyDelSub fail w sess asUid original user = .ok (w', res)) :
    RemovalListed w.roster user .topic w'.roster := by
  cases replyDelSub_outcome ran with
  | refused rej same =>
    rw [same, roster_refuse]
    exact .kept
  | removed pud reply checked gone =>
    refine forgotten_listed ?_ (fun p2p => absurd p2p (deletableSub_ok checked).2.1) gone
    cases deleted : w.store.deleteSub .topic user with
    | some store => exact (roster_deleteSub deleted).1
    | none => exact (retire_inactive deleted).symm

/-- The name under which a card is subscribed. -/
def Card.name (card : Card) : Addressing := if card.isChan then .channel else .topic

theorem replyLeaveUnsub_roster {w w' : World}
    {res : Except String Unit} (ran : replyLeaveUnsub fail w sess asUid original = .ok (w', res)) :
    RemovalListed w.roster asUid ((w.roster.cards asUid).getD {}).name w'.roster ∧
      (w'.roster ≠ w.roster → w.topic.owner ≠ asUid) := by
  cases replyLeaveUnsub_outcome ran with
  | refused rej same =>
    rw [same, roster_refuse]
    exact ⟨.kept, fun changed => absurd rfl changed⟩
  | removed asChan store evicted other _ deleted gone same =>
    have name : (if (w.topic.pud asUid).isChan then Addressing.channel else .topic) =
        ((w.roster.cards asUid).getD {}).name := by
      rw [← card_pud]
      rfl
    rw [name] at deleted
    obtain ⟨retired, active⟩ := roster_deleteSub deleted
    have counted : w'.roster = evicted.roster := by rw [same]; rfl
    rw [counted]
    refine ⟨forgotten_listed ?_ (fun _ => active) gone, fun _ => other⟩
    exact retired

end LastochkaServer.Source
