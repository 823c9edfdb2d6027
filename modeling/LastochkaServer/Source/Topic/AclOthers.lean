import LastochkaServer.Source.Topic.AclSelf

/-!
# Requests about other users on the access list

What `anotherUserSub`, `replyDelSub` and `replyLeaveUnsub` do to the access list of a group topic.
-/

namespace LastochkaServer.Source

open Lib AccessMode

variable {w w' : World} {r : GrantRequest} {fail : Faults} {cfg : Config} {res : Except String Unit}
  {sess : Session} {asUid user : Uid} {userData : PerUserData} {m : AccessMode}
  {original : Addressing}

/-- What `anotherUserSub` does to the access list of a group topic. `given` is the mode granted,
which contains `O` only if the owner grants it. -/
inductive Granted (a : Acl) (r : GrantRequest) : Acl → Prop
  | kept : Granted a r a
  | invited (want given : AccessMode) (uncached : a.grants r.target = none)
      (sharer : a.Sharer r.asUid)
      (explicit : requestedMode r.mode = .ok given ∧ given ≠ modeUnset ∧ a.Admin r.asUid ∧
          (given.isOwner → a.owner = r.asUid) ∨
        requestedMode r.mode = .ok modeUnset ∧ given = a.defaultFor .auth ||| modeJoin)
      (wanted : (∃ row, a.rows r.target = some row ∧ want = row.want) ∨
        (a.rows r.target = none ∧ want = a.userAccess r.target &&& given)) :
      Granted a r ((a.storeRow r.target ⟨want, given, true⟩).put r.target ⟨want, given, false, false⟩)
  | changed (given : AccessMode) (g : Grant) (cached : a.grants r.target = some g)
      (admin : a.Admin r.asUid) (asked : requestedMode r.mode = .ok given)
      (explicit : given ≠ modeUnset)
      (transfer : given.isOwner → a.owner = r.asUid)
      (protected_ : a.owner = r.target → given.isOwner ∧ given.isJoiner) :
      Granted a r (a.regive r.target g given)
  /-- A request that changes nothing for a banned reader only drops the reader from the cache. -/
  | dropped (g : Grant) (cached : a.grants r.target = some g) (sharer : a.Sharer r.asUid)
      (banned : g.given.isJoiner = false) : Granted a r (a.detach r.target)

theorem grantedMode_ok {given : AccessMode} (group : w.topic.cat = .grp)
    (checked : grantedMode cfg w.topic r = .ok given) :
    requestedMode r.mode = .ok given ∧ (given.isOwner → w.acl.owner = r.asUid) ∧
      w.acl.Sharer r.asUid ∧ (given ≠ modeUnset → w.acl.Admin r.asUid) := by
  unfold grantedMode at checked
  dsimp only at checked
  split at checked
  · cases checked
  next sharer =>
  split at checked
  · cases checked
  split at checked
  · cases checked
  split at checked
  · cases checked
  next mode asked =>
  simp only [group, reduceCtorEq, and_false, if_false] at checked
  split at checked
  · cases checked
  next admin =>
  split at checked
  · cases checked
  next transfer =>
  cases checked
  obtain ⟨listed, sharer⟩ := not_or.mp sharer
  refine ⟨asked, ?_, ?_⟩
  · intro owner
    by_contra other
    exact transfer ⟨owner, other⟩
  · cases host : w.topic.perUser.lookup r.asUid with
    | none => simp [host] at listed
    | some pud =>
      rw [host] at sharer admin
      have listed : w.acl.grants r.asUid = some pud.grant := by simp [World.acl, host]
      refine ⟨⟨pud.grant, listed, show pud.mode.isSharer from ?_⟩, fun explicit =>
        ⟨pud.grant, listed, show pud.mode.isAdmin from ?_⟩⟩
      · simpa only [Option.getD_some, Bool.not_eq_true', Bool.not_eq_false] using sharer
      · have := not_and.mp admin explicit
        simpa only [Option.getD_some, Bool.not_eq_true', Bool.not_eq_false] using this

theorem applyGrant_acl {oldWant oldGiven : AccessMode} {res : Except String (Option MsgAccessMode)}
    (taken : w.roster.cards r.target = some userData.card)
    (ran : applyGrant w r oldWant oldGiven userData = .ok (w', res)) :
    w'.acl = if userData.modeGiven.isJoiner then w.acl else w.acl.detach r.target := by
  have listed : w.acl.put r.target userData.card.grant = w.acl := by
    rw [acl_roster w, ← acl_put, ← taken, Roster.put_self]
  rw [acl_of_fixture (applyGrant_fixture ran), applyGrant_roster taken ran]
  split_ifs
  · exact (acl_roster w).symm
  · rw [acl_detached, ← acl_roster, listed]

theorem acl_invite (w : World) (u : Uid) (want given : AccessMode) :
    (w.invite u want given).acl =
    (w.acl.storeRow u ⟨want, given, true⟩).put u ⟨want, given, false, false⟩ := by
  have enrolled := acl_setPud { w with store := w.store.createSub .topic u want given none } u
    { modeGiven := given, modeWant := want }
  rw [acl_createSub] at enrolled
  exact enrolled

theorem inviteUser_acl (group : w.topic.cat = .grp)
    (ran : inviteUser cfg fail w r m = .ok (.ok (w', userData))) :
    ∃ want given, (given = m ∧ m ≠ modeUnset ∨
        m = modeUnset ∧ given = w.acl.defaultFor .auth ||| modeJoin) ∧
      ((∃ row, w.acl.rows r.target = some row ∧ want = row.want) ∨
        (w.acl.rows r.target = none ∧ want = w.acl.userAccess r.target &&& given)) ∧
      w'.roster.cards r.target = some userData.card ∧
      w'.acl =
        (w.acl.storeRow r.target ⟨want, given, true⟩).put r.target ⟨want, given, false, false⟩ := by
  obtain ⟨want, given, chosen, wanted, -, rfl, rfl⟩ := inviteUser_ok ran
  refine ⟨want, given, ?_, ?_, cards_of_cached (AList.lookup_insert _), ?_⟩
  · unfold invitedGiven at chosen
    split at chosen
    · next unset =>
      rw [accessFor_grp group] at chosen
      cases chosen
      exact .inr ⟨unset, rfl⟩
    · next explicit =>
      cases chosen
      exact .inl ⟨rfl, explicit⟩
  · have row : w.store.getSub .topic r.target true = w.store.subs.lookup (.topic, r.target) := by
      unfold Store.getSub
      cases w.store.subs.lookup (.topic, r.target) <;> rfl
    unfold invitedWant at wanted
    rw [row] at wanted
    split at wanted
    · cases wanted
    cases stored : w.store.subs.lookup (.topic, r.target) with
    | some sub =>
      rw [stored] at wanted
      cases wanted
      exact .inl ⟨sub.rowGrant, by simp [World.acl, stored], rfl⟩
    | none =>
      rw [stored] at wanted
      refine .inr ⟨by simp [World.acl, stored], ?_⟩
      dsimp only at wanted
      split at wanted
      · cases wanted
      split at wanted
      · cases wanted
      next user found =>
      split at wanted
      · cases wanted
      cases wanted
      simp [World.acl, found]
  · exact acl_invite ..

theorem acl_regiven (w : World) (u : Uid) (old : PerUserData) (m : AccessMode) :
    ({ w with
      store := w.store.updateSub .topic u fun sub => { sub with modeGiven := m }
      topic := w.topic.setPud u { old with modeGiven := m } } : World).acl =
      (w.acl.editRow u ({ · with given := m })).put u { old.grant with given := m } := by
  have put :=
    roster_setPud
      { w with store := w.store.updateSub .topic u fun sub => { sub with modeGiven := m } } u
  rw [roster_updateSub w .topic u _ ({ · with given := m }) fun _ => rfl] at put
  rw [acl_of_fixture (w := w) ?_]
  swap
  · exact updateSub_fixture w .topic u _
  rw [put, acl_put, acl_roster w]
  exact congrArg (Acl.put · u _) (acl_edit w.roster _ u fun _ => rfl)

theorem anotherUserSub_acl {res : Except String (Option MsgAccessMode)} (group : w.topic.cat = .grp)
    (alive : ∀ g, w.acl.grants r.target = some g → g.deleted = false)
    (ran : anotherUserSub cfg fail w r = .ok (w', res)) : Granted w.acl r w'.acl := by
  cases anotherUserSub_outcome ran with
  | refused rej same =>
    rw [same, acl_refuse]
    exact .kept
  | invited m stored userData checked absent made applied =>
    obtain ⟨asked, transfer, sharer, admin⟩ := grantedMode_ok group checked
    obtain ⟨want, given, chosen, wanted, taken, view⟩ := inviteUser_acl group made
    have uncached : w.acl.grants r.target = none := by
      cases cached : w.topic.perUser.lookup r.target with
      | none => simp [World.acl, cached]
      | some old =>
        cases (alive old.grant (by simp [World.acl, cached])).symm.trans (absent old cached)
    have effect := applyGrant_acl taken applied
    rw [view, Acl.detach_put_subscriber _ _ _ rfl, ite_self] at effect
    rw [effect]
    refine .invited want given uncached sharer ?_ wanted
    rcases chosen with ⟨rfl, explicit⟩ | ⟨rfl, default⟩
    · exact .inl ⟨asked, explicit, admin explicit, transfer⟩
    · exact .inr ⟨asked, default⟩
  | changed m old userData stored checked cached present granted applied =>
    obtain ⟨asked, transfer, sharer, admin⟩ := grantedMode_ok group checked
    have listed : w.acl.grants r.target = some old.grant := by simp [World.acl, cached]
    rcases changeGiven_ok granted with ⟨-, rfl, rfl⟩ | ⟨explicit, -, keeps, -, rfl, rfl⟩
    · rw [applyGrant_acl (cards_of_cached cached) applied]
      split
      · exact .kept
      · next banned => exact .dropped _ listed sharer (Bool.not_eq_true _ ▸ banned)
    · rw [applyGrant_acl (cards_of_cached (by simp [Topic.setPud])) applied, acl_regiven]
      exact .changed m old.grant listed (admin explicit) asked explicit transfer keeps

namespace Acl

/-- Mark the stored subscription as deleted. -/
def deactivate (a : Acl) (u : Uid) : Acl :=
  a.editRow u ({ · with active := false })

end Acl

theorem RemovalListed.acl {ro after : Roster} {u : Uid} {name : Addressing}
    (listed : RemovalListed ro u name after)
    (group : ro.cat = .grp) (access : Uid → AccessMode) :
    after.acl access = ro.acl access ∨
      after.acl access =
        (if name = .topic then (ro.acl access).deactivate u else ro.acl access).drop u := by
  have retired : (ro.retire (name, u)).acl access =
      if name = .topic then (ro.acl access).deactivate u else ro.acl access := by
    cases name with
    | topic => exact acl_edit ro access u fun _ => rfl
    | channel => exact acl_file_channel ..
  cases listed with
  | kept => exact .inl rfl
  | uncached _ missing =>
    refine .inr ?_
    rw [← retired, Acl.drop_uncached]
    exact congrArg (Option.map Card.grant) missing
  | removed wantUnion givenUnion _ _ view =>
    refine .inr ?_
    rw [← retired, ← acl_erase, view]
    rfl
  | left p2p => cases group.symm.trans p2p

theorem deletableSub_acl {pud : PerUserData}
    (checked : deletableSub w.topic asUid original user = .ok pud) :
    ∃ g, w.acl.grants user = some g ∧ g.mode.isOwner = false ∧ user ≠ asUid ∧ w.acl.Admin asUid := by
  obtain ⟨cached, -, ⟨-, other⟩, admin, plain⟩ := deletableSub_ok checked
  refine ⟨pud.grant, by simp [World.acl, cached], plain, other, ?_⟩
  cases host : w.topic.perUser.lookup asUid with
  | none =>
    rw [Topic.pud, GoMap.getD, host] at admin
    exact absurd admin (by decide)
  | some hostData =>
    rw [Topic.pud, GoMap.getD, host] at admin
    exact ⟨hostData.grant, by simp [World.acl, host], admin⟩

theorem replyDelSub_acl (group : w.topic.cat = .grp)
    (ran : replyDelSub fail w sess asUid original user = .ok (w', res)) :
    w'.acl = w.acl ∨
      (∃ g, w.acl.grants user = some g ∧ g.mode.isOwner = false ∧ user ≠ asUid ∧
        w.acl.Admin asUid ∧ w'.acl = (w.acl.deactivate user).drop user) := by
  rw [acl_of_fixture (replyDelSub_fixture ran), acl_roster w]
  rcases (replyDelSub_roster ran).acl group w.acl.userAccess with same | removed
  · exact .inl same
  · cases checked : deletableSub w.topic asUid original user with
    | error rej =>
      rw [replyDelSub, checked] at ran
      cases ran
      exact .inl (congrArg (Roster.acl · _) (roster_refuse ..))
    | ok pud =>
      obtain ⟨g, cached, plain, other, admin⟩ := deletableSub_acl checked
      rw [← acl_roster w]
      exact .inr ⟨g, cached, plain, other, admin, removed.trans (by rw [if_pos rfl, ← acl_roster w])⟩

theorem replyLeaveUnsub_acl (group : w.topic.cat = .grp)
    (ran : replyLeaveUnsub fail w sess asUid original = .ok (w', res)) :
    w'.acl = w.acl ∨
      (w.acl.owner ≠ asUid ∧
        if ((w.acl.grants asUid).getD {}).reader then w'.acl = w.acl.drop asUid
        else w'.acl = (w.acl.deactivate asUid).drop asUid) := by
  obtain ⟨listed, other⟩ := replyLeaveUnsub_roster ran
  have after := acl_of_fixture (replyLeaveUnsub_fixture ran)
  have before := acl_roster w
  generalize w.acl.userAccess = access at after before
  rw [after, before]
  by_cases same : w'.roster = w.roster
  · exact .inl (congrArg (Roster.acl · _) same)
  rcases listed.acl group access with kept | removed
  · exact .inl kept
  · refine .inr ⟨other same, ?_⟩
    have reader : (((w.roster.acl access).grants asUid).getD {}).reader =
        ((w.roster.cards asUid).getD {}).isChan := by
      simp only [Roster.acl]
      cases w.roster.cards asUid <;> rfl
    rw [reader, removed, Card.name]
    split_ifs <;> simp_all

end LastochkaServer.Source
