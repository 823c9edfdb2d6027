import LastochkaServer.Source.Topic.Acl

/-!
# A user's own request on the access list

What `thisUserSub` does to the access list of a group topic, with the guards it has checked: the
theorem `thisUserSub_acl`.
-/

namespace LastochkaServer.Source

open Lib AccessMode

variable {w w' : World} {r : SubRequest} {fail : Faults} {cfg : Config}
  {res : Except String (Option MsgAccessMode)} {m : AccessMode} {ownerChange : Bool} {n : NewSub}

/-- The modes after a request by a subscriber with modes `g` who asks for `m`, and whether the
ownership changes hands: the cases of `thisUserSub` in a group topic. -/
inductive UpdatedModes (a : Acl) (r : SubRequest) (m : AccessMode) (g : Grant) :
    AccessMode → AccessMode → Bool → Prop
  | unchanged (unset : m = modeUnset) (joiner : g.want.isJoiner) :
      UpdatedModes a r m g g.want g.given false
  | unbanned (unset : m = modeUnset) (banned : g.want.isJoiner = false) :
      UpdatedModes a r m g (g.given ||| a.defaultFor r.asLvl) g.given false
  | owner (given : AccessMode) (explicit : m ≠ modeUnset) (offered : g.given.isOwner)
      (keeps : a.owner = r.asUid → m.isOwner ∧ m.isJoiner)
      (raised : given = g.given ∨ (m.isOwner ∧ given = g.given ||| m)) :
      UpdatedModes a r m g m given (m.isOwner && !g.want.isOwner)
  | member (given : AccessMode) (explicit : m ≠ modeUnset) (plain : g.given.isOwner = false)
      (asked : m.isOwner = false) (other : a.owner ≠ r.asUid)
      (raised : given = g.given ∨
        (g.given.isAdmin ∧ m.isAdmin ∧ given = g.given ||| (m &&& ~~~modeDelete))) :
      UpdatedModes a r m g m given false

/-- An acceptance is a change of the wanted mode by somebody who is not the owner yet. -/
theorem UpdatedModes.taken {a : Acl} {g : Grant} {want given : AccessMode}
    (modes : UpdatedModes a r m g want given true) :
    want = m ∧ m.isOwner ∧ given.isOwner ∧ g.given.isOwner ∧
      g.want.isOwner = false := by
  obtain ⟨changed, taken⟩ : ∃ changed, changed = true := ⟨_, rfl⟩
  rw [← taken] at modes
  cases modes with
  | unchanged
  | unbanned
  | member => cases taken
  | owner given explicit offered keeps raised =>
    obtain ⟨asks, fresh⟩ : m.isOwner ∧ g.want.isOwner = false := by
      simpa only [Bool.and_eq_true, Bool.not_eq_true'] using taken
    refine ⟨rfl, asks, ?_, offered, fresh⟩
    rcases raised with rfl | ⟨-, rfl⟩
    · exact offered
    · rw [isOwner_or, offered, Bool.true_or]

section

variable (group : w.topic.cat = .grp)
include group

theorem accessFor_grp (cfg : Config) (lvl : AuthLevel) :
    w.topic.accessFor cfg lvl = .ok (w.acl.defaultFor lvl) := by
  simp only [Topic.accessFor, group, getDefaultAccess, Bool.false_eq_true, if_false]
  rfl

theorem orDefault_grp (cfg : Config) (lvl : AuthLevel) (mode : AccessMode) :
    orDefault cfg w.topic lvl mode = .ok (w.acl.orDefault lvl mode) := by
  unfold orDefault Acl.orDefault
  split_ifs
  · exact accessFor_grp group cfg lvl
  · rfl

theorem updatedSubData_grp {old new : PerUserData}
    (got : updatedSubData cfg w.topic r m old = .ok (.ok (new, ownerChange))) :
    UpdatedModes w.acl r m old.grant new.modeWant new.modeGiven ownerChange := by
  unfold updatedSubData at got
  rw [accessFor_grp group] at got
  split at got
  · cases got
  split at got
  · next unset =>
    split at got
    · next joiner =>
      cases got
      exact .unchanged unset joiner
    · next banned =>
      cases got
      exact .unbanned unset (Bool.not_eq_true _ ▸ banned)
  next explicit =>
  split at got
  · cases got
  next keeps =>
  split at got
  · cases got
  next permitted =>
  simp only [group] at got
  cases got
  have ownerKeeps : w.acl.owner = r.asUid → m.isOwner ∧ m.isJoiner := by
    intro isOwner
    have := not_and.mp keeps isOwner
    simpa only [Bool.not_eq_true', not_or, Bool.not_eq_false] using this
  cases offered : old.modeGiven.isOwner with
  | true =>
    have case := UpdatedModes.owner (a := w.acl) (r := r) (m := m) (g := old.grant)
      (if m.isOwner ∧ (!old.modeGiven.betterEqual m) then old.modeGiven ||| m
        else old.modeGiven) explicit offered ownerKeeps (by
          split_ifs with raise
          · exact .inr ⟨raise.1, rfl⟩
          · exact .inl rfl)
    simpa only [offered, if_true, Bool.true_and, grant_want] using case
  | false =>
    have plain : m.isOwner = false := by
      have := not_and.mp permitted (by simp [offered])
      simpa only [Bool.not_eq_true] using this
    have other : w.acl.owner ≠ r.asUid := by
      intro isOwner
      rw [plain] at ownerKeeps
      exact absurd (ownerKeeps isOwner).1 (by decide)
    have case := UpdatedModes.member (a := w.acl) (r := r) (m := m) (g := old.grant)
      (if old.modeGiven.isAdmin ∧ m.isAdmin then
        if (!old.modeGiven.betterEqual (m &&& ~~~modeDelete)) then
          old.modeGiven ||| (m &&& ~~~modeDelete)
        else old.modeGiven
      else old.modeGiven) explicit offered plain other (by
        split_ifs with admin raise
        · exact .inr ⟨admin.1, admin.2, rfl⟩
        · exact .inl rfl
        · exact .inl rfl)
    simpa only [offered, plain, Bool.false_eq_true, if_false, true_and, Bool.false_and] using case

/-- A user who was not cached gets a subscriber's modes, or a reader's fixed given mode. -/
theorem newSubModes_grp (got : newSubModes cfg fail w r m none = .ok (.ok n)) :
    if r.asChan then n.card.grant = ⟨n.userData.modeWant, modeCChnReader, true, false⟩
    else n.card.grant = ⟨w.acl.orDefault r.asLvl m, w.acl.restored r.asUid r.asLvl, false, false⟩ ∧
      n.sub = w.store.subs.lookup (.topic, r.asUid) := by
  have row : w.store.getSub .topic r.asUid true = w.store.subs.lookup (.topic, r.asUid) := by
    unfold Store.getSub
    cases w.store.subs.lookup (.topic, r.asUid) <;> rfl
  simp only [newSubModes, group, reduceCtorEq, if_false, Option.getD_none] at got
  split at got
  · next channel =>
    rw [if_pos channel]
    unfold newChannelSub at got
    split at got
    · cases got
    · cases got
      rfl
  next channel =>
  rw [if_neg channel]
  unfold newOtherSub at got
  simp only [Option.isNone_none, true_and, Option.isSome_none, Bool.false_eq_true, if_false,
    Option.getD_none, orDefault_grp group, row] at got
  split at got
  · cases got
  · cases got
    refine ⟨?_, rfl⟩
    simp only [Acl.restored, World.acl, Option.map_map]
    rfl

end

/-- What `thisUserSub` does to the access list of a group topic where the store calls `fail`
fail. -/
inductive SelfSub (fail : Faults) (a : Acl) (r : SubRequest) : Acl → Prop
  | kept : SelfSub fail a r a
  | joined (m : AccessMode) (addressed : r.asChan = false) (uncached : a.grants r.asUid = none)
      (asked : requestedMode r.want = .ok m) (joiner : (a.restored r.asUid r.asLvl).isJoiner) :
      SelfSub fail a r
        ((a.enroll r.asUid (a.orDefault r.asLvl m) (a.restored r.asUid r.asLvl)).put r.asUid
          ⟨a.orDefault r.asLvl m, a.restored r.asUid r.asLvl, false, false⟩)
  | joinedReader (want : AccessMode) (uncached : a.grants r.asUid = none) :
      SelfSub fail a r (a.put r.asUid ⟨want, modeCChnReader, true, false⟩)
  | updated (m want given : AccessMode) (g : Grant) (cached : a.grants r.asUid = some g)
      (asked : requestedMode r.want = .ok m) (modes : UpdatedModes a r m g want given false) :
      SelfSub fail a r ((a.saveModes r.asUid g want given).settle r.asUid g want given)
  | tookOver (m want given : AccessMode) (g : Grant) (cached : a.grants r.asUid = some g)
      (asked : requestedMode r.want = .ok m) (modes : UpdatedModes a r m g want given true) :
      SelfSub fail a r
        (((a.saveModes r.asUid g want given).handOver r.asUid).settle r.asUid g want given)
  /-- A store failure has stopped the acceptance of a transfer half way. -/
  | interrupted (m want given : AccessMode) (g : Grant) (cached : a.grants r.asUid = some g)
      (asked : requestedMode r.want = .ok m) (modes : UpdatedModes a r m g want given true)
      (a' : Acl) (failed : fail .ownerUpdate ∨ fail .ownerChange)
      (stored : a' = a.saveModes r.asUid g want given ∨
        a' = (a.saveModes r.asUid g want given).disownRow) :
      SelfSub fail a r a'

@[simp] theorem Acl.detach_put_subscriber (a : Acl) (u : Uid) (g : Grant)
    (subscriber : g.reader = false) : (a.put u g).detach u = a.put u g := by
  rw [Acl.detach_put, if_neg (by simp [subscriber])]

section transfer

variable {a : Acl} {u : Uid} {g : Grant} (want given : AccessMode)

theorem Acl.settle_subscriber (a : Acl) (u : Uid) (g : Grant) (want given : AccessMode)
    (subscriber : g.reader = false) :
    a.settle u g want given = a.put u { g with want := want, given := given } := by
  unfold Acl.settle
  dsimp only
  rw [Acl.detach_put_subscriber, ite_self]
  exact subscriber

theorem Acl.saveModes_stored (stored : a.rows u = some ⟨g.want, g.given, true⟩) :
    (a.saveModes u g want given).rows u = some ⟨want, given, true⟩ := by
  rw [Acl.saveModes_rows, stored, Option.map_some]
  split_ifs <;> simp_all

/-- The modes after a complete transfer: of who takes, of who gives, and of the others. -/
theorem Acl.handedOver {old : Grant} (other : u ≠ a.owner)
    (stored : a.rows u = some ⟨g.want, g.given, true⟩)
    (cached : a.grants a.owner = some old) (row : a.rows a.owner = some ⟨old.want, old.given, true⟩)
    (v : Uid) :
    let a' := ((a.saveModes u g want given).handOver u).put u { g with want := want, given := given }
    a'.grants v = (if v = u then some { g with want := want, given := given }
      else if v = a.owner then some old.disown else a.grants v) ∧
    a'.rows v = if v = u then some ⟨want, given, true⟩
      else if v = a.owner then some ⟨old.disown.want, old.disown.given, true⟩ else a.rows v := by
  have giver : ((a.saveModes u g want given).grants a.owner).getD {} = old := by
    rw [show (a.saveModes u g want given).grants = a.grants from rfl, cached, Option.getD_some]
  have only : ChangesOnly u a (a.saveModes u g want given) := .saveModes ..
  intro a'
  subst giver
  constructor
  · simp only [a', handOver, disownRow, put, Function.update_apply]
    rfl
  · simp only [a', handOver, disownRow, editRow, put, Function.update_apply]
    change (if v = a.owner then ((a.saveModes u g want given).rows a.owner).map _ else _) = _
    split_ifs with gives takes takes
    · exact absurd (takes.symm.trans gives) other
    · rw [only.rows _ other.symm, row]
      rfl
    · rw [takes, saveModes_stored want given stored]
    · exact only.rows v takes

end transfer

theorem acl_enrol (w : World) (n : NewSub) (access : Uid → AccessMode)
    (row : r.asChan = false → n.sub = w.store.subs.lookup (.topic, r.asUid)) :
    (w.roster.enrol r n).acl access = if r.asChan then w.roster.acl access
      else (w.roster.acl access).enroll r.asUid n.userData.modeWant n.userData.modeGiven := by
  unfold Roster.enrol SubRequest.tname
  cases channel : r.asChan with
  | true =>
    simp only [if_true, true_and]
    split_ifs
    · exact acl_file_channel ..
    · exact acl_file_channel ..
    · rfl
  | false =>
    have active : (((w.roster.acl access).rows r.asUid).map (·.active)).getD false =
        !(n.sub.isNone || (n.sub.map (·.deletedAt)).getD false) := by
      rw [row channel]
      simp only [Roster.acl, World.roster]
      cases w.store.subs.lookup (.topic, r.asUid) <;> rfl
    rw [Acl.enroll, active]
    cases n.sub.isNone || (n.sub.map (·.deletedAt)).getD false with
    | true => exact acl_file ..
    | false => rfl

variable (ro : Roster)

theorem acl_saveModes (access : Uid → AccessMode) (u : Uid) (old new : PerUserData) :
    (ro.saveModes u old new).acl access =
    (ro.acl access).saveModes u old.grant new.modeWant new.modeGiven :=
  acl_edit ro access u fun _ => rfl

theorem acl_owner (access : Uid → AccessMode) :
    (((ro.acl access).grants ro.owner).getD {}).disown =
    ((ro.cards ro.owner).getD {}).disown.grant := by
  simp only [Roster.acl]
  cases ro.cards ro.owner <;> rfl

theorem acl_disownRow (access : Uid → AccessMode) :
    ro.disownRow.acl access = (ro.acl access).disownRow := by
  refine acl_edit ro access ro.owner fun e => ?_
  have old := acl_owner ro access
  change _ = ({ e.rowGrant with
    want := (((ro.acl access).grants ro.owner).getD {}).disown.want
    given := (((ro.acl access).grants ro.owner).getD {}).disown.given } : RowGrant)
  rw [old]
  rfl

theorem acl_handOver (access : Uid → AccessMode) (u : Uid) :
    (ro.handOver u).acl access = (ro.acl access).handOver u := by
  have put := acl_put ro.disownRow access ro.owner ((ro.cards ro.owner).getD {}).disown
  rw [acl_disownRow, ← acl_owner] at put
  exact congrArg (fun a : Acl => { a with owner := u }) put

theorem thisUserSub_acl (group : w.topic.cat = .grp)
    (alive : ∀ g, w.acl.grants r.asUid = some g → g.deleted = false)
    (ran : thisUserSub cfg fail w r = .ok (w', res)) : SelfSub fail w.acl r w'.acl := by
  have listed {old : PerUserData} (cached : w.topic.perUser.lookup r.asUid = some old) :
      w.acl.grants r.asUid = some old.grant := by simp [World.acl, cached]
  have modes {old new : PerUserData} {ownerChange : Bool} {m : AccessMode}
      (got : updatedSubData cfg w.topic r m old = .ok (.ok (new, ownerChange))) :
      new.card.grant = { old.grant with want := new.modeWant, given := new.modeGiven } := by
    rw [updatedSubData_shape got]
    rfl
  have effect := thisUserSub_roster ran
  rw [acl_of_fixture (thisUserSub_fixture ran)]
  generalize w'.roster = after at effect ⊢
  cases effect with
  | kept =>
    rw [← acl_roster]
    exact .kept
  | joined m n asked absent got joiner =>
    have missing : w.topic.perUser.lookup r.asUid = none := by
      cases cached : w.topic.perUser.lookup r.asUid with
      | none => rfl
      | some pud => cases (alive _ (listed cached)).symm.trans (absent pud cached)
    have uncached : w.acl.grants r.asUid = none := by simp [World.acl, missing]
    rw [missing] at got
    have shape := newSubModes_grp group got
    rw [acl_settled, acl_enrol w n _ fun topic => by
      rw [if_neg (by simp [topic])] at shape
      exact shape.2, ← acl_roster]
    cases channel : r.asChan with
    | true =>
      simp only [channel, if_true] at shape ⊢
      rw [shape]
      split
      · exact .joinedReader _ uncached
      · rw [Acl.detach_put, if_pos rfl, Acl.drop_uncached _ _ uncached]
        exact .kept
    | false =>
      simp only [channel, Bool.false_eq_true, if_false] at shape ⊢
      have want : n.userData.modeWant = w.acl.orDefault r.asLvl m := congrArg Grant.want shape.1
      have given : n.userData.modeGiven = w.acl.restored r.asUid r.asLvl :=
        congrArg Grant.given shape.1
      rw [shape.1, want, given, Acl.detach_put_subscriber _ _ _ rfl, ite_self]
      exact .joined m channel uncached asked (given ▸ joiner)
  | changed m old new ownerChange asked cached present got stores =>
    have update := updatedSubData_grp group got
    rw [acl_settled, modes got]
    cases ownerChange with
    | false =>
      rw [cond_false, acl_saveModes, ← acl_roster]
      exact .updated m _ _ _ (listed cached) asked update
    | true =>
      rw [cond_true, acl_handOver, acl_saveModes, ← acl_roster]
      exact .tookOver m _ _ _ (listed cached) asked update
  | interrupted m old new asked cached present got failed ro stored =>
    refine .interrupted m _ _ _ (listed cached) asked (updatedSubData_grp group got) _ failed ?_
    rw [acl_roster w, ← acl_saveModes, ← acl_disownRow]
    exact stored.imp (congrArg (Roster.acl · _)) (congrArg (Roster.acl · _))

end LastochkaServer.Source
