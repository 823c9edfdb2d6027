import LastochkaServer.Lib.Run
import LastochkaServer.Source.Topic.Loaders
import LastochkaServer.Source.Topic.RosterSessions
import LastochkaServer.Source.Topic.SessionFixture

/-!
# Subscriptions to the `sys` topic

Root users subscribe to the `sys` topic, change the mode they want, ban the topic and come back
(`server/topic.go:1492-1916`, with `getDefaultAccess` of `server/utils.go:244-266`).

A new subscription gets `W` whatever mode is asked for. A later request does not: `modeWant &=
(modeWant & ModeCSys) | ModeWrite` can only clear permissions, so a mode without `W` takes `W` away.
A user who has banned the topic and comes back without naming a mode is given the default of the
category, and there is none for `sys`: `getDefaultAccess` panics.

`sys_sound_iff`: these two kinds of request are the only ones that break what the comment in the
source promises.
-/

namespace LastochkaServer.Guarantees.SysTopic

open Lib Lib.Run Source AccessMode

variable {uid : Uid} {old userData : PerUserData} {ro : Roster} {w : World} {r : SubRequest}
  {card : Card} {m oldWant oldGiven : AccessMode} {skip : String} {cfg : Config} {fail : Faults}
  {t : Topic} {isChan : Bool}

/-- What root users do to the `sys` topic; `fail` says which store calls fail. A restart of the
server loads the topic from the store. -/
inductive SysEvent
  /-- `{sub}` -/
  | sub (fail : Faults) (r : SubRequest) (root : r.asLvl = .root) (authenticated : r.asUid ≠ 0)
  /-- `{set sub}` for oneself -/
  | set (fail : Faults) (r : SetSubRequest) (root : r.asLvl = .root) (authenticated : r.asUid ≠ 0)
      (own : r.target = r.asUid)
  | restart (order : RowOrder)

/-- A panic stops the server, and nothing follows it. -/
def sysStep (cfg : Config) (s : Exec World) (e : SysEvent) : Exec World := do
  let w ← s
  match e with
  | .sub fail r _ _ =>
    if misaddressed w r.asChan then .ok (w.emit (.queueOut r.sess.sid .errNotFound))
    else (·.1) <$> subscriptionReply cfg fail w r
  | .set fail r _ _ _ => handle cfg fail w (.set r)
  | .restart order => .ok { w with topic := initTopicSys cfg order w.store }

/-- The topic of a store in which nobody has subscribed to it. -/
def start (cfg : Config) (users : GoMap Uid User) : Exec World :=
  .ok { topic := initTopicSys cfg .asStored { users := users }, store := { users := users } }

/-- A mode that a subscriber of the `sys` topic may want. -/
def Fit (want : AccessMode) : Prop := want &&& modeCSys = want ∧ want.isWriter

/-- The server is up, and every subscriber wants a mode that is fit. -/
def Sound (s : Exec World) : Prop :=
  ∃ w, s = .ok w ∧ ∀ uid pud, w.topic.perUser.lookup uid = some pud → Fit pud.modeWant

/-- A subscriber who has banned the topic names a mode on coming back, and a mode that is named has
`W`. A mode with `O` is refused, and so is every change that the store does not save. -/
def Meek (w : World) (fail : Faults) (asUid : Uid) (asChan : Bool) (want : String) : Prop :=
  ∀ old ∈ w.topic.perUser.lookup asUid, asChan = false → ∀ m ∈ (requestedMode want).toOption,
    if m = modeUnset then old.modeWant.isJoiner
    else m.isWriter ∨ m.isOwner ∨ fail .subsUpdate

def Careful (s : Exec World) (e : SysEvent) : Prop :=
  ∀ w ∈ s.toOption,
    match e with
    | .sub fail r _ _ => Meek w fail r.asUid r.asChan r.want
    | .set fail r _ _ _ => Meek w fail r.asUid r.asChan r.mode
    | .restart _ => True

/-- What is known of every card. -/
structure Member (card : Card) : Prop where
  want : Fit card.want
  given : card.given = modeCSys
  subscriber : card.isChan = false
  present : card.deleted = false

structure Orderly (ro : Roster) : Prop where
  sys : ro.cat = .sys
  plain : ro.isChan = false
  unowned : ro.owner = 0
  cards : ∀ uid card, ro.cards uid = some card → Member card
  rows : ∀ uid e, ro.rows (.topic, uid) = some e → Fit e.want ∧ e.given = modeCSys

theorem Orderly.put (ord : Orderly ro) (uid : Uid) (mem : Member card) :
    Orderly (ro.put uid (some card)) where
  sys := ord.sys
  plain := ord.plain
  unowned := ord.unowned
  rows := ord.rows
  cards v other listed := by
    by_cases same : v = uid
    · subst same
      rw [Roster.put_same] at listed
      cases listed
      exact mem
    · rw [Roster.put_other ro _ same] at listed
      exact ord.cards v other listed

theorem Orderly.file (ord : Orderly ro) (key : Addressing × Uid) {entry : Option Entry}
    (fit : ∀ e, entry = some e → Fit e.want ∧ e.given = modeCSys) : Orderly (ro.file key entry) where
  sys := ord.sys
  plain := ord.plain
  unowned := ord.unowned
  cards := ord.cards
  rows v e stored := by
    by_cases same : (.topic, v) = key
    · subst same
      rw [Roster.file_same] at stored
      exact fit e stored
    · simp only [Roster.file, ne_eq, same, not_false_eq_true, Function.update_of_ne] at stored
      exact ord.rows v e stored

theorem Orderly.sane (ord : Orderly w.roster) : w.books.Sane where
  readers uid s taken reader := by
    obtain ⟨pud, cached, rfl⟩ := Option.map_eq_some_iff.mp taken
    have subscriber := (ord.cards uid pud.card (cards_of_cached cached)).subscriber
    have reader : pud.card.isChan := reader
    rw [subscriber] at reader
    cases reader
  channel channel := by
    have plain : w.topic.isChan = false := ord.plain
    have channel : w.topic.isChan := channel
    rw [plain] at channel
    cases channel

theorem writer_sys (m : AccessMode) : (m &&& modeCSys).isWriter = m.isWriter := by
  have write : modeCSys.getLsbD 2 := by decide
  simp [isWriter_eq, write]

theorem fit_and (writer : m.isWriter) : Fit (m &&& modeCSys) := by
  refine ⟨?_, by rw [writer_sys, writer]⟩
  rw [BitVec.and_assoc, BitVec.and_self]

theorem fit_sys : Fit modeCSys := ⟨by decide, by decide⟩

theorem fit_new (m : AccessMode) : Fit ((m &&& modeCSys) ||| modeWrite ||| modeJoin) ∧
    ((m &&& modeCSys) ||| modeWrite ||| modeJoin).isJoiner := by
  have rest : (modeWrite ||| modeJoin) &&& modeCSys = modeWrite ||| modeJoin := by decide
  refine ⟨⟨?_, ?_⟩, ?_⟩
  · rw [BitVec.or_assoc, BitVec.and_comm, BitVec.and_or_distrib_left,
      BitVec.and_comm modeCSys (modeWrite ||| modeJoin),
      rest, BitVec.and_comm modeCSys, BitVec.and_assoc, BitVec.and_self]
  · have write : modeWrite.getLsbD 2 := by decide
    simp [isWriter_eq, write]
  · have join : modeJoin.isJoiner := by decide
    rw [isJoiner_or, join, Bool.or_true]

/-- The expression of the source only clears permissions. -/
theorem masked_sys (m : AccessMode) : m &&& ((m &&& modeCSys) ||| modeWrite) = m &&& modeCSys := by
  have absorbed : modeCSys ||| modeWrite = modeCSys := by decide
  rw [BitVec.and_or_distrib_left, ← BitVec.and_assoc, BitVec.and_self, ← BitVec.and_or_distrib_left,
    absorbed]

theorem newSubModes_sys {cached : Option PerUserData} (sys : w.topic.cat = .sys)
    (root : r.asLvl = .root) :
    newSubModes cfg fail w r m cached = .ok (.ok { userData := { cached.getD {} with
      modeWant := if m ≠ modeUnset then (m &&& modeCSys) ||| modeWrite ||| modeJoin else modeCSys
      modeGiven := modeCSys } }) := by
  simp [newSubModes, newSysSub, sys, root]

-- Outside P2P topics a request panics only where the modes are computed.

section

variable {actor : Uid} {cached : Option PerUserData}

theorem notifySubChange_returns {newWant newGiven : AccessMode} (group : w.topic.cat ≠ .p2p) :
    ∃ w', notifySubChange w uid actor isChan oldWant oldGiven newWant newGiven skip = .ok w' := by
  unfold notifySubChange
  rw [if_neg fun told => group told.1]
  exact ⟨_, rfl⟩

theorem reportChange_returns {changed : Bool} (group : w.topic.cat ≠ .p2p) :
    ∃ w', reportChange w changed uid actor isChan oldWant oldGiven userData skip = .ok w' := by
  have counted : (updateUnread w uid (oldWant &&& oldGiven) userData).topic = w.topic := by
    unfold updateUnread
    split_ifs <;> rfl
  unfold reportChange
  split
  · apply notifySubChange_returns
    split
    · exact group
    · rw [counted]
      exact group
  · exact ⟨w, rfl⟩

theorem original_returns (group : t.cat ≠ .p2p) : ∃ name, t.original uid = .ok name := by
  unfold Topic.original
  split
  · contradiction
  · exact ⟨_, rfl⟩
  · exact ⟨_, rfl⟩

theorem evictUser_returns {unsub : Bool} (group : w.topic.cat ≠ .p2p) :
    ∃ w', evictUser w uid unsub skip = .ok w' := by
  have cat : (forgetUser w uid unsub).topic.cat = w.topic.cat := by
    rw [(forgetUser_frame w uid unsub).1]
  exact bind_returns (original_returns (cat.symm ▸ group)) fun _ _ => ⟨_, rfl⟩

theorem applySub_returns (group : w.topic.cat ≠ .p2p) :
    ∃ out, applySub w r oldWant oldGiven userData = .ok out := by
  refine bind_returns (reportChange_returns group) fun applied reported => ?_
  have cat : applied.topic.cat ≠ .p2p := by
    rw [(reportChange_ok reported).1]
    exact group
  dsimp only
  split
  · exact bind_returns (evictUser_returns cat) fun _ _ => ⟨_, rfl⟩
  split
  all_goals exact ⟨_, rfl⟩

theorem newSubData_returns (got : ∃ n, newSubModes cfg fail w r m cached = .ok n) :
    ∃ n, newSubData cfg fail w r m cached = .ok n := by
  unfold newSubData
  split
  · exact ⟨_, rfl⟩
  refine bind_returns got fun n _ => ?_
  cases n with
  | error rej => exact ⟨_, rfl⟩
  | ok n =>
    dsimp only
    split
    all_goals exact ⟨_, rfl⟩

theorem thisUserNewSub_returns (group : w.topic.cat ≠ .p2p)
    (got : ∃ n, newSubData cfg fail w r m cached = .ok n) :
    ∃ out, thisUserNewSub cfg fail w r m cached = .ok out := by
  refine bind_returns got fun n _ => ?_
  cases n with
  | error rej => exact ⟨_, rfl⟩
  | ok n =>
    dsimp only
    split
    · exact ⟨_, rfl⟩
    next stored saved =>
    apply applySub_returns
    have topic : stored.topic = w.topic := saveNewSub_topic saved
    split
    · rw [topic]
      exact group
    · rw [World.emit_topic, topic]
      exact group

theorem thisUserUpdateSub_returns {out : Except Rejection (PerUserData × Bool)}
    (group : w.topic.cat ≠ .p2p) (got : updatedSubData cfg w.topic r m old = .ok out)
    (kept : ∀ new ownerChange, out = .ok (new, ownerChange) → ownerChange = false) :
    ∃ out, thisUserUpdateSub cfg fail w r m old = .ok out := by
  refine bind_returns ⟨_, got⟩ fun found same => ?_
  rw [got] at same
  cases same
  cases out with
  | error rej => exact ⟨_, rfl⟩
  | ok data =>
    obtain ⟨new, ownerChange⟩ := data
    cases kept new ownerChange rfl
    dsimp only
    split
    · exact ⟨_, rfl⟩
    · next stored saved =>
      apply applySub_returns
      rw [(saveUpdatedSub_roster saved).2.1]
      exact group

theorem thisUserUpdateSub_saves {w' : World} {new : PerUserData}
    {res : Except String (Option MsgAccessMode)}
    (got : updatedSubData cfg w.topic r m old = .ok (.ok (new, false)))
    (stores : fail .subsUpdate = false)
    (ran : thisUserUpdateSub cfg fail w r m old = .ok (w', res)) :
    w'.roster =
      (w.roster.saveModes r.asUid old (updatedPrivate r new)).put r.asUid new.card.settled := by
  obtain ⟨out, found, ran⟩ := bind_ok ran
  rw [got] at found
  cases found
  dsimp only at ran
  split at ran
  · next rej refused =>
    unfold saveUpdatedSub at refused
    dsimp only at refused
    rw [stores] at refused
    split at refused
    · cases refused
    · cases refused
  · next stored saved =>
    rw [applySub_roster ran, (saveUpdatedSub_roster saved).1, (updatedPrivate_card r new).1]

end

theorem Orderly.cached (ord : Orderly w.roster) {uid : Uid} {pud : PerUserData}
    (cached : w.topic.perUser.lookup uid = some pud) : Member pud.card :=
  ord.cards uid pud.card (cards_of_cached cached)

/-- The modes of a subscriber after a request: an unset mode brings nobody back who has banned the
topic. -/
theorem Orderly.computed (cfg : Config) (ord : Orderly w.roster) (authed : r.asUid ≠ 0)
    (plain : r.asChan = false)
    {old : PerUserData} (cached : w.topic.perUser.lookup r.asUid = some old) (m : AccessMode) :
    updatedSubData cfg w.topic r m old =
      if m = modeUnset then
        if old.modeWant.isJoiner then .ok (.ok (old, false)) else .error .unknownTopicCategory
      else if m.isOwner then
        .ok (.error ⟨some .errPermissionDenied, "non-owner cannot request ownership transfer"⟩)
      else .ok (.ok ({ old with modeWant := m &&& modeCSys }, false)) := by
  have sys : w.topic.cat = .sys := ord.sys
  have owner : w.topic.owner = 0 := ord.unowned
  have given : old.modeGiven = modeCSys := (ord.cached cached).given
  have modest : modeCSys.isOwner = false := by decide
  have panics : w.topic.accessFor cfg r.asLvl = .error .unknownTopicCategory := by
    simp [Topic.accessFor, getDefaultAccess, sys, bind, Except.bind]
  unfold updatedSubData
  simp only [plain, panics, given, modest, sys, owner, authed.symm, masked_sys,
    Bool.false_eq_true, and_false,
    if_false, false_and, Bool.not_false, true_and, Bool.false_and, reduceCtorEq, pure, Except.pure,
    bind, Except.bind]

theorem thisUserSub_returns (cfg : Config) (ord : Orderly w.roster) (root : r.asLvl = .root)
    (authed : r.asUid ≠ 0)
    (plain : r.asChan = false) (meek : Meek w fail r.asUid r.asChan r.want) :
    ∃ out, thisUserSub cfg fail w r = .ok out := by
  have sys : w.topic.cat = .sys := ord.sys
  have group : w.topic.cat ≠ .p2p := by
    rw [sys]
    decide
  have joins (m : AccessMode) (cached : Option PerUserData) :
      ∃ n, newSubData cfg fail w r m cached = .ok n :=
    newSubData_returns ⟨_, newSubModes_sys sys root⟩
  unfold thisUserSub
  split
  · exact ⟨_, rfl⟩
  next m asked =>
  split
  · exact thisUserNewSub_returns group (joins m none)
  next old cached =>
  split
  · exact thisUserNewSub_returns group (joins m (some old))
  have got := ord.computed cfg authed plain cached m
  have named := meek old cached plain m (by rw [asked]; rfl)
  split at named
  · next unset =>
    rw [if_pos unset, if_pos named] at got
    refine thisUserUpdateSub_returns group got ?_
    rintro new ownerChange ⟨⟩
    rfl
  next explicit =>
  rw [if_neg explicit] at got
  split at got
  · exact thisUserUpdateSub_returns group got nofun
  · refine thisUserUpdateSub_returns group got ?_
    rintro new ownerChange ⟨⟩
    rfl

theorem Orderly.saveModes (ord : Orderly ro) (uid : Uid) {new : PerUserData}
    (want : Fit new.modeWant) (given : new.modeGiven = modeCSys) :
    Orderly (ro.saveModes uid old new) := by
  refine ord.file (.topic, uid) fun e stored => ?_
  obtain ⟨before, found, rfl⟩ := Option.map_eq_some_iff.mp stored
  have kept := ord.rows uid before found
  constructor
  · dsimp only
    split_ifs
    · exact want
    · exact kept.1
  · dsimp only
    split_ifs
    · exact given
    · exact kept.2

theorem Member.settled (mem : Member card) : card.settled = some card := by
  simp [Card.settled, Card.detached, mem.subscriber]

theorem Orderly.listed {ro : Roster} (ord : Orderly w.roster) (root : r.asLvl = .root)
    (authed : r.asUid ≠ 0)
    (plain : r.asChan = false) (meek : Meek w fail r.asUid r.asChan r.want)
    (listed : SelfListed cfg fail w r ro) :
    Orderly ro := by
  cases listed with
  | kept => exact ord
  | joined m n asked absent got joiner =>
    have uncached : w.topic.perUser.lookup r.asUid = none := by
      cases cached : w.topic.perUser.lookup r.asUid with
      | none => rfl
      | some pud =>
        have present : pud.deleted = false := (ord.cached cached).present
        rw [absent pud cached] at present
        cases present
    rw [newSubModes_sys ord.sys root, uncached] at got
    cases got
    have want :
        Fit (if m ≠ modeUnset then (m &&& modeCSys) ||| modeWrite ||| modeJoin else modeCSys) := by
      split_ifs
      · exact (fit_new m).1
      · exact fit_sys
    rw [Member.settled ⟨want, rfl, rfl, rfl⟩]
    refine Orderly.put ?_ r.asUid ⟨want, rfl, rfl, rfl⟩
    refine ord.file (r.tname, r.asUid) fun e stored => ?_
    cases stored
    exact ⟨want, rfl⟩
  | changed m old new ownerChange asked cached present got stores =>
    have mem := ord.cached cached
    rw [ord.computed cfg authed plain cached m] at got
    have named := meek old cached plain m (by rw [asked]; rfl)
    split at named
    · next unset =>
      rw [if_pos unset, if_pos named] at got
      cases got
      rw [mem.settled]
      exact (ord.saveModes r.asUid mem.want mem.given).put r.asUid mem
    next explicit =>
    rw [if_neg explicit] at got
    split at got
    · cases got
    next modest =>
    cases got
    have want : Fit (m &&& modeCSys) := by
      rcases named with writer | owner | failed
      · exact fit_and writer
      · contradiction
      · by_contra unfit
        have changed : m &&& modeCSys ≠ old.modeWant := by
          intro same
          exact unfit (same ▸ mem.want)
        have stored := stores (.inl changed)
        rw [failed] at stored
        cases stored
    have after : Member ({ old with modeWant := m &&& modeCSys } : PerUserData).card :=
      { mem with want }
    rw [after.settled]
    have saved : Orderly (w.roster.saveModes r.asUid old { old with modeWant := m &&& modeCSys }) :=
      ord.saveModes r.asUid want mem.given
    exact saved.put r.asUid after
  | interrupted m old new asked cached present got failed stored =>
    rw [ord.computed cfg authed plain cached m] at got
    split_ifs at got
    all_goals cases got

/-- A request that is not meek panics or leaves the user with a mode without `W`. -/
theorem unmeek_shows (ord : Orderly w.roster) (authed : r.asUid ≠ 0)
    (unmeek : ¬ Meek w fail r.asUid r.asChan r.want)
    {out : World × Except String (Option MsgAccessMode)}
    (ran : thisUserSub cfg fail w r = .ok out) :
    ∃ card, out.1.roster.cards r.asUid = some card ∧ card.want.isWriter = false := by
  simp only [Meek, not_forall] at unmeek
  obtain ⟨old, cached, plain, m, asked, loose⟩ := unmeek
  have mem := ord.cached cached
  have got := ord.computed cfg authed plain cached m
  have asked : requestedMode r.want = .ok m := by
    cases parsed : requestedMode r.want with
    | error text =>
      rw [parsed] at asked
      cases asked
    | ok mode =>
      rw [parsed] at asked
      cases asked
      rfl
  unfold thisUserSub at ran
  rw [asked] at ran
  rw [cached] at ran
  dsimp only at ran
  rw [if_neg (by simp [show old.deleted = false from mem.present])] at ran
  split at loose
  · next unset =>
    rw [if_pos unset, if_neg loose] at got
    unfold thisUserUpdateSub at ran
    rw [got] at ran
    cases ran
  next explicit =>
  simp only [not_or, Bool.not_eq_true] at loose
  rw [if_neg explicit, if_neg (by simp [loose.2.1])] at got
  have view := thisUserUpdateSub_saves got loose.2.2 ran
  refine ⟨({ old with modeWant := m &&& modeCSys } : PerUserData).card, ?_, ?_⟩
  · rw [view, Roster.put_same]
    have subscriber : ({ old with modeWant := m &&& modeCSys } : PerUserData).card.isChan = false :=
      mem.subscriber
    simp [Card.settled, Card.detached, subscriber]
  · exact (writer_sys m).trans loose.1

section

variable {w' : World}

/-- The event is `thisUserSub` with another reply, unless it is for a channel. -/
structure Serves (cfg : Config) (w : World) (e : SysEvent) (fail : Faults) (r : SubRequest) :
    Prop where
  root : r.asLvl = .root
  authenticated : r.asUid ≠ 0
  careful : Careful (.ok w) e ↔ Meek w fail r.asUid r.asChan r.want
  channel : r.asChan → ∃ w', sysStep cfg (.ok w) e = .ok w' ∧ w'.roster = w.roster
  panics : r.asChan = false → ∀ p, thisUserSub cfg fail w r = .error p →
    sysStep cfg (.ok w) e = .error p
  returns : r.asChan = false → ∀ out, thisUserSub cfg fail w r = .ok out →
    ∃ w', sysStep cfg (.ok w) e = .ok w' ∧
    SelfListed cfg fail w r w'.roster ∧ ∀ card, out.1.roster.cards r.asUid = some card →
    w'.roster = out.1.roster

theorem Orderly.misaddressed (ord : Orderly w.roster) (asChan : Bool) :
    misaddressed w asChan = asChan := by
  have plain : w.topic.isChan = false := ord.plain
  simp [Source.misaddressed, plain]

theorem sub_serves (cfg : Config) (ord : Orderly w.roster) {r : SubRequest} (root : r.asLvl = .root)
    (authed : r.asUid ≠ 0) :
    Serves cfg w (.sub fail r root authed) fail { r with newsub := isNewsub w.topic r } := by
  have replies (plain : r.asChan = false) : sysStep cfg (.ok w) (.sub fail r root authed) =
      (·.1) <$> subscriptionReply cfg fail w r := if_neg (by simp [ord.misaddressed, plain])
  refine ⟨root, authed, ?_, fun channel => ?_, fun plain p panicked => ?_, fun plain out done => ?_⟩
  · simp [Careful, Except.toOption]
  · exact ⟨_, if_pos ((ord.misaddressed _).trans channel), rfl⟩
  · rw [replies plain, subscriptionReply, panicked]
    rfl
  obtain ⟨w', res, ran, attached⟩ : ∃ w' res, subscriptionReply cfg fail w r = .ok (w', res) ∧
      ∀ card, out.1.roster.cards r.asUid = some card → w'.roster = out.1.roster := by
    unfold subscriptionReply
    dsimp only
    rw [done]
    obtain ⟨subscribed, outcome⟩ := out
    cases outcome with
    | error text => exact ⟨subscribed, .error text, rfl, fun _ _ => rfl⟩
    | ok modeChanged =>
      let after := if hasJoined modeChanged then
        subscribed.setTopic (attachSession subscribed.topic r (isNewsub w.topic r)) else subscribed
      have kept : after.fixture = w.fixture := by
        unfold after
        split
        · exact (attachSession_fixture ..).trans (thisUserSub_fixture done)
        · exact thisUserSub_fixture done
      have cat : after.topic.cat = .sys := (congrArg Fixture.cat kept :).trans ord.sys
      obtain ⟨name, known⟩ : ∃ name, after.topic.original r.asUid = .ok name :=
        original_returns (by rw [cat]; decide)
      refine ⟨after.emit (.queueOut r.sess.sid .noErr), .ok (hasJoined modeChanged), ?_,
        fun card listed => ?_⟩
      · change (after.topic.original r.asUid >>= _) = _
        rw [known]
        rfl
      · rw [roster_emit]
        unfold after
        split
        · exact attachSession_roster listed
        · rfl
  refine ⟨w', ?_,
    subscriptionReply_roster ord.sane (by simp [show r.asChan = false from plain]) ran, attached⟩
  rw [replies plain, ran]
  rfl

theorem set_serves (cfg : Config) (ord : Orderly w.roster) {r : SetSubRequest}
    (root : r.asLvl = .root)
    (authed : r.asUid ≠ 0) (own : r.target = r.asUid) :
    Serves cfg w (.set fail r root authed own) fail r.toSub := by
  have parsed : r.user ≠ some 0 := by
    intro zero
    rw [SetSubRequest.target, zero] at own
    exact authed own.symm
  have replies (plain : r.asChan = false) : sysStep cfg (.ok w) (.set fail r root authed own) =
      (·.1) <$> replySetSub cfg fail w r := if_neg (by simp [ord.misaddressed, plain])
  have same : setSub cfg fail w r = thisUserSub cfg fail w r.toSub := if_pos own
  refine ⟨root, authed, ?_, fun channel => ?_, fun plain p panicked => ?_, fun plain out done => ?_⟩
  · simp [Careful, Except.toOption, SetSubRequest.toSub]
  · exact ⟨_, if_pos ((ord.misaddressed _).trans channel), rfl⟩
  · rw [replies plain, replySetSub, if_neg parsed, same, panicked]
    rfl
  · obtain ⟨stored, outcome⟩ := out
    suffices ∃ w', sysStep cfg (.ok w) (.set fail r root authed own) = .ok w' ∧
        w'.roster = stored.roster by
      obtain ⟨w', ran, view⟩ := this
      exact ⟨w', ran, view ▸ thisUserSub_roster done, fun _ _ => view⟩
    rw [replies plain, replySetSub, if_neg parsed, same, done]
    cases outcome with
    | error text => exact ⟨_, rfl, rfl⟩
    | ok modeChanged => cases modeChanged <;> exact ⟨_, rfl, rfl⟩

theorem request_serves (cfg : Config) (ord : Orderly w.roster) (e : SysEvent) :
    (∃ order, e = .restart order) ∨ ∃ fail r, Serves cfg w e fail r := by
  cases e with
  | restart order => exact .inl ⟨order, rfl⟩
  | sub fail r root authed => exact .inr ⟨fail, _, sub_serves cfg ord root authed⟩
  | set fail r root authed own => exact .inr ⟨fail, _, set_serves cfg ord root authed own⟩

theorem Orderly.loaded (ord : Orderly w.roster) (order : RowOrder) :
    Orderly ({ w with topic := initTopicSys cfg order w.store } : World).roster := by
  obtain ⟨perUser, owner, shape⟩ :=
    Topic.loadSubscribers_shape (Topic.blankSys w.store) (w.store.getSubs cfg order)
  have unowned :
      ((Topic.blankSys w.store).loadSubscribers (w.store.getSubs cfg order)).owner = 0 := by
    refine Topic.loadSubscribers_owner _ _ 0 ?_ (.inl rfl)
    rintro ⟨uid, sub⟩ loaded owns
    have stored := ((mem_activeSubs w.store uid sub).mp (getSubs_active loaded)).1
    have given : sub.modeGiven = modeCSys :=
      (ord.rows uid sub.entry (by simp [World.roster, stored])).2
    have modest : modeCSys.isOwner = false := by decide
    rw [isOwner_and, given, modest] at owns
    cases owns
  refine ⟨?_, ?_, unowned, fun uid card cached => ?_, ord.rows⟩
  · exact congrArg Topic.cat shape
  · exact congrArg Topic.isChan shape
  · obtain ⟨e, stored, -, rfl⟩ := loaded_sound rfl cached
    obtain ⟨want, given⟩ := ord.rows uid e stored
    exact ⟨want, given, rfl, rfl⟩

end

/-- The server is up, and the roster is in order. -/
def Healthy (s : Exec World) : Prop := ∃ w, s = .ok w ∧ Orderly w.roster

theorem Healthy.sound {s : Exec World} (healthy : Healthy s) : Sound s := by
  obtain ⟨w, rfl, ord⟩ := healthy
  exact ⟨w, rfl, fun uid pud cached => (ord.cached cached).want⟩

theorem sysStep_healthy (cfg : Config) (s : Exec World) (e : SysEvent) (healthy : Healthy s)
    (careful : Careful s e) :
    Healthy (sysStep cfg s e) := by
  obtain ⟨w, rfl, ord⟩ := healthy
  obtain ⟨order, rfl⟩ | ⟨fail, r, serves⟩ := request_serves cfg ord e
  · exact ⟨_, rfl, ord.loaded order⟩
  have meek := serves.careful.mp careful
  cases plain : r.asChan with
  | true =>
    obtain ⟨w', refused, view⟩ := serves.channel plain
    exact ⟨w', refused, view ▸ ord⟩
  | false =>
    obtain ⟨out, done⟩ := thisUserSub_returns cfg ord serves.root serves.authenticated plain meek
    obtain ⟨w', ran, listed, -⟩ := serves.returns plain out done
    exact ⟨w', ran, ord.listed serves.root serves.authenticated plain meek listed⟩

theorem unwritten_unsound (listed : w.roster.cards uid = some card)
    (silent : card.want.isWriter = false) : ¬ Sound (.ok w) := by
  rintro ⟨_, ⟨⟩, fit⟩
  obtain ⟨pud, cached, rfl⟩ := Option.map_eq_some_iff.mp listed
  have writer := (fit uid pud cached).2
  have silent : pud.modeWant.isWriter = false := silent
  rw [silent] at writer
  cases writer

theorem panic_unsound (p : Panic) : ¬ Sound (.error p) := by
  rintro ⟨w, ⟨⟩, -⟩

theorem careless_shows (cfg : Config) (s : Exec World) (e : SysEvent) (healthy : Healthy s)
    (careless : ¬ Careful s e) :
    ¬ Sound (sysStep cfg s e) := by
  obtain ⟨w, rfl, ord⟩ := healthy
  obtain ⟨order, rfl⟩ | ⟨fail, r, serves⟩ := request_serves cfg ord e
  · exact absurd (fun _ _ => trivial) careless
  have unmeek := mt serves.careful.mpr careless
  have plain : r.asChan = false := by
    by_contra channel
    exact unmeek fun _ _ plain => absurd plain channel
  cases done : thisUserSub cfg fail w r with
  | error p =>
    rw [serves.panics plain p done]
    exact panic_unsound p
  | ok out =>
    obtain ⟨card, listed, silent⟩ := unmeek_shows ord serves.authenticated unmeek done
    obtain ⟨w', ran, -, view⟩ := serves.returns plain out done
    rw [ran]
    exact unwritten_unsound (view card listed ▸ listed) silent

theorem start_healthy (cfg : Config) (users : GoMap Uid User) : Healthy (start cfg users) := by
  have blank :
      Orderly ({ topic := Topic.blankSys { users := users }, store := { users := users } } :
        World).roster :=
    ⟨rfl, rfl, rfl, nofun, nofun⟩
  exact ⟨_, rfl, blank.loaded .asStored⟩

/-- The server stays up and every subscriber of the `sys` topic wants a mode that is fit, in every
state of a run, just when no subscriber who has banned the topic comes back without naming a mode,
and none names a mode without `W` that is accepted. -/
theorem sys_sound_iff (cfg : Config) (users : GoMap Uid User) (events : List SysEvent) :
    (∀ before after, events = before ++ after → Sound (run (sysStep cfg) (start cfg users) before)) ↔
      Guarded (sysStep cfg) Careful (start cfg users) events :=
  guarded_iff (sysStep_healthy cfg) (fun _ healthy => healthy.sound) (careless_shows cfg)
    (start_healthy cfg users) events

/-- The session of a root user. -/
def rootSession : Session := { sid := "s1", proto := .websock, uid := 1 }

def join : SysEvent :=
  .sub (fun _ => false) { sess := rootSession, asUid := 1, asLvl := .root } rfl (by decide)

theorem somebody : (1 : Uid) ≠ 0 := by decide

def change (mode : String) : SysEvent :=
  .set (fun _ => false) { sess := rootSession, asUid := 1, asLvl := .root, mode := mode } rfl
    somebody rfl

/-- A subscriber who asks for `JR` loses `W`, and one who keeps only `W` and comes back brings the
server down. -/
theorem sys_run_breaks :
    (∃ events : List SysEvent, ∃ w, run (sysStep {}) (start {} ∅) events = .ok w ∧
        ∃ pud, w.topic.perUser.lookup 1 = some pud ∧ pud.modeWant.isWriter = false) ∧
      ∃ events : List SysEvent, run (sysStep {}) (start {} ∅) events =
        .error .unknownTopicCategory := by
  exact ⟨⟨[join, change "JR"], _, rfl, _, rfl, by decide⟩, ⟨[join, change "W", join], rfl⟩⟩

end LastochkaServer.Guarantees.SysTopic
