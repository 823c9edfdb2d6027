import LastochkaServer.Lib.Run
import LastochkaServer.Source.Topic.Requests

/-!
# The cache and the database

A topic keeps the modes of its subscribers and its owner in memory and writes every change through
to the database. `request_keeps_agreement_iff` says which requests leave the two apart: an
acceptance of the ownership whose second or third write fails, a new subscription that owns the
topic at once, and a changed mode of a channel reader, whose row has another name than the one that
is written.
-/

namespace LastochkaServer.Guarantees.CacheAgreement

open Lib Lib.Run Source Source.AccessMode

variable {w w' : World} {fail : Faults} {r : SubRequest} {u asUid : Uid} {cfg : Config}
  {m given want oldWant oldGiven : AccessMode} {g : Grant} {old new userData : PerUserData}
  {res : Except String (Option MsgAccessMode)} {a : Acl} {rej : Rejection} {taken : Bool}
  {sess : Session} {original : Addressing} {n : NewSub}

def isActive (row : Option RowGrant) : Bool := (row.map (·.active)).getD false

/-- The subscription of a channel reader, stored under the channel name. -/
def readerRow (s : Store) (u : Uid) : Option RowGrant :=
  (s.subs.lookup (.channel, u)).map Subscription.rowGrant

/-- The cached modes of a user are the stored ones. Channel readers are cached only while they are
attached, so a user who is not cached has no active subscription under the name of the topic. -/
def AgreesFor (grant : Option Grant) (row reader : Option RowGrant) : Prop :=
  match grant with
  | none => isActive row = false
  | some g => (if g.reader then reader else row) = some ⟨g.want, g.given, true⟩

structure Agrees (w : World) : Prop where
  owner : w.topic.owner = w.store.topicOwner
  users : ∀ u, AgreesFor (w.acl.grants u) (w.acl.rows u) (readerRow w.store u)

/-- A group topic between two requests: the owner is a subscriber with `O` wanted and given, and all
that a channel reader has is a subscription under the channel name with the fixed given mode. -/
structure Settled (w : World) : Prop extends Agrees w where
  group : w.topic.cat = .grp
  alive : ∀ u g, w.acl.grants u = some g → g.deleted = false
  owned : ∃ g, w.acl.grants w.topic.owner = some g ∧ g.reader = false ∧ g.owns
  given : ∀ u row, readerRow w.store u = some row → row.given = modeCChnReader
  apart : ∀ u g, w.acl.grants u = some g → g.reader → isActive (w.acl.rows u) = false

/-- What is true of one user of a settled topic. -/
structure UserSettled (grant : Option Grant) (row reader : Option RowGrant) : Prop where
  agrees : AgreesFor grant row reader
  alive : ∀ g, grant = some g → g.deleted = false
  given : ∀ row, reader = some row → row.given = modeCChnReader
  apart : ∀ g, grant = some g → g.reader → isActive row = false

namespace UserSettled

variable {row reader : Option RowGrant}

theorem absent (inactive : isActive row = false)
    (given : ∀ row, reader = some row → row.given = modeCChnReader) : UserSettled none row reader :=
  ⟨inactive, by simp, given, by simp⟩

theorem subscriber (subscribed : g.reader = false) (alive : g.deleted = false)
    (given : ∀ row, reader = some row → row.given = modeCChnReader) :
    UserSettled (some g) (some ⟨g.want, g.given, true⟩) reader :=
  ⟨by simp [AgreesFor, subscribed], by simp [alive], given, by simp [subscribed]⟩

theorem attached (reads : g.reader) (alive : g.deleted = false) (given : g.given = modeCChnReader)
    (inactive : isActive row = false) : UserSettled (some g) row (some ⟨g.want, g.given, true⟩) :=
  ⟨by simp [AgreesFor, reads], by simp [alive], by simp [given], fun _ _ _ => inactive⟩

end UserSettled

theorem settled_of_users (group : w.topic.cat = .grp) (owner : w.topic.owner = w.store.topicOwner)
    (owned : ∃ g, w.acl.grants w.topic.owner = some g ∧ g.reader = false ∧ g.owns)
    (users : ∀ u, UserSettled (w.acl.grants u) (w.acl.rows u) (readerRow w.store u)) : Settled w where
  owner := owner
  users u := (users u).agrees
  group := group
  alive u := (users u).alive
  owned := owned
  given u := (users u).given
  apart u := (users u).apart

section

variable (settled : Settled w)
include settled

theorem Settled.user (u : Uid) : UserSettled (w.acl.grants u) (w.acl.rows u) (readerRow w.store u) :=
  ⟨settled.users u, settled.alive u, settled.given u, settled.apart u⟩

theorem Settled.change (only : Acl.ChangesOnly u w.acl w'.acl)
    (owner : w'.store.topicOwner = w.store.topicOwner)
    (readers : ∀ v, v ≠ u → readerRow w'.store v = readerRow w.store v)
    (user : UserSettled (w'.acl.grants u) (w'.acl.rows u) (readerRow w'.store u))
    (owned : u = w.topic.owner → ∃ g, w'.acl.grants u = some g ∧ g.reader = false ∧ g.owns) :
    Settled w' := by
  have topicOwner : w'.topic.owner = w.topic.owner := only.owner
  refine settled_of_users (only.cat.trans settled.group) (by rw [topicOwner, owner, settled.owner])
    ?_ fun v => ?_
  · rw [topicOwner]
    by_cases same : w.topic.owner = u
    · rw [same]
      exact owned same.symm
    · rw [only.grants _ same]
      exact settled.owned
  · by_cases same : v = u
    · exact same ▸ user
    · rw [only.grants v same, only.rows v same, readers v same]
      exact settled.user v

/-- Agreement is about the access list, the stored owner and the readers. -/
theorem Settled.congr (acl : w'.acl = w.acl) (owner : w'.store.topicOwner = w.store.topicOwner)
    (readers : readerRow w'.store = readerRow w.store) : Settled w' := by
  refine settled.change (u := w.topic.owner) (acl ▸ .refl) owner (fun v _ => by rw [readers]) ?_
    fun _ => ?_
  · rw [acl, readers]
    exact settled.user _
  · rw [acl]
    exact settled.owned

theorem Settled.owns (cached : w.acl.grants u = some g) (own : u = w.topic.owner) :
    g.reader = false ∧ g.owns := by
  obtain ⟨g', known, owned⟩ := settled.owned
  rw [← own, cached] at known
  cases known
  exact owned

theorem Settled.uncached_ne (uncached : w.acl.grants u = none) : u ≠ w.topic.owner := by
  rintro rfl
  obtain ⟨g, cached, -⟩ := settled.owned
  cases uncached.symm.trans cached

theorem Settled.reader_ne (cached : w.acl.grants u = some g) (reader : g.reader) :
    u ≠ w.topic.owner :=
  fun own => by cases reader.symm.trans (settled.owns cached own).1

theorem Settled.stored (cached : w.acl.grants u = some g) (subscriber : g.reader = false) :
    w.acl.rows u = some ⟨g.want, g.given, true⟩ := by
  have user := settled.users u
  rw [cached] at user
  simpa only [AgreesFor, subscriber, Bool.false_eq_true, if_false] using user

theorem Settled.reader (cached : w.acl.grants u = some g) (reader : g.reader) :
    readerRow w.store u = some ⟨g.want, g.given, true⟩ ∧ g.given = modeCChnReader := by
  have user := settled.users u
  rw [cached] at user
  have row : readerRow w.store u = some ⟨g.want, g.given, true⟩ := by
    simpa only [AgreesFor, reader, if_true] using user
  exact ⟨row, settled.given u _ row⟩

theorem Settled.inactive (uncached : w.acl.grants u = none) : isActive (w.acl.rows u) = false := by
  have user := settled.users u
  rwa [uncached] at user

/-- A reader who is dropped from the cache keeps the stored subscription. -/
theorem Settled.dropReader (cached : w.acl.grants u = some g)
    (reader : g.reader) (only : Acl.ChangesOnly u w.acl w'.acl) (gone : w'.acl.grants u = none)
    (inactive : isActive (w'.acl.rows u) = false) (owner : w'.store.topicOwner = w.store.topicOwner)
    (readers : readerRow w'.store = readerRow w.store) : Settled w' := by
  refine settled.change only owner (fun v _ => by rw [readers]) ?_
    fun same => absurd same (settled.reader_ne cached reader)
  rw [gone, readers]
  exact .absent inactive (settled.given u)

end

/-- The flag says whether the cache and the database are apart. -/
def Decides (diverges : Bool) (w' : World) : Prop :=
  (diverges → ¬ Agrees w') ∧ (diverges = false → Settled w')

theorem Decides.iff {diverges : Bool} (decides : Decides diverges w') :
    Agrees w' ↔ diverges = false := by
  cases diverges with
  | true => exact iff_of_false (decides.1 rfl) (by simp)
  | false => exact iff_of_true (decides.2 rfl).toAgrees rfl

theorem readerRow_roster (w : World) (u : Uid) :
    readerRow w.store u = (w.roster.rows (.channel, u)).map Entry.rowGrant := by
  simp only [readerRow, World.roster, Option.map_map]
  rfl

/-- The readers stay where only rows under the name of the topic are written. -/
theorem readers_of_rows (rows : ∀ v, w'.roster.rows (.channel, v) = w.roster.rows (.channel, v)) :
    readerRow w'.store = readerRow w.store := by
  funext v
  rw [readerRow_roster, readerRow_roster, rows]

section store

variable (s : Store) (u : Uid) (want given : AccessMode) (privateData : Value)

@[simp] theorem topicOwner_updateSub (name : Addressing) (update : Subscription → Subscription) :
    (s.updateSub name u update).topicOwner = s.topicOwner := by
  unfold Store.updateSub
  split <;> rfl

@[simp] theorem topicOwner_createSub_channel :
    (s.createSub .channel u want given privateData).topicOwner = s.topicOwner := by
  simp [Store.createSub]

theorem topicOwner_createSub :
    (s.createSub .topic u want given privateData).topicOwner =
      if given.isOwner && want.isOwner then u else s.topicOwner := by
  simp [Store.createSub, isOwner_and]

theorem readerRow_updateSub (update : Subscription → Subscription) :
    readerRow (s.updateSub .topic u update) = readerRow s := by
  unfold Store.updateSub
  split
  · funext v
    simp [readerRow]
  · rfl

theorem readerRow_createSub :
    readerRow (s.createSub .topic u want given privateData) = readerRow s := by
  funext v
  simp [readerRow, Store.createSub]

end store

theorem Settled.refuse (settled : Settled w) (sid : String) (rej : Rejection) :
    Settled (w.refuse sid rej) := by
  have store := (refuse_frame w sid rej).2
  exact settled.congr (acl_refuse ..) (by rw [store]) (by rw [store])

theorem applySub_store (ran : applySub w r oldWant oldGiven userData = .ok (w', res)) :
    w'.store = w.store := by
  obtain ⟨applied, reported, ran⟩ := bind_ok ran
  have store := (reportChange_ok reported).2
  dsimp only at ran
  split at ran
  · obtain ⟨evicted, gone, ran⟩ := bind_ok ran
    cases ran
    exact (evictUser_frame gone).2.trans store
  · split at ran
    · cases ran
      exact store
    · cases ran
      exact store

/-- The user becomes a subscriber. -/
def joins (cfg : Config) (fail : Faults) (w : World) (r : SubRequest) : Bool :=
  decide (w.topic.subsCount < cfg.maxSubscriberCount) && !fail .subsGet && !fail .subsCreate &&
    (w.acl.restored r.asUid r.asLvl).isJoiner

theorem newSubData_subscriber (group : w.topic.cat = .grp) (addressed : r.asChan = false)
    (m : AccessMode) :
    newSubData cfg fail w r m none =
      .ok (if cfg.maxSubscriberCount ≤ w.topic.subsCount then
          .error ⟨some .errPolicy, "max subscription count exceeded"⟩
        else if fail .subsGet then .error (storeFailure (some .errUnknown))
        else if !(w.acl.restored r.asUid r.asLvl).isJoiner then
          .error ⟨some .errPermissionDenied, "subscription rejected due to permissions"⟩
        else .ok
          { userData :=
              { modeGiven := w.acl.restored r.asUid r.asLvl
                modeWant := w.acl.orDefault r.asLvl m
                privateData := if isNullValue r.privateData then none else r.privateData }
            sub := w.store.subs.lookup (.topic, r.asUid) }) := by
  have row : w.store.getSub .topic r.asUid true = w.store.subs.lookup (.topic, r.asUid) := by
    unfold Store.getSub
    cases w.store.subs.lookup (.topic, r.asUid) <;> rfl
  have restored : w.acl.orDefault r.asLvl
      (((w.store.subs.lookup (.topic, r.asUid)).map (·.modeGiven)).getD modeUnset) =
      w.acl.restored r.asUid r.asLvl := by
    simp only [Acl.restored, World.acl, Option.map_map]
    rfl
  unfold newSubData newSubModes newOtherSub
  simp only [group, addressed, orDefault_grp group, row]
  by_cases full : cfg.maxSubscriberCount ≤ w.topic.subsCount
  · simp [full, pure, Except.pure]
  · by_cases unread : fail .subsGet
    · simp [full, unread, bind, Except.bind, pure, Except.pure]
    · by_cases joiner : (w.acl.restored r.asUid r.asLvl).isJoiner
      · simp [full, unread, joiner, restored, bind, Except.bind, pure, Except.pure]
      · simp [full, unread, joiner, restored, bind, Except.bind, pure, Except.pure]

theorem newSubscriber_effect {stored : World} (settled : Settled w)
    (uncached : w.acl.grants r.asUid = none) (addressed : r.asChan = false)
    (ran : thisUserSub cfg fail w r = .ok (w', res))
    (got : newSubData cfg fail w r m none = .ok (.ok n)) (saved : saveNewSub fail w r n = .ok stored)
    (applied : applySub (if r.asChan then stored else stored.emit (.usersRegisterUser r.asUid true))
      r n.oldWant n.oldGiven n.userData = .ok (w', res)) :
    joins cfg fail w r ∧
      w'.acl = (w.acl.storeRow r.asUid
          ⟨w.acl.orDefault r.asLvl m, w.acl.restored r.asUid r.asLvl, true⟩).put r.asUid
          ⟨w.acl.orDefault r.asLvl m, w.acl.restored r.asUid r.asLvl, false, false⟩ ∧
      w'.store.topicOwner =
        (if (w.acl.restored r.asUid r.asLvl).isOwner && (w.acl.orDefault r.asLvl m).isOwner then
          r.asUid else w.store.topicOwner) ∧
      readerRow w'.store = readerRow w.store := by
  have inactive : ((w.acl.rows r.asUid).map (·.active)).getD false = false :=
    settled.inactive uncached
  have missing : ((w.store.subs.lookup (.topic, r.asUid)).isNone ||
      ((w.store.subs.lookup (.topic, r.asUid)).map (·.deletedAt)).getD false) := by
    cases found : w.store.subs.lookup (.topic, r.asUid) with
    | none => rfl
    | some sub => simpa [World.acl, found, Subscription.rowGrant] using inactive
  have store := applySub_store applied
  have view := applyNewSub_roster saved applied
  have acl := acl_of_fixture (thisUserSub_fixture ran)
  rw [newSubData_subscriber settled.group addressed] at got
  generalize (if isNullValue r.privateData then none else r.privateData) = privateData at got
  split_ifs at got with full unread joiner <;> cases got
  rw [view, acl_settled, acl_enrol w _ _ fun _ => rfl, ← acl_roster,
    Acl.detach_put_subscriber _ _ _ rfl, ite_self,
    if_neg (by simp [addressed]), Acl.enroll, inactive] at acl
  unfold saveNewSub at saved
  dsimp only at saved
  split_ifs at saved with unsaved
  cases saved
  refine ⟨?_, acl, ?_, readers_of_rows fun v => ?_⟩
  · have joiner : (w.acl.restored r.asUid r.asLvl).isJoiner = true := by simpa using joiner
    simp [joins, unread, unsaved, joiner, Nat.lt_of_not_le full]
  · simp only [addressed, SubRequest.tname, Bool.false_eq_true, if_false] at store
    rw [store]
    exact topicOwner_createSub ..
  · rw [view]
    simp [Roster.enrol, SubRequest.tname, addressed, missing, Roster.put, Roster.file]

/-- A channel reader is attached, or detached at once, with the row `⟨want, given, true⟩`. -/
theorem Settled.attachReader (settled : Settled w) (uncached : w.acl.grants u = none)
    (want : AccessMode)
    (acl : w'.acl = w.acl ∨ w'.acl = w.acl.put u ⟨want, modeCChnReader, true, false⟩)
    (owner : w'.store.topicOwner = w.store.topicOwner)
    (row : readerRow w'.store u = some ⟨want, modeCChnReader, true⟩)
    (readers : ∀ v, v ≠ u → readerRow w'.store v = readerRow w.store v) : Settled w' := by
  have inactive := settled.inactive uncached
  have other := settled.uncached_ne uncached
  rcases acl with acl | acl
  · refine settled.change (acl ▸ .refl) owner readers ?_ fun same => absurd same other
    rw [acl, uncached, row]
    exact .absent inactive (by simp)
  · refine settled.change (acl ▸ .put _) owner readers ?_ fun same => absurd same other
    rw [acl, Acl.put_grants, Acl.put_rows, row]
    exact .attached rfl rfl rfl inactive

/-- The mode of a reader before and after a request for `m`. -/
def readerOldWant (s : Store) (u : Uid) : AccessMode :=
  ((s.getSub .channel u false).map (·.modeWant)).getD modeCChnReader

def readerNewWant (s : Store) (u : Uid) (m : AccessMode) : AccessMode :=
  if m ≠ modeUnset then (m &&& modeCChnReader) ||| modeRead ||| modeJoin else readerOldWant s u

theorem newSubData_reader (group : w.topic.cat = .grp) (channel : r.asChan) (m : AccessMode) :
    newSubData cfg fail w r m none =
      .ok (if fail .subsGet then .error (storeFailure (some .errUnknown))
        else .ok
          { userData :=
              { modeGiven := modeCChnReader
                modeWant := readerNewWant w.store r.asUid m
                isChan := true
                privateData := if isNullValue r.privateData then none else r.privateData }
            oldWant := readerOldWant w.store r.asUid
            oldGiven := modeCChnReader
            sub := w.store.getSub .channel r.asUid false }) := by
  have joiner : modeCChnReader.isJoiner := by decide
  unfold newSubData newSubModes newChannelSub
  simp only [group, channel]
  by_cases unread : fail .subsGet
  · simp [unread, bind, Except.bind, pure, Except.pure]
  · simp [unread, joiner, readerNewWant, readerOldWant, bind, Except.bind, pure, Except.pure]

theorem newReader_settled {stored : World} (settled : Settled w)
    (uncached : w.acl.grants r.asUid = none) (channel : r.asChan)
    (ran : thisUserSub cfg fail w r = .ok (w', res))
    (got : newSubData cfg fail w r m none = .ok (.ok n)) (saved : saveNewSub fail w r n = .ok stored)
    (applied : applySub (if r.asChan then stored else stored.emit (.usersRegisterUser r.asUid true))
      r n.oldWant n.oldGiven n.userData = .ok (w', res)) : Settled w' := by
  have store := applySub_store applied
  rw [if_pos channel] at store
  have view := applyNewSub_roster saved applied
  have acl := acl_of_fixture (thisUserSub_fixture ran)
  have name : r.tname = .channel := if_pos channel
  rw [newSubData_reader settled.group channel] at got
  generalize (if isNullValue r.privateData then none else r.privateData) = privateData at got
  split_ifs at got <;> cases got
  rw [view, acl_settled, acl_enrol w _ _ (by simp [channel]), if_pos channel, ← acl_roster] at acl
  refine settled.attachReader uncached (readerNewWant w.store r.asUid m) ?_ ?_ ?_ ?_
  · split at acl
    · exact .inr acl
    · rw [Acl.detach_put, Acl.drop_uncached _ _ uncached] at acl
      exact .inl acl
  · rw [store]
    unfold saveNewSub at saved
    simp only [name] at saved
    split_ifs at saved <;> cases saved <;> simp
  · -- what is saved is the row of the reader
    rw [readerRow_roster, view]
    change ((w.roster.enrol r _).rows (.channel, r.asUid)).map Entry.rowGrant = _
    unfold Roster.enrol
    rw [name]
    cases found : w.store.getSub .channel r.asUid false with
    | none => simp [Roster.file, Entry.rowGrant]
    | some sub =>
      obtain ⟨stored', active⟩ := Option.filter_eq_some_iff.mp found
      simp only [Bool.false_or, Bool.not_eq_true'] at active
      have given : sub.modeGiven = modeCChnReader :=
        settled.given r.asUid sub.rowGrant (by simp [readerRow, stored'])
      have row : w.roster.rows (.channel, r.asUid) = some sub.entry := by simp [World.roster, stored']
      have old : readerOldWant w.store r.asUid = sub.modeWant := by simp [readerOldWant, found]
      simp only [Option.isNone_some, Option.map_some, Option.getD_some, active, Bool.or_self,
        Bool.false_eq_true, if_false, channel, true_and, old]
      split_ifs with changed
      · simp [Roster.edit, Roster.file, row, Entry.rowGrant, Subscription.entry, given, active]
      · simp [row, Entry.rowGrant, Subscription.entry, given, active, not_not.mp changed]
  · intro v other
    rw [readerRow_roster, readerRow_roster, view]
    change ((w.roster.enrol r _).rows (.channel, v)).map Entry.rowGrant = _
    unfold Roster.enrol Roster.edit
    split_ifs <;> simp [Roster.file, other]

theorem saveUpdatedSub_error (refused : saveUpdatedSub fail w r old new = .error rej) :
    fail .subsUpdate := by
  unfold saveUpdatedSub at refused
  dsimp only at refused
  split at refused
  · cases refused
  · split at refused
    · assumption
    · cases refused

theorem saveUpdatedSub_owner (saved : saveUpdatedSub fail w r old new = .ok w') :
    w'.store.topicOwner = w.store.topicOwner := by
  unfold saveUpdatedSub at saved
  dsimp only at saved
  split at saved
  · cases saved
    rfl
  split at saved
  · cases saved
  · cases saved
    exact topicOwner_updateSub ..

theorem changeOwner_owner {ownerChange : Bool}
    (ran : changeOwner fail w asUid ownerChange = .ok (w', .ok ())) :
    w'.store.topicOwner = (bif ownerChange then asUid else w.store.topicOwner) ∧
      (ownerChange → fail .ownerUpdate = false ∧ fail .ownerChange = false) := by
  unfold changeOwner at ran
  cases ownerChange with
  | false =>
    cases ran
    exact ⟨rfl, fun taken => (by cases taken)⟩
  | true =>
    simp only [Bool.not_true, Bool.false_eq_true, if_false] at ran
    split at ran
    · cases ran
    next updates =>
    split at ran
    · cases ran
    next changes =>
    obtain ⟨notified, reported, ran⟩ := bind_ok ran
    rw [notifySubChange_ok reported] at ran
    cases ran
    exact ⟨rfl, fun _ => ⟨Bool.not_eq_true _ ▸ updates, Bool.not_eq_true _ ▸ changes⟩⟩

/-- How a request of a subscriber or reader ends. -/
inductive UpdateOutcome (cfg : Config) (fail : Faults) (w : World) (r : SubRequest) (m : AccessMode)
    (old : PerUserData) (w' : World) : Prop
  | refused (rejection : Rejection) (same : w' = w.refuse r.sess.sid rejection)
      (why : updatedSubData cfg w.topic r m old = .ok (.error rejection) ∨ fail .subsUpdate)
  | updated (new : PerUserData)
      (computed : updatedSubData cfg w.topic r m old = .ok (.ok (new, false)))
      (acl : w'.acl = (w.acl.saveModes r.asUid old.grant new.modeWant new.modeGiven).settle r.asUid
        old.grant new.modeWant new.modeGiven)
      (owner : w'.store.topicOwner = w.store.topicOwner)
      (readers : readerRow w'.store = readerRow w.store)
      (works : new.modeWant ≠ old.modeWant ∨ new.modeGiven ≠ old.modeGiven → fail .subsUpdate = false)
  | tookOver (new : PerUserData)
      (computed : updatedSubData cfg w.topic r m old = .ok (.ok (new, true)))
      (acl : w'.acl = ((w.acl.saveModes r.asUid old.grant new.modeWant new.modeGiven).handOver
        r.asUid).settle r.asUid old.grant new.modeWant new.modeGiven)
      (owner : w'.store.topicOwner = r.asUid) (readers : readerRow w'.store = readerRow w.store)
      (works : fail .ownerUpdate = false ∧ fail .ownerChange = false)
  | interrupted (new : PerUserData)
      (computed : updatedSubData cfg w.topic r m old = .ok (.ok (new, true)))
      (acl : w'.acl = w.acl.saveModes r.asUid old.grant new.modeWant new.modeGiven ∨
        w'.acl = (w.acl.saveModes r.asUid old.grant new.modeWant new.modeGiven).disownRow)
      (works : new.modeWant ≠ old.modeWant ∨ new.modeGiven ≠ old.modeGiven → fail .subsUpdate = false)
      (failed : fail .ownerUpdate ∨ fail .ownerChange)

theorem thisUserSub_update (asked : requestedMode r.want = .ok m)
    (cached : w.topic.perUser.lookup r.asUid = some old) (live : old.deleted = false)
    (ran : thisUserSub cfg fail w r = .ok (w', res)) : UpdateOutcome cfg fail w r m old w' := by
  have present : ¬ w.topic.Absent r.asUid :=
    fun absent => by cases live.symm.trans (absent old cached)
  have acl := acl_of_fixture (thisUserSub_fixture ran)
  cases thisUserSub_outcome ran with
  | refused rej why same =>
    refine .refused rej same ?_
    cases why with
    | malformed malformed => cases malformed.symm.trans asked
    | notJoined _ absent | notCreated _ absent => exact absurd absent present
    | notChanged asked' cached' _ got =>
      cases asked.symm.trans asked'
      cases cached.symm.trans cached'
      exact .inl got
    | notSaved _ _ _ _ unsaved => exact .inr (saveUpdatedSub_error unsaved)
  | joined _ _ _ _ absent => exact absurd absent present
  | changed m' old' new ownerChange stored handed asked' cached' _ got saved owned applied =>
    cases asked.symm.trans asked'
    cases cached.symm.trans cached'
    obtain ⟨view, works⟩ := savePrivate_roster saved
    obtain ⟨owner, changes⟩ := changeOwner_owner owned
    have handedView := changeOwner_roster owned
    have settled := applySub_roster applied
    rw [← applySub_store applied, saveUpdatedSub_owner saved] at owner
    rw [handedView, view, (updatedPrivate_card r new).1] at settled
    have readers : readerRow w'.store = readerRow w.store := readers_of_rows fun v => by
      rw [settled]
      cases ownerChange <;>
        simp [Roster.put, Roster.handOver, Roster.disownRow, Roster.saveModes, Roster.edit,
          Roster.file]
    have grant :
        new.card.grant = { old.grant with want := new.modeWant, given := new.modeGiven } := by
      rw [updatedSubData_shape got]
      rfl
    rw [settled, acl_settled, grant] at acl
    cases ownerChange with
    | false =>
      rw [cond_false, acl_saveModes, ← acl_roster] at acl
      exact .updated new got acl owner readers works
    | true =>
      rw [cond_true, acl_handOver, acl_saveModes, ← acl_roster] at acl
      exact .tookOver new got acl owner readers (changes rfl)
  | interrupted m' old' new ownerChange stored handed rej asked' cached' _ got saved stopped same =>
    cases asked.symm.trans asked'
    cases cached.symm.trans cached'
    obtain ⟨view, works⟩ := savePrivate_roster saved
    obtain ⟨rfl, failed, effect⟩ := changeOwner_roster stopped
    refine .interrupted new got ?_ works failed
    rw [acl, acl_roster w, ← acl_saveModes, ← acl_disownRow, same, roster_refuse, ← view]
    exact effect.imp (congrArg (Roster.acl · _)) (congrArg (Roster.acl · _))

theorem isActive_map {row : Option RowGrant} (inactive : isActive row = false)
    {edit : RowGrant → RowGrant} (keeps : ∀ row, (edit row).active = row.active) :
    isActive (row.map edit) = false := by
  cases row with
  | none => rfl
  | some row => exact (keeps row).trans inactive

theorem settle_grants (a : Acl) (u : Uid) (g : Grant) (want given : AccessMode) :
    (a.settle u g want given).grants u =
      if want.isJoiner || !g.reader then some { g with want := want, given := given } else none := by
  unfold Acl.settle Acl.detach
  cases joiner : want.isJoiner <;> cases reader : g.reader <;> simp_all

theorem updatedSubData_refused (group : w.topic.cat = .grp)
    (got : updatedSubData cfg w.topic r m old = .ok (.error rej)) :
    (old.isChan = false ∧ r.asChan) ∨
      (w.topic.owner = r.asUid ∧ (m.isOwner = false ∨ m.isJoiner = false)) ∨
      (old.modeGiven.isOwner = false ∧ m.isOwner) := by
  unfold updatedSubData at got
  rw [accessFor_grp group] at got
  split at got
  · next chan => exact .inl (by simpa using chan)
  split at got
  · split at got <;> cases got
  split at got
  · next own => exact .inr (.inl (by simpa using own))
  split at got
  · next stranger => exact .inr (.inr (by simpa using stranger))
  · cases got

/-- The mode a cached reader wants after a request for `m`. -/
def readerWant (a : Acl) (r : SubRequest) (m : AccessMode) (g : Grant) : AccessMode :=
  if m = modeUnset then if g.want.isJoiner then g.want else g.given ||| a.defaultFor r.asLvl else m

/-- A cached reader changes the wanted mode and stays: the row under the name of the topic is
written, which a reader does not have. -/
def readerDiverges (fail : Faults) (a : Acl) (r : SubRequest) (m : AccessMode) (g : Grant) : Bool :=
  !fail .subsUpdate && !m.isOwner && readerWant a r m g != g.want && (readerWant a r m g).isJoiner

theorem reader_modes (fixed : g.given = modeCChnReader)
    (modes : UpdatedModes a r m g want given taken) :
    taken = false ∧ want = readerWant a r m g ∧ given = g.given ∧ m.isOwner = false := by
  have unset : modeUnset.isOwner = false := by decide
  cases modes with
  | unchanged unasked joiner =>
    exact ⟨rfl, by simp [readerWant, unasked, joiner], rfl, unasked ▸ unset⟩
  | unbanned unasked banned =>
    exact ⟨rfl, by simp [readerWant, unasked, banned], rfl, unasked ▸ unset⟩
  | owner given explicit offered keeps raised =>
    rw [fixed] at offered
    exact absurd offered (by decide)
  | member given explicit plain asked other raised =>
    refine ⟨rfl, by simp [readerWant, explicit], raised.resolve_right ?_, asked⟩
    rintro ⟨admin, -, -⟩
    rw [fixed] at admin
    exact absurd admin (by decide)

theorem readerUpdate (settled : Settled w) (cached : w.acl.grants r.asUid = some old.grant)
    (reader : old.isChan) (outcome : UpdateOutcome cfg fail w r m old w') :
    Decides (readerDiverges fail w.acl r m old.grant) w' := by
  obtain ⟨row, fixed⟩ := settled.reader cached reader
  have inactive := settled.apart _ _ cached reader
  have other := settled.reader_ne cached reader
  cases outcome with
  | refused rej same why =>
    refine ⟨fun diverges => ?_, fun _ => same ▸ settled.refuse ..⟩
    rcases why with got | failed
    · have asked : m.isOwner := by
        rcases updatedSubData_refused settled.group got with ⟨chan, -⟩ | ⟨own, -⟩ | ⟨-, asked⟩
        · rw [reader] at chan
          cases chan
        · exact absurd own.symm other
        · exact asked
      simp [readerDiverges, asked] at diverges
    · simp [readerDiverges, failed] at diverges
  | updated new got acl owner readers works =>
    have modes := updatedSubData_grp settled.group got
    obtain ⟨-, want, given, asked⟩ := reader_modes fixed modes
    have only : Acl.ChangesOnly r.asUid w.acl w'.acl :=
      acl ▸ (Acl.ChangesOnly.saveModes ..).trans (.settle ..)
    have grants := congrArg (Acl.grants · r.asUid) acl
    have rows := congrArg (Acl.rows · r.asUid) acl
    simp only [settle_grants, Acl.settle_rows, Acl.saveModes_rows] at grants rows
    have still : isActive (w'.acl.rows r.asUid) = false := by
      rw [rows]
      exact isActive_map inactive fun _ => rfl
    refine ⟨fun diverges agrees => ?_, fun safe => ?_⟩
    · simp only [readerDiverges, Bool.and_eq_true, bne_iff_ne] at diverges
      rw [← want] at diverges
      have user := agrees.users r.asUid
      rw [grants, if_pos (by simp [diverges.2]), readers, row] at user
      have stored : old.modeWant = new.modeWant :=
        congrArg RowGrant.want (Option.some.inj ((if_pos reader).symm.trans user))
      exact diverges.1.2 stored.symm
    · by_cases joiner : new.modeWant.isJoiner
      · -- the mode is the old one
        have unchanged : new.modeWant = old.modeWant := by
          by_contra changed
          have works := works (.inl changed)
          rw [want] at joiner changed
          simp [readerDiverges, works, asked, joiner] at safe
          exact changed safe
        rw [if_pos (by simp [joiner]), unchanged, given] at grants
        refine settled.change only owner (fun v _ => by rw [readers]) ?_ fun same => absurd same other
        rw [grants, readers, row]
        exact .attached reader (settled.alive _ _ cached) fixed still
      · refine settled.dropReader cached reader only ?_ still owner readers
        rw [grants, if_neg]
        simp [joiner, PerUserData.grant, reader]
  | tookOver new got | interrupted new got =>
    have modes := updatedSubData_grp settled.group got
    obtain ⟨taken, -⟩ := reader_modes fixed modes
    cases taken

/-- The ownership is accepted and only the first of the three writes succeeds, or the first two. -/
def acceptsInPart (fail : Faults) (r : SubRequest) (m : AccessMode) (g : Grant) : Bool :=
  !r.asChan && m.isOwner && g.given.isOwner && !g.want.isOwner && !fail .subsUpdate &&
    (fail .ownerUpdate || fail .ownerChange)

theorem owner_modes (own : a.owner = r.asUid) (owns : g.owns)
    (modes : UpdatedModes a r m g want given false) :
    ({ g with want := want, given := given } : Grant).owns := by
  simp only [Grant.owns, Bool.and_eq_true] at owns ⊢
  obtain ⟨changed, kept⟩ : ∃ changed, changed = false := ⟨_, rfl⟩
  rw [← kept] at modes
  cases modes with
  | unchanged => exact owns
  | unbanned => exact ⟨by rw [isOwner_or, owns.2, Bool.true_or], owns.2⟩
  | owner given explicit offered keeps raised =>
    refine ⟨(keeps own).1, ?_⟩
    rcases raised with rfl | ⟨-, rfl⟩
    · exact offered
    · rw [isOwner_or, offered, Bool.true_or]
  | member given explicit plain asked other => exact absurd own other

/-- Whoever asks for an offered `O` for the first time accepts the ownership. -/
theorem acceptance_taken (asked : m.isOwner) (offered : g.given.isOwner)
    (fresh : g.want.isOwner = false) (modes : UpdatedModes a r m g want given taken) : taken := by
  cases modes with
  | unchanged unset
  | unbanned unset => exact absurd asked (by rw [unset]; decide)
  | owner => simp [asked, fresh]
  | member given explicit plain =>
    rw [offered] at plain
    cases plain

theorem Settled.handOver (settled : Settled w) (cached : w.acl.grants u = some g)
    (subscriber : g.reader = false) (fresh : g.want.isOwner = false)
    (owns : ({ g with want := want, given := given } : Grant).owns)
    (acl : w'.acl = ((w.acl.saveModes u g want given).handOver u).put u
      { g with want := want, given := given }) (owner : w'.store.topicOwner = u)
    (readers : readerRow w'.store = readerRow w.store) :
    Settled w' := by
  obtain ⟨old, oldCached, oldSubscriber, oldOwns⟩ := settled.owned
  have other : u ≠ w.topic.owner := fun own => by
    have owned := (settled.owns cached own).2
    rw [Grant.owns, fresh] at owned
    cases owned
  have users := Acl.handedOver want given other (settled.stored cached subscriber) oldCached
    (settled.stored oldCached oldSubscriber)
  rw [← acl] at users
  have topicOwner : w'.topic.owner = u := congrArg Acl.owner acl
  refine settled_of_users ((congrArg Acl.cat acl).trans settled.group) (topicOwner.trans owner.symm)
    ?_ fun v => ?_
  · rw [topicOwner]
    exact ⟨_, (users u).1.trans (if_pos rfl), subscriber, owns⟩
  rw [readers, (users v).1, (users v).2]
  split_ifs with taker giver
  · exact .subscriber subscriber (settled.alive u g cached) (settled.given v)
  · exact .subscriber oldSubscriber (settled.alive _ old oldCached) (settled.given v)
  · exact settled.user v

theorem subscriberUpdate (settled : Settled w) (cached : w.acl.grants r.asUid = some old.grant)
    (subscriber : old.isChan = false) (outcome : UpdateOutcome cfg fail w r m old w') :
    Decides (acceptsInPart fail r m old.grant) w' := by
  have stored := settled.stored cached subscriber
  have notOwner (fresh : old.modeWant.isOwner = false) : r.asUid ≠ w.topic.owner := fun own => by
    have owned := (settled.owns cached own).2
    simp [Grant.owns, fresh] at owned
  cases outcome with
  | refused rej same why =>
    refine ⟨fun diverges => ?_, fun _ => same ▸ settled.refuse ..⟩
    rcases why with got | failed
    · simp only [acceptsInPart, Bool.and_eq_true, Bool.not_eq_true', grant_given,
        grant_want] at diverges
      obtain ⟨⟨⟨⟨⟨addressed, asked⟩, offered⟩, fresh⟩, -⟩, -⟩ := diverges
      rcases updatedSubData_refused settled.group got with ⟨-, chan⟩ | ⟨own, -⟩ | ⟨plain, -⟩
      · rw [addressed] at chan
        cases chan
      · exact absurd own.symm (notOwner fresh)
      · rw [offered] at plain
        cases plain
    · simp [acceptsInPart, failed] at diverges
  | updated new got acl owner readers works =>
    have modes := updatedSubData_grp settled.group got
    rw [Acl.settle_subscriber _ _ _ _ _ subscriber] at acl
    have grants : w'.acl.grants r.asUid =
        some { old.grant with want := new.modeWant, given := new.modeGiven } := by
      rw [acl, Acl.put_grants]
    have saved : Settled w' := by
      refine settled.change (u := r.asUid) (acl ▸ (Acl.ChangesOnly.saveModes ..).trans (.put _)) owner
        (fun v _ => by rw [readers]) ?_ fun own => ⟨_, grants, subscriber,
          owner_modes own.symm (settled.owns cached own).2 modes⟩
      rw [grants, readers, acl, Acl.put_rows, Acl.saveModes_stored _ _ stored]
      exact .subscriber subscriber (settled.alive r.asUid old.grant cached) (settled.given r.asUid)
    refine ⟨fun diverges => ?_, fun _ => saved⟩
    -- an acceptance changes hands
    simp only [acceptsInPart, Bool.and_eq_true, Bool.not_eq_true', grant_given,
      grant_want] at diverges
    obtain ⟨⟨⟨⟨⟨-, asked⟩, offered⟩, fresh⟩, -⟩, -⟩ := diverges
    exact absurd (acceptance_taken asked offered fresh modes) (by decide)
  | tookOver new got acl owner readers works =>
    have modes := updatedSubData_grp settled.group got
    obtain ⟨want, asks, offers, -, fresh⟩ := modes.taken
    rw [Acl.settle_subscriber _ _ _ _ _ subscriber] at acl
    refine ⟨fun diverges => ?_, fun _ => ?_⟩
    · simp [acceptsInPart, works] at diverges
    · exact settled.handOver cached subscriber fresh (by simp [Grant.owns, want, asks, offers]) acl
        owner readers
  | interrupted new got acl works failed =>
    have modes := updatedSubData_grp settled.group got
    obtain ⟨want, asks, offers, offered, fresh⟩ := modes.taken
    rw [grant_want] at fresh
    have changed : new.modeWant ≠ old.modeWant := by
      intro same
      rw [← same, want, asks] at fresh
      cases fresh
    refine ⟨fun _ agrees => ?_, fun safe => ?_⟩
    · have user := agrees.users r.asUid
      have grants : w'.acl.grants r.asUid = some old.grant := by
        rcases acl with acl | acl <;> rw [acl] <;> exact cached
      have rows : w'.acl.rows r.asUid = some ⟨new.modeWant, new.modeGiven, true⟩ := by
        rcases acl with acl | acl
        · rw [acl, Acl.saveModes_stored _ _ stored]
        · rw [acl]
          exact (Function.update_of_ne (notOwner fresh) _ _).trans (Acl.saveModes_stored _ _ stored)
      rw [grants, rows] at user
      have same : new.modeWant = old.modeWant := congrArg RowGrant.want (Option.some.inj
        ((if_neg (by simp [PerUserData.grant, subscriber])).symm.trans user))
      exact changed same
    · -- the request was addressed to the topic
      have addressed : r.asChan = false := by
        cases chan : r.asChan with
        | false => rfl
        | true =>
          unfold updatedSubData at got
          simp [subscriber, chan, pure, Except.pure] at got
      simp [acceptsInPart, addressed, ← want, want ▸ asks, fresh, works (.inl changed)] at safe
      simp [safe offered] at failed

/-- A new subscriber owns the topic at once: the store makes the user the owner, the cache does
not. -/
def joinsAsOwner (cfg : Config) (fail : Faults) (w : World) (r : SubRequest) (m : AccessMode) :
    Bool :=
  !r.asChan && joins cfg fail w r && (w.acl.restored r.asUid r.asLvl).isOwner &&
    (w.acl.orDefault r.asLvl m).isOwner

/-- The requests of `thisUserSub` that leave the cache and the database apart. -/
def selfDiverges (cfg : Config) (fail : Faults) (w : World) (r : SubRequest) : Bool :=
  match requestedMode r.want with
  | .error _ => false
  | .ok m =>
    match w.acl.grants r.asUid with
    | none => joinsAsOwner cfg fail w r m
    | some g => if g.reader then readerDiverges fail w.acl r m g else acceptsInPart fail r m g

/-- A new subscriber has the stored modes. The cached owner stays, the stored one may not. -/
theorem Settled.enroll {owns : Bool} (settled : Settled w) (uncached : w.acl.grants u = none)
    (acl : w'.acl = (w.acl.storeRow u ⟨want, given, true⟩).put u ⟨want, given, false, false⟩)
    (owner : w'.store.topicOwner = if owns then u else w.store.topicOwner)
    (readers : readerRow w'.store = readerRow w.store) : Decides owns w' := by
  have other := settled.uncached_ne uncached
  refine ⟨fun taken agrees => ?_, fun plain => ?_⟩
  · have topicOwner : w'.topic.owner = w.topic.owner := congrArg Acl.owner acl
    have same := agrees.owner
    rw [owner, if_pos taken, topicOwner] at same
    exact other same.symm
  · rw [plain] at owner
    refine settled.change (u := u) (acl ▸ (Acl.ChangesOnly.storeRow _).trans (.put _)) owner
      (fun v _ => by rw [readers]) ?_ fun same => absurd same other
    rw [acl, Acl.put_grants, Acl.put_rows, Acl.storeRow_rows, readers]
    exact .subscriber rfl rfl (settled.given u)

theorem joins_refused {text : Rejection} (group : w.topic.cat = .grp) (addressed : r.asChan = false)
    (asked : requestedMode r.want = .ok m) (uncached : w.topic.perUser.lookup r.asUid = none)
    (why : SelfRefusal cfg fail w r text) : joins cfg fail w r = false := by
  cases why with
  | malformed malformed => cases malformed.symm.trans asked
  | notJoined asked' _ got =>
    rw [uncached, newSubData_subscriber group addressed] at got
    by_contra joined
    simp only [joins, Bool.and_eq_true, Bool.not_eq_true', decide_eq_true_eq,
      Bool.not_eq_false] at joined
    simp [Nat.not_le.mpr joined.1.1.1, joined.1.1.2, joined.2] at got
  | notCreated _ _ _ unsaved =>
    unfold saveNewSub at unsaved
    dsimp only at unsaved
    split_ifs at unsaved with _ fails channel
    · simp [joins, fails]
    · exact absurd channel.1 (by simp [addressed])
  | notChanged _ cached | notSaved _ cached => cases uncached.symm.trans cached

theorem thisUserSub_agreement (settled : Settled w)
    (ran : thisUserSub cfg fail w r = .ok (w', res)) : Decides (selfDiverges cfg fail w r) w' := by
  have outcome := thisUserSub_outcome ran
  unfold selfDiverges
  cases asked : requestedMode r.want with
  | error text =>
    refine ⟨fun diverges => (by cases diverges), fun _ => ?_⟩
    cases outcome with
    | refused rej _ same => exact same ▸ settled.refuse ..
    | joined _ _ _ asked' | changed _ _ _ _ _ _ asked' | interrupted _ _ _ _ _ _ _ asked' =>
      cases asked.symm.trans asked'
  | ok m =>
    cases cached : w.topic.perUser.lookup r.asUid with
    | some pud =>
      have listed : w.acl.grants r.asUid = some pud.grant := by simp [World.acl, cached]
      have update := thisUserSub_update asked cached (settled.alive _ _ listed) ran
      rw [listed]
      cases reader : pud.isChan with
      | true =>
        simpa only [PerUserData.grant, reader, if_true]
          using readerUpdate settled listed reader update
      | false =>
        simpa only [PerUserData.grant, reader, Bool.false_eq_true, if_false] using
          subscriberUpdate settled listed reader update
    | none =>
      have uncached : w.acl.grants r.asUid = none := by simp [World.acl, cached]
      rw [uncached]
      cases outcome with
      | refused rej why same =>
        refine ⟨fun diverges => ?_, fun _ => same ▸ settled.refuse ..⟩
        simp only [joinsAsOwner, Bool.and_eq_true, Bool.not_eq_true'] at diverges
        rw [joins_refused settled.group diverges.1.1.1 asked cached why] at diverges
        simp at diverges
      | joined m' n stored asked' _ got saved applied =>
        cases asked.symm.trans asked'
        rw [cached] at got
        cases channel : r.asChan with
        | true =>
          refine ⟨fun diverges => ?_,
            fun _ => newReader_settled settled uncached channel ran got saved applied⟩
          simp [joinsAsOwner, channel] at diverges
        | false =>
          obtain ⟨joined, acl, owner, readers⟩ :=
            newSubscriber_effect settled uncached channel ran got saved applied
          simpa only [joinsAsOwner, channel, joined, Bool.not_false, Bool.true_and] using
            settled.enroll uncached acl owner readers
      | changed _ _ _ _ _ _ _ cached' | interrupted _ _ _ _ _ _ _ _ cached' =>
        cases cached.symm.trans cached'

/-- The mode an invitation gives where `m` is asked for. -/
def offeredMode (a : Acl) (m : AccessMode) : AccessMode :=
  if m = modeUnset then a.defaultFor .auth ||| modeJoin else m

/-- The mode the invited user wants: that of an earlier subscription, or as much as the user allows
of what is given. -/
def wantedMode (a : Acl) (u : Uid) (m : AccessMode) : AccessMode :=
  ((a.rows u).map (·.want)).getD (a.userAccess u &&& offeredMode a m)

/-- The invited user has been subscribed before, or is known and not suspended. -/
def invitable (fail : Faults) (w : World) (u : Uid) : Bool :=
  (w.acl.rows u).isSome ||
    (!fail .usersGet && ((w.store.users.lookup u).map fun user => !user.suspended).getD false)

/-- The invitation is accepted and stored. -/
def invites (cfg : Config) (fail : Faults) (w : World) (u : Uid) (m : AccessMode) : Bool :=
  decide (w.topic.subsCount < cfg.maxSubscriberCount) && !fail .subsGet && !fail .subsCreate &&
    invitable fail w u && (wantedMode w.acl u m).isJoiner

theorem invitedGiven_eq (group : w.topic.cat = .grp) (m : AccessMode) :
    invitedGiven cfg w.topic m = .ok (offeredMode w.acl m) := by
  unfold invitedGiven offeredMode
  rw [accessFor_grp group]
  split_ifs <;> rfl

theorem invitedWant_eq (fail : Faults) (w : World) (u : Uid) (m : AccessMode) :
    if fail .subsGet = false ∧ invitable fail w u then
      invitedWant fail w.store u (offeredMode w.acl m) = .ok (wantedMode w.acl u m)
    else ∃ rej, invitedWant fail w.store u (offeredMode w.acl m) = .error rej := by
  have row : w.store.getSub .topic u true = w.store.subs.lookup (.topic, u) := by
    unfold Store.getSub
    cases w.store.subs.lookup (.topic, u) <;> rfl
  unfold invitedWant
  rw [row]
  by_cases unread : fail .subsGet
  · simp [unread]
  cases stored : w.store.subs.lookup (.topic, u) with
  | some sub =>
    simp [unread, invitable, wantedMode, World.acl, stored, Subscription.rowGrant]
  | none =>
    by_cases lost : fail .usersGet
    · simp [unread, lost, invitable, World.acl, stored]
    · cases found : w.store.users.lookup u with
      | none => simp [unread, lost, invitable, World.acl, stored, found]
      | some user =>
        cases suspended : user.suspended <;>
          simp [unread, lost, invitable, wantedMode, World.acl, stored, found, suspended]

variable {r : GrantRequest}

theorem inviteUser_isOk {invited : Except Rejection (World × PerUserData)}
    (group : w.topic.cat = .grp) (ran : inviteUser cfg fail w r m = .ok invited) :
    invites cfg fail w r.target m = invited.isOk := by
  unfold inviteUser at ran
  rw [invitedGiven_eq group] at ran
  have wanted := invitedWant_eq fail w r.target m
  by_cases full : cfg.maxSubscriberCount ≤ w.topic.subsCount
  · simp only [group, true_and, ge_iff_le, full, if_true] at ran
    cases ran
    simp [invites, Nat.not_lt.mpr full, Except.isOk, Except.toBool]
  simp only [group, true_and, ge_iff_le, full, if_false] at ran
  dsimp only [bind, Except.bind] at ran
  split_ifs at wanted with reads
  · rw [wanted] at ran
    dsimp only at ran
    simp only [invites, Nat.lt_of_not_le full, reads.1, reads.2, decide_true, Bool.not_false,
      Bool.and_true, Bool.true_and]
    split at ran
    · next banned =>
      cases ran
      simp only [Bool.not_eq_true'] at banned
      rw [banned, Bool.and_false]
      rfl
    next joiner =>
    simp only [Bool.not_eq_true', Bool.not_eq_false] at joiner
    rw [joiner, Bool.and_true]
    split at ran
    · next unsaved =>
      cases ran
      rw [unsaved]
      rfl
    · next saves =>
      cases ran
      simp [Except.isOk, Except.toBool, saves]
  · obtain ⟨rej, refused⟩ := wanted
    rw [refused] at ran
    cases ran
    by_contra invited
    simp only [invites, Except.isOk, Except.toBool, Bool.and_eq_true, Bool.not_eq_true',
      Bool.not_eq_false] at invited
    exact reads ⟨invited.1.1.1.2, invited.1.2⟩

theorem applyGrant_store
    (ran : applyGrant w r oldWant oldGiven userData = .ok (w', res)) : w'.store = w.store := by
  obtain ⟨applied, reported, ran⟩ := bind_ok ran
  have store := (reportChange_ok reported).2
  dsimp only at ran
  split at ran
  · obtain ⟨evicted, gone, ran⟩ := bind_ok ran
    cases ran
    exact (evictUser_frame gone).2.trans store
  · cases ran
    exact store

/-- A cached reader gets another mode and stays: the row under the name of the topic is written. -/
def regivesReader (fail : Faults) (m : AccessMode) (g : Grant) : Bool :=
  m != modeUnset && m != g.given && !fail .subsUpdate && m.isJoiner

/-- The requests of `anotherUserSub` that leave the cache and the database apart. -/
def grantDiverges (cfg : Config) (fail : Faults) (w : World) (r : GrantRequest) : Bool :=
  match grantedMode cfg w.topic r with
  | .error _ => false
  | .ok m =>
    match w.acl.grants r.target with
    | none => invites cfg fail w r.target m && (offeredMode w.acl m).isOwner &&
        (wantedMode w.acl r.target m).isOwner
    | some g => g.reader && regivesReader fail m g

theorem changeGiven_refused (refused : changeGiven fail w r m old = .error rej) :
    w.topic.owner = r.target ∨ fail .subsUpdate := by
  unfold changeGiven at refused
  split at refused
  · cases refused
  split at refused
  · next own => exact .inl own.1
  split at refused
  · next failed => exact .inr failed
  · cases refused

theorem Settled.regive (settled : Settled w) (cached : w.acl.grants u = some g)
    (subscriber : g.reader = false) (protects : w.topic.owner = u → given.isOwner)
    (acl : w'.acl = (w.acl.editRow u ({ · with given := given })).put u { g with given := given })
    (owner : w'.store.topicOwner = w.store.topicOwner)
    (readers : readerRow w'.store = readerRow w.store) : Settled w' := by
  have grants : w'.acl.grants u = some { g with given := given } := by rw [acl, Acl.put_grants]
  refine settled.change (u := u) (acl ▸ (Acl.ChangesOnly.editRow _).trans (.put _)) owner
    (fun v _ => by rw [readers]) ?_ fun own => ?_
  · rw [grants, readers, acl, Acl.put_rows, Acl.editRow_rows, settled.stored cached subscriber]
    exact .subscriber subscriber (settled.alive u g cached) (settled.given u)
  · have owns := (settled.owns cached own).2
    rw [Grant.owns, Bool.and_eq_true] at owns
    exact ⟨_, grants, subscriber, by simp [Grant.owns, owns.1, protects own.symm]⟩

/-- A new given mode of a cached reader is not stored: either the reader is dropped, or the cache
has a mode that the database does not have. -/
theorem regivenReader (settled : Settled w) (cached : w.acl.grants u = some g)
    (reader : g.reader) (changed : given ≠ g.given) (acl : w'.acl =
      if given.isJoiner then
        (w.acl.editRow u ({ · with given := given })).put u { g with given := given }
      else ((w.acl.editRow u ({ · with given := given })).put u { g with given := given }).detach u)
    (owner : w'.store.topicOwner = w.store.topicOwner)
    (readers : readerRow w'.store = readerRow w.store) : Decides given.isJoiner w' := by
  obtain ⟨row, -⟩ := settled.reader cached reader
  refine ⟨fun joiner agrees => ?_, fun banned => ?_⟩
  · rw [if_pos joiner] at acl
    have user := agrees.users u
    rw [acl, Acl.put_grants, readers, row] at user
    have same : g.given = given :=
      congrArg RowGrant.given (Option.some.inj ((if_pos reader).symm.trans user))
    exact changed same.symm
  · have edited : Acl.ChangesOnly u w.acl w'.acl := by
      rw [acl, if_neg (by simp [banned])]
      exact ((Acl.ChangesOnly.editRow _).trans (.put _)).trans .detach
    rw [if_neg (by simp [banned])] at acl
    refine settled.dropReader cached reader edited ?_ ?_ owner readers
    · rw [acl]
      simp [Acl.detach, reader]
    · rw [acl, Acl.detach_rows, Acl.put_rows, Acl.editRow_rows]
      exact isActive_map (settled.apart u g cached reader) fun _ => rfl

theorem anotherUserSub_agreement (settled : Settled w)
    (ran : anotherUserSub cfg fail w r = .ok (w', res)) :
    Decides (grantDiverges cfg fail w r) w' := by
  have listed {old : PerUserData} (cached : w.topic.perUser.lookup r.target = some old) :
      w.acl.grants r.target = some old.grant := by simp [World.acl, cached]
  have unlisted (absent : w.topic.Absent r.target) : w.acl.grants r.target = none := by
    cases cached : w.topic.perUser.lookup r.target with
    | none => simp [World.acl, cached]
    | some pud => cases (settled.alive _ _ (listed cached)).symm.trans (absent pud cached)
  unfold grantDiverges
  cases anotherUserSub_outcome ran with
  | refused rej same _ why =>
    refine ⟨fun diverges => ?_, fun _ => same ▸ settled.refuse ..⟩
    obtain checked | ⟨m, checked, absent, made⟩ | ⟨m, old, checked, cached, present, refused⟩ := why
    · rw [checked] at diverges
      cases diverges
    · rw [checked] at diverges
      simp [unlisted absent, inviteUser_isOk settled.group made, Except.isOk,
        Except.toBool] at diverges
    · rw [checked] at diverges
      simp only [listed cached, regivesReader, Bool.and_eq_true, Bool.not_eq_true'] at diverges
      obtain ⟨reader, ⟨-, works⟩, -⟩ := diverges
      rcases changeGiven_refused refused with own | failed
      · exact absurd own.symm (settled.reader_ne (listed cached) reader)
      · rw [failed] at works
        cases works
  | invited m stored userData checked absent made applied =>
    have uncached := unlisted absent
    have accepted := inviteUser_isOk settled.group made
    obtain ⟨want, given, chosen, wanted, joiner, rfl, rfl⟩ := inviteUser_ok made
    cases chosen.symm.trans (invitedGiven_eq settled.group m)
    have asks := invitedWant_eq fail w r.target m
    split_ifs at asks
    swap
    · obtain ⟨rej, refused⟩ := asks
      cases wanted.symm.trans refused
    cases wanted.symm.trans asks
    have acl := applyGrant_acl (cards_of_cached (AList.lookup_insert _)) applied
    have store := applyGrant_store applied
    rw [acl_invite, Acl.detach_put_subscriber _ _ _ rfl, ite_self] at acl
    have enrolled := settled.enroll uncached acl (by rw [store]; exact topicOwner_createSub ..)
      (by rw [store]; exact readerRow_createSub ..)
    rw [checked]
    dsimp only
    rw [uncached, accepted]
    exact enrolled
  | changed m old new changedWorld checked cached present granted applied =>
    rw [checked]
    rw [listed cached]
    have store := applyGrant_store applied
    rcases changeGiven_ok granted with ⟨same, rfl, rfl⟩ | ⟨set, differs, keeps, works, rfl, rfl⟩
    · -- nothing is changed, and a banned reader is dropped
      have owner := congrArg Store.topicOwner store
      have readers := congrArg readerRow store
      have acl := applyGrant_acl (cards_of_cached cached) applied
      have harmless : regivesReader fail m new.grant = false := by
        rcases same with rfl | rfl <;> simp [regivesReader]
      dsimp only
      rw [harmless, Bool.and_false]
      refine ⟨fun diverges => (by cases diverges), fun _ => ?_⟩
      split_ifs at acl with joiner
      · exact settled.congr acl owner readers
      · unfold Acl.detach at acl
        split_ifs at acl with reader
        · rw [listed cached] at reader
          exact settled.dropReader (listed cached) reader (acl ▸ .drop) (by rw [acl, Acl.drop_grants])
            (by rw [acl, Acl.drop_rows]; exact settled.apart _ _ (listed cached) reader) owner readers
        · exact settled.congr acl owner readers
    · have owner := (congrArg Store.topicOwner store).trans (topicOwner_updateSub ..)
      have readers := (congrArg readerRow store).trans (readerRow_updateSub ..)
      have acl := applyGrant_acl (cards_of_cached (AList.lookup_insert _)) applied
      rw [acl_regiven] at acl
      cases reader : old.isChan with
      | true =>
        have effect := regivenReader settled (listed cached) reader differs acl owner readers
        simpa [PerUserData.grant, reader, regivesReader, bne_iff_ne.mpr set, bne_iff_ne.mpr differs,
          works] using effect
      | false =>
        rw [Acl.detach_put_subscriber _ _ _ reader, ite_self] at acl
        have effect :=
          settled.regive (listed cached) reader (fun own => (keeps own).1) acl owner readers
        exact ⟨fun diverges => by simp [PerUserData.grant, reader] at diverges, fun _ => effect⟩

/-- A request leaves the cache and the database in agreement if and only if it is none of those that
`selfDiverges` and `grantDiverges` name, whichever store calls fail. -/
theorem request_keeps_agreement_iff (cfg : Config) (fail : Faults) (w : World) (settled : Settled w) :
    (∀ r w' result, thisUserSub cfg fail w r = .ok (w', result) →
      (Agrees w' ↔ selfDiverges cfg fail w r = false)) ∧
    (∀ r w' result, anotherUserSub cfg fail w r = .ok (w', result) →
      (Agrees w' ↔ grantDiverges cfg fail w r = false)) := by
  constructor
  · intro r w' result returned
    exact (thisUserSub_agreement settled returned).iff
  · intro r w' result returned
    exact (anotherUserSub_agreement settled returned).iff

/-- The store after a deletion: the owner is the same, and so are the readers' given modes. -/
theorem deleteSub_store {s s' : Store} {name : Addressing} (deleted : s.deleteSub name u = some s') :
    s'.topicOwner = s.topicOwner ∧ (name = .topic → readerRow s' = readerRow s) ∧
      (∀ v, v ≠ u → readerRow s' v = readerRow s v) ∧
      ∀ row, readerRow s' u = some row → ∃ row', readerRow s u = some row' ∧
        row.given = row'.given := by
  obtain ⟨sub, found, rfl⟩ := Option.map_eq_some_iff.mp deleted
  obtain ⟨stored, -⟩ := Option.filter_eq_some_iff.mp found
  refine ⟨rfl, ?_, ?_, ?_⟩
  · rintro rfl
    funext v
    simp [readerRow]
  · intro v other
    have ne : ((Addressing.channel, v) : Addressing × Uid) ≠ (name, u) := by simp [other]
    simp [readerRow, AList.lookup_insert_ne ne]
  · intro row
    cases name with
    | topic => exact fun same => ⟨row, by simpa [readerRow] using same, rfl⟩
    | channel =>
      simp only [readerRow, AList.lookup_insert, Option.map_some, Option.some.injEq, stored,
        exists_eq_left']
      rintro rfl
      rfl

theorem replyDelSub_store {user : Uid} {res : Except String Unit}
    (ran : replyDelSub fail w sess asUid original user = .ok (w', res)) :
    w'.store.topicOwner = w.store.topicOwner ∧ readerRow w'.store = readerRow w.store := by
  cases replyDelSub_outcome ran with
  | refused rej same =>
    rw [same, (refuse_frame ..).2]
    exact ⟨rfl, rfl⟩
  | removed pud reply _ gone =>
    rw [(evictUser_frame gone).2]
    cases removed : w.store.deleteSub .topic user with
    | none => exact ⟨rfl, rfl⟩
    | some store =>
      obtain ⟨owner, readers, -⟩ := deleteSub_store removed
      exact ⟨owner, readers rfl⟩

theorem evictUser_uncached (group : w.topic.cat ≠ .p2p) (gone : evictUser w u true skip = .ok w') :
    w'.acl.grants u = none := by
  have left := forgetUser_left w u
  rw [if_neg group, ← evictUser_roster gone] at left
  have missing : w'.roster.cards u = none := by
    rcases left with ⟨same, missing⟩ | ⟨_, _, view, -⟩
    · rw [same, missing]
    · rw [view]
      exact Roster.put_same ..
  rw [acl_roster]
  simp [Roster.acl, missing]

theorem replyLeaveUnsub_store {res : Except String Unit} (group : w.topic.cat = .grp)
    (ran : replyLeaveUnsub fail w sess asUid original = .ok (w', res)) :
    w'.acl = w.acl ∧ w'.store = w.store ∨
      w'.acl.grants asUid = none ∧ w'.store.topicOwner = w.store.topicOwner ∧
        (∀ v, v ≠ asUid → readerRow w'.store v = readerRow w.store v) ∧
        ∀ row, readerRow w'.store asUid = some row →
          ∃ row', readerRow w.store asUid = some row' ∧ row.given = row'.given := by
  cases replyLeaveUnsub_outcome ran with
  | refused rej same =>
    rw [same, acl_refuse, (refuse_frame ..).2]
    exact .inl ⟨rfl, rfl⟩
  | removed asChan store evicted _ _ removed gone same =>
    obtain ⟨owner, -, others, given⟩ := deleteSub_store removed
    have kept : evicted.store = store := (evictUser_frame gone).2
    have uncached := evictUser_uncached (by simp [World.parting, group]) gone
    rw [same, kept]
    exact .inr ⟨uncached, owner, others, given⟩

/-- The requests after which the cache and the database differ. -/
def requestDiverges (cfg : Config) (fail : Faults) (w : World) : Request → Bool
  | .sub r => !misaddressed w r.asChan && selfDiverges cfg fail w r
  | .set r => !misaddressed w r.asChan && decide (r.user ≠ some 0) &&
      if r.target = r.asUid then selfDiverges cfg fail w r.toSub
      else grantDiverges cfg fail w r.toGrant
  | .del .. => false
  | .unsub .. => false

/-- A user who is not the owner is removed; the row of a subscriber is marked as deleted. -/
theorem Settled.remove (settled : Settled w) (other : u ≠ w.topic.owner)
    (acl : w'.acl = (w.acl.deactivate u).drop u ∨
      w'.acl = w.acl.drop u ∧ isActive (w.acl.rows u) = false)
    (owner : w'.store.topicOwner = w.store.topicOwner)
    (readers : ∀ v, v ≠ u → readerRow w'.store v = readerRow w.store v)
    (given : ∀ row, readerRow w'.store u = some row →
      ∃ row', readerRow w.store u = some row' ∧ row.given = row'.given) : Settled w' := by
  have only : Acl.ChangesOnly u w.acl w'.acl := by
    rcases acl with acl | ⟨acl, -⟩
    · exact acl ▸ (Acl.ChangesOnly.editRow _).trans .drop
    · exact acl ▸ .drop
  have gone : w'.acl.grants u = none := by
    rcases acl with acl | ⟨acl, -⟩ <;> rw [acl, Acl.drop_grants]
  have inactive : isActive (w'.acl.rows u) = false := by
    rcases acl with acl | ⟨acl, inactive⟩
    · rw [acl, Acl.drop_rows, Acl.deactivate, Acl.editRow_rows]
      cases w.acl.rows u <;> rfl
    · rw [acl, Acl.drop_rows]
      exact inactive
  refine settled.change only owner readers ?_ fun same => absurd same other
  rw [gone]
  refine .absent inactive fun row stored => ?_
  obtain ⟨row', before, same⟩ := given row stored
  exact same.trans (settled.given u row' before)

theorem handle_settled {r : Request} (settled : Settled w)
    (safe : requestDiverges cfg fail w r = false)
    (ran : handle cfg fail w r = .ok w') : Settled w' := by
  cases r with
  | sub r =>
    simp only [handle] at ran
    split at ran
    · cases ran
      exact settled.congr rfl rfl rfl
    · next addressed =>
      obtain ⟨⟨w'', res⟩, ran, rfl⟩ := map_ok ran
      simp only [requestDiverges, addressed, Bool.not_false, Bool.true_and] at safe
      exact (thisUserSub_agreement settled ran).2 safe
  | set r =>
    simp only [handle] at ran
    split at ran
    · cases ran
      exact settled.congr rfl rfl rfl
    next addressed =>
    obtain ⟨⟨w'', res⟩, ran, rfl⟩ := map_ok ran
    unfold replySetSub at ran
    split at ran
    · cases ran
      exact settled.congr rfl rfl rfl
    next named =>
    obtain ⟨⟨w₁, result'⟩, done, ran⟩ := bind_ok ran
    simp only [requestDiverges, addressed, Bool.not_false, Bool.true_and, ne_eq, named,
      not_false_eq_true, decide_true] at safe
    have settled₁ : Settled w₁ := by
      unfold setSub at done
      dsimp only at done
      split at done
      · next own =>
        rw [if_pos (show r.target = r.asUid from own)] at safe
        exact (thisUserSub_agreement settled done).2 safe
      · next other =>
        rw [if_neg (show ¬ r.target = r.asUid from other)] at safe
        exact (anotherUserSub_agreement settled done).2 safe
    cases result' with
    | error text =>
      cases ran
      exact settled₁
    | ok modeChanged =>
      cases modeChanged <;> cases ran <;> exact settled₁.congr rfl rfl rfl
  | del sess asUid original user =>
    obtain ⟨⟨w'', res⟩, ran, rfl⟩ := map_ok ran
    obtain ⟨owner, readers⟩ := replyDelSub_store ran
    rcases replyDelSub_acl settled.group ran with same | ⟨g, cached, plain, -, -, view⟩
    · exact settled.congr same owner readers
    · have other : user ≠ w.topic.owner := fun own => by
        rw [Grant.mode, isOwner_and, Bool.and_comm] at plain
        cases plain.symm.trans (settled.owns cached own).2
      exact settled.remove other (.inl view) owner (fun v _ => by rw [readers])
        fun row stored => ⟨row, readers ▸ stored, rfl⟩
  | unsub sess asUid original =>
    obtain ⟨⟨w'', res⟩, ran, rfl⟩ := map_ok ran
    rcases replyLeaveUnsub_store settled.group ran with ⟨same, stored⟩ | ⟨gone, owner, readers, given⟩
    · exact settled.congr same (by rw [stored]) (by rw [stored])
    rcases replyLeaveUnsub_acl settled.group ran with same | ⟨other, view⟩
    · rw [same] at gone
      exact settled.remove (settled.uncached_ne gone)
        (.inr ⟨same.trans (Acl.drop_uncached _ _ gone).symm, settled.inactive gone⟩) owner
        readers given
    · refine settled.remove (Ne.symm other) ?_ owner readers given
      split at view
      · next reader =>
        refine .inr ⟨view, ?_⟩
        cases cached : w.acl.grants asUid with
        | none => exact settled.inactive cached
        | some g =>
          rw [cached] at reader
          exact settled.apart _ _ cached reader
      · exact .inl view

theorem created_settled {users : GoMap Uid User} {name : String} {r : NewTopicRequest}
    (created : initTopicNewGrp cfg users name r = .ok w) : Settled w := by
  obtain ⟨cat, owner, grants, rows⟩ := initTopicNewGrp_acl created
  have full : modeCFull.isOwner := by decide
  have stored : w.store.topicOwner = r.asUser ∧ readerRow w.store = fun _ => none := by
    cases created
    refine ⟨?_, ?_⟩
    · exact (topicOwner_createSub ..).trans (ite_self _)
    · exact (readerRow_createSub ..).trans rfl
  refine settled_of_users cat (owner.trans stored.1.symm) ?_ fun u => ?_
  · refine ⟨⟨creatorWant r.mode, modeCFull, false, false⟩, ?_, rfl, ?_⟩
    · exact (grants _).trans (if_pos owner)
    · simp [Grant.owns, creatorWant_owner, full]
  · rw [grants, rows, stored.2]
    split_ifs
    · exact .subscriber rfl rfl (by simp)
    · exact .absent rfl (by simp)

/-- A request, and which of its store calls fail. -/
def step (cfg : Config) (w : World) (e : Faults × Request) : World := serve cfg e.1 w e.2

/-- In every run from the creation of a group topic none of whose requests diverges, the cache and
the database agree in every state reached, whichever store calls fail. -/
theorem run_settled (cfg : Config) (users : GoMap Uid User) (name : String) (r : NewTopicRequest)
    (w : World) (created : initTopicNewGrp cfg users name r = .ok w)
    (events : List (Faults × Request))
    (safe : Guarded (step cfg) (fun w e => requestDiverges cfg e.1 w e.2 = false) w events) :
    Settled (run (step cfg) w events) := by
  refine run_invariant (fun w e settled safe => ?_) (created_settled created) safe
  unfold step serve
  split
  · next w' ran => exact handle_settled settled safe ran
  · exact settled

/-- In such a run the topic may be unloaded at any time: loading it again, with the rows in any
order, gives every subscriber the cached modes, and nobody else any. -/
theorem reload_keeps_modes (cfg : Config) (users : GoMap Uid User) (name : String)
    (r : NewTopicRequest)
    (w : World) (created : initTopicNewGrp cfg users name r = .ok w)
    (events : List (Faults × Request))
    (safe : Guarded (step cfg) (fun w e => requestDiverges cfg e.1 w e.2 = false) w events)
    (order : RowOrder)
    (complete : (run (step cfg) w events).store.activeSubs.length ≤ cfg.maxResults) (u : Uid) :
    (reload cfg order (run (step cfg) w events)).acl.grants u =
      ((run (step cfg) w events).acl.grants u).filter fun g => !g.reader := by
  have settled := run_settled cfg users name r w created events safe
  rw [reload_grants order complete]
  generalize run (step cfg) w events = w at settled
  have unloaded (inactive : isActive (w.acl.rows u) = false) :
      (w.acl.rows u).filter (·.active) = none := by
    cases stored : w.acl.rows u <;> simp_all [isActive, Option.filter]
  cases cached : w.acl.grants u with
  | none => simp [unloaded (settled.inactive cached)]
  | some g =>
    cases reader : g.reader with
    | true =>
      rw [unloaded (settled.apart u g cached reader)]
      simp [Option.filter, reader]
    | false =>
      have alive := settled.alive u g cached
      obtain ⟨want, given, _, _⟩ := g
      simp_all [settled.stored cached reader, Option.filter]

/-- The owner 1 has offered the ownership to the subscriber 2. -/
def offer : List (Faults × Request) :=
  [(fun _ => false,
      .sub { sess := { sid := "s2", proto := .websock }, asUid := 2, asLvl := .auth }),
    (fun _ => false,
      .set { sess := { sid := "s1", proto := .websock }, asUid := 1, asLvl := .auth, user := some 2,
             mode := "JRWPO" })]

/-- The offer is accepted. -/
def acceptance : SubRequest :=
  { sess := { sid := "s2", proto := .websock }, asUid := 2, asLvl := .auth, want := "JRWPO" }

instance (grant : Option Grant) (row reader : Option RowGrant) :
    Decidable (AgreesFor grant row reader) :=
  match grant with
  | none => inferInstanceAs (Decidable (isActive row = false))
  | some g =>
    inferInstanceAs (Decidable ((if g.reader then reader else row) = some ⟨g.want, g.given, true⟩))

theorem offer_reloaded :
    ∃ w, initTopicNewGrp {} ∅ "grpT" { asUser := 1 } = .ok w ∧
      (reload {} .asStored (run (step {}) w offer)).acl.grants 2 =
        ((run (step {}) w offer).acl.grants 2).filter fun g => !g.reader :=
  ⟨_, rfl,
    reload_keeps_modes {} ∅ "grpT" { asUser := 1 } _ rfl offer (by decide) .asStored (by decide) 2⟩

/-- The write of the owner's name fails: the cache has the old owner, the subscriptions in the
database have the new one, which the next load of the topic takes. -/
theorem failed_ownerChange_diverges :
    ∃ w, initTopicNewGrp {} ∅ "grpT" { asUser := 1 } = .ok w ∧
      let before := run (step {}) w offer
      let after := step {} before ((· == .ownerChange), .sub acceptance)
      Settled before ∧ ¬ Agrees after ∧ after.topic.owner = 1 ∧
        (reload {} .asStored after).topic.owner = 2 := by
  refine ⟨_, rfl, run_settled {} ∅ "grpT" { asUser := 1 } _ rfl _ (by decide), ?_,
    by decide, by decide⟩
  intro agrees
  exact absurd (agrees.users 1) (by decide)

/-- The same transfer on a healthy store. -/
theorem healthy_transfer_agrees :
    ∃ w w' result, initTopicNewGrp {} ∅ "grpT" { asUser := 1 } = .ok w ∧
      thisUserSub {} (fun _ => false) (run (step {}) w offer) acceptance = .ok (w', result) ∧
      Settled (run (step {}) w offer) ∧ Agrees w' := by
  have settled := run_settled {} ∅ "grpT" { asUser := 1 } _ rfl offer (by decide)
  refine ⟨_, _, _, rfl, rfl, settled, ?_⟩
  exact ((request_keeps_agreement_iff {} (fun _ => false) _ settled).1 acceptance _ _ rfl).mpr
    (by decide)

end LastochkaServer.Guarantees.CacheAgreement
