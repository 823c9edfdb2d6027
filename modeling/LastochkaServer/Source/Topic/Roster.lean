import LastochkaServer.Source.Topic.Outcomes

/-!
# The roster of a topic

The view of a topic that the agreement of cache and database is studied under: the card of every
cached user, with both modes and all marks, the stored row of every subscription, and the fields of
the topic that are loaded from its own row. Presence, sessions and private values are left out.

The two unions of modes are cached too; `Exact` says that they are what `computePerUserAcsUnion`
makes of the cards.
-/

namespace LastochkaServer.Source

open Lib AccessMode

variable {uid : Uid} {w w' : World} {skip : String} {isChan : Bool}

/-- A cached user. -/
structure Card where
  want : AccessMode := 0
  given : AccessMode := 0
  readID : Int := 0
  recvID : Int := 0
  delID : Int := 0
  isChan : Bool := false
  deleted : Bool := false
  deriving DecidableEq

def PerUserData.card (pud : PerUserData) : Card where
  want := pud.modeWant
  given := pud.modeGiven
  readID := pud.readID
  recvID := pud.recvID
  delID := pud.delID
  isChan := pud.isChan
  deleted := pud.deleted

/-- A stored subscription. -/
structure Entry where
  want : AccessMode
  given : AccessMode
  readID : Int := 0
  recvID : Int := 0
  delID : Int := 0
  active : Bool := true
  deriving DecidableEq

def Subscription.entry (sub : Subscription) : Entry where
  want := sub.modeWant
  given := sub.modeGiven
  readID := sub.readSeqId
  recvID := sub.recvSeqId
  delID := sub.delId
  active := !sub.deletedAt

@[ext] structure Roster where
  cat : TopicCat
  isChan : Bool
  owner : Uid
  accessAuth : AccessMode
  accessAnon : AccessMode
  lastID : Int
  delID : Int
  wantUnion : AccessMode
  givenUnion : AccessMode
  cards : Uid → Option Card
  rows : Addressing × Uid → Option Entry
  /-- The stored number of the last message. -/
  seqId : Int

def World.roster (w : World) : Roster where
  cat := w.topic.cat
  isChan := w.topic.isChan
  owner := w.topic.owner
  accessAuth := w.topic.accessAuth
  accessAnon := w.topic.accessAnon
  lastID := w.topic.lastID
  delID := w.topic.delID
  wantUnion := w.topic.modeWantUnion
  givenUnion := w.topic.modeGivenUnion
  cards uid := (w.topic.perUser.lookup uid).map PerUserData.card
  rows key := (w.store.subs.lookup key).map Subscription.entry
  seqId := w.store.seqId

namespace Roster

def put (r : Roster) (uid : Uid) (card : Option Card) : Roster :=
  { r with cards := Function.update r.cards uid card }

def file (r : Roster) (key : Addressing × Uid) (entry : Option Entry) : Roster :=
  { r with rows := Function.update r.rows key entry }

/-- Change a row, if there is one. -/
def edit (r : Roster) (key : Addressing × Uid) (change : Entry → Entry) : Roster :=
  r.file key ((r.rows key).map change)

/-- The unions are computed anew. -/
def refresh (r : Roster) (wantUnion givenUnion : AccessMode) : Roster :=
  { r with wantUnion := wantUnion, givenUnion := givenUnion }

/-- A mode is the union of the modes of the cached subscribers and, in a channel, of the standard
mode of readers. -/
def UnionOf (r : Roster) (mode : Card → AccessMode) (union : AccessMode) : Prop :=
  ∀ i, union.getLsbD i ↔
    (∃ uid card, r.cards uid = some card ∧ card.isChan = false ∧ (mode card).getLsbD i) ∨
      (r.isChan ∧ modeCChnReader.getLsbD i)

structure Exact (r : Roster) : Prop where
  want : r.UnionOf Card.want r.wantUnion
  given : r.UnionOf Card.given r.givenUnion

section

variable (r : Roster)

@[simp] theorem put_same (uid : Uid) (card : Option Card) : (r.put uid card).cards uid = card := by
  simp [put]

theorem put_other {v : Uid} (card : Option Card) (other : v ≠ uid) :
    (r.put uid card).cards v = r.cards v := by
  simp [put, other]

@[simp] theorem file_same (key : Addressing × Uid) (entry : Option Entry) :
    (r.file key entry).rows key = entry := by
  simp [file]

theorem put_self (uid : Uid) : r.put uid (r.cards uid) = r := by
  simp [put]

theorem file_self (key : Addressing × Uid) : r.file key (r.rows key) = r := by
  simp [file]

theorem put_put (uid : Uid) (first second : Option Card) :
    (r.put uid first).put uid second = r.put uid second := by
  simp [put]

theorem edit_id (key : Addressing × Uid) : r.edit key id = r := by
  simp [edit, file_self]

end

end Roster

theorem roster_congr (topic : w'.topic = w.topic) (store : w'.store = w.store) :
    w'.roster = w.roster := by
  unfold World.roster
  rw [topic, store]

@[simp] theorem roster_emit (w : World) (e : Effect) : (w.emit e).roster = w.roster := rfl

@[simp] theorem roster_refuse (w : World) (sid : String) (r : Rejection) :
    (w.refuse sid r).roster = w.roster := by
  unfold World.refuse
  split <;> rfl

theorem roster_setPud (w : World) (uid : Uid) (pud : PerUserData) :
    ({ w with topic := w.topic.setPud uid pud } : World).roster =
    w.roster.put uid (some pud.card) := by
  ext1
  all_goals try rfl
  funext v
  by_cases same : v = uid
  · subst same
    simp [World.roster, Topic.setPud]
  · simp [World.roster, Topic.setPud, Roster.put, AList.lookup_insert_ne same, same]

theorem roster_erase (w : World) (uid : Uid) :
    ({ w with topic := { w.topic with perUser := w.topic.perUser.erase uid } } : World).roster =
      w.roster.put uid none := by
  ext1
  all_goals try rfl
  funext v
  by_cases same : v = uid
  · subst same
    simp [World.roster]
  · simp [World.roster, Roster.put, AList.lookup_erase_ne same, same]

theorem rows_insert (s : Store) (key : Addressing × Uid) (row : Subscription) :
    (fun k => ((s.subs.insert key row).lookup k).map Subscription.entry) =
      Function.update (fun k => (s.subs.lookup k).map Subscription.entry) key (some row.entry) := by
  funext other
  by_cases same : other = key
  · subst same
    simp
  · simp [AList.lookup_insert_ne same, same]

theorem roster_createSub (w : World) (name : Addressing) (uid : Uid) (want given : AccessMode)
    (privateData : Value) :
    ({ w with store := w.store.createSub name uid want given privateData } : World).roster =
      w.roster.file (name, uid) (some { want := want, given := given }) := by
  ext1
  all_goals try rfl
  exact rows_insert w.store (name, uid) _

theorem roster_updateSub (w : World) (name : Addressing) (uid : Uid)
    (update : Subscription → Subscription)
    (change : Entry → Entry) (agree : ∀ sub, (update sub).entry = change sub.entry) :
    ({ w with store := w.store.updateSub name uid update } : World).roster =
    w.roster.edit (name, uid) change := by
  ext1
  case seqId =>
    unfold Store.updateSub
    split <;> rfl
  case rows =>
    unfold Store.updateSub
    cases found : w.store.subs.lookup (name, uid) with
    | none =>
      have missing : w.roster.rows (name, uid) = none := by simp [World.roster, found]
      rw [Roster.edit, missing, Option.map_none, ← missing, Roster.file_self]
    | some sub =>
      have stored : w.roster.rows (name, uid) = some sub.entry := by simp [World.roster, found]
      rw [Roster.edit, stored, Option.map_some, ← agree]
      exact rows_insert w.store (name, uid) _
  all_goals rfl

theorem roster_deleteSub {name : Addressing} {store : Store}
    (deleted : w.store.deleteSub name uid = some store) :
    ({ w with store := store } : World).roster =
      w.roster.edit (name, uid) ({ · with active := false }) ∧
      ∃ entry, w.roster.rows (name, uid) = some entry ∧ entry.active := by
  obtain ⟨sub, found, rfl⟩ := Option.map_eq_some_iff.mp deleted
  obtain ⟨kept, alive⟩ := Option.filter_eq_some_iff.mp found
  have stored : w.roster.rows (name, uid) = some sub.entry := by simp [World.roster, kept]
  constructor
  · ext1
    all_goals try rfl
    rw [Roster.edit, stored]
    exact rows_insert w.store (name, uid) _
  · exact ⟨sub.entry, stored, by simpa [Subscription.entry] using alive⟩

theorem roster_reportChange {changed : Bool} {actor : Uid} {oldWant oldGiven : AccessMode}
    {userData : PerUserData}
    (ran : reportChange w changed uid actor isChan oldWant oldGiven userData skip = .ok w') :
    w'.roster = w.roster := by
  obtain ⟨topic, store⟩ := reportChange_ok ran
  exact roster_congr topic store

theorem card_pud (w : World) (uid : Uid) : (w.topic.pud uid).card = (w.roster.cards uid).getD {} := by
  simp only [World.roster, Topic.pud, GoMap.getD]
  cases w.topic.perUser.lookup uid <;> rfl

theorem cards_of_cached {pud : PerUserData} (cached : w.topic.perUser.lookup uid = some pud) :
    w.roster.cards uid = some pud.card := by
  simp [World.roster, cached]

theorem foldl_union {α : Type} (mode : α → AccessMode) (xs : List α) (start : AccessMode) (i : Nat) :
    (xs.foldl (fun m x => m ||| mode x) start).getLsbD i ↔
      start.getLsbD i ∨ ∃ x ∈ xs, (mode x).getLsbD i := by
  induction xs generalizing start with
  | nil => simp
  | cons x rest ih =>
    rw [List.foldl_cons, ih, BitVec.getLsbD_or, Bool.or_eq_true, or_assoc]
    simp

theorem unionOf_entries (w : World) (mode : PerUserData → AccessMode) (view : Card → AccessMode)
    (agree : ∀ pud, view pud.card = mode pud) (union : AccessMode)
    (got : union = (w.topic.perUser.entries.filter fun e => !e.2.isChan).foldl
      (fun m e => m ||| mode e.2)
      modeNone ||| if w.topic.isChan then modeCChnReader else modeNone) :
    w.roster.UnionOf view union := by
  intro i
  have unset : modeNone.getLsbD i = false := by simp [modeNone]
  rw [got, BitVec.getLsbD_or, Bool.or_eq_true, foldl_union, unset]
  simp only [Bool.false_eq_true, false_or]
  apply or_congr
  · constructor
    · rintro ⟨⟨uid, pud⟩, mem, bit⟩
      obtain ⟨listed, subscriber⟩ := List.mem_filter.mp mem
      have cached := (GoMap.mem_entries_iff _ _ _).mp listed
      refine ⟨uid, pud.card, cards_of_cached cached, by simpa [PerUserData.card] using subscriber, ?_⟩
      rw [agree]
      exact bit
    · rintro ⟨uid, card, listed, subscriber, bit⟩
      obtain ⟨pud, cached, rfl⟩ := Option.map_eq_some_iff.mp listed
      rw [agree] at bit
      refine ⟨⟨uid, pud⟩, List.mem_filter.mpr ⟨(GoMap.mem_entries_iff _ _ _).mpr cached, ?_⟩, bit⟩
      simpa [PerUserData.card] using subscriber
  · change _ ↔ w.topic.isChan ∧ _
    cases w.topic.isChan with
    | true => simp
    | false => simp [unset]

theorem roster_union (w : World) : ∃ wantUnion givenUnion,
    ({ w with topic := w.topic.computePerUserAcsUnion } : World).roster =
      w.roster.refresh wantUnion givenUnion ∧
      (w.roster.refresh wantUnion givenUnion).Exact := by
  refine ⟨_, _, rfl, ?_, ?_⟩
  · exact unionOf_entries w (·.modeWant) Card.want (fun _ => rfl) _ rfl
  · exact unionOf_entries w (·.modeGiven) Card.given (fun _ => rfl) _ rfl

/-- The card of a user who is no longer attached: a reader's is dropped. -/
def Card.detached (card : Card) : Option Card := if card.isChan then none else some card

theorem evictSession_roster (uid : Uid) (skip : String) (w : World) (s : SessionKey) :
    (evictSession uid skip w s).roster = w.roster := by
  have frame := Topic.remSession_frame w.topic s uid
  rw [← evictSession_topic uid skip w s] at frame
  unfold World.roster
  rw [evictSession_store, frame]

theorem evictUser_roster {unsub : Bool} (ran : evictUser w uid unsub skip = .ok w') :
    w'.roster = (forgetUser w uid unsub).roster := by
  rw [evictUser_eq ran]
  generalize w.topic.sessions.keys = keys
  generalize forgetUser w uid unsub = start
  induction keys generalizing start with
  | nil => rfl
  | cons s rest ih => rw [List.foldl_cons, ih, evictSession_roster]

theorem forgetUser_card (w : World) (uid : Uid) :
    (forgetUser w uid false).roster = w.roster.put uid ((w.roster.cards uid).bind Card.detached) := by
  unfold forgetUser
  dsimp only
  cases cached : w.topic.perUser.lookup uid with
  | none =>
    have missing : w.roster.cards uid = none := by simp [World.roster, cached]
    rw [missing, Option.bind_none, ← missing, Roster.put_self]
    simp
  | some pud =>
    rw [cards_of_cached cached, Option.bind_some]
    simp only [Bool.false_eq_true, if_false]
    split
    · next reader =>
      rw [roster_erase]
      simp [Card.detached, PerUserData.card, reader]
    · next subscriber =>
      rw [roster_setPud]
      simp [Card.detached, PerUserData.card, subscriber]

theorem forgetUser_left (w : World) (uid : Uid) :
    if w.topic.cat = .p2p then
      (forgetUser w uid true).roster =
      w.roster.put uid (some { (w.roster.cards uid).getD {} with deleted := true })
    else (forgetUser w uid true).roster = w.roster ∧ w.roster.cards uid = none ∨
      ∃ wantUnion givenUnion, (forgetUser w uid true).roster =
        (w.roster.put uid none).refresh wantUnion givenUnion ∧
        ((w.roster.put uid none).refresh wantUnion givenUnion).Exact := by
  unfold forgetUser
  dsimp only
  cases cached : w.topic.perUser.lookup uid with
  | none =>
    have missing : w.roster.cards uid = none := by simp [World.roster, cached]
    rw [missing]
    simp only [true_and, Option.getD_none]
    split
    · rw [roster_setPud]
      rfl
    · simp
  | some pud =>
    rw [cards_of_cached cached]
    simp only [if_true, Option.getD_some]
    split
    · rw [roster_setPud]
      rfl
    · right
      obtain ⟨wantUnion, givenUnion, view, exact⟩ :=
        roster_union { w with topic := { w.topic with perUser := w.topic.perUser.erase uid } }
      rw [roster_erase] at view exact
      refine ⟨wantUnion, givenUnion, ?_, exact⟩
      split
      · exact view
      · exact view

end LastochkaServer.Source
