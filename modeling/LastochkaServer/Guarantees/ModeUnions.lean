import LastochkaServer.Lib.Run
import LastochkaServer.Source.Topic.RosterSessions

/-!
# The unions of modes

`modeWantUnion` and `modeGivenUnion` of a topic, which stand for the modes of a multiplexing session
(`server/topic.go:284-304`), against the modes of the cached users.

The unions are computed when the topic is loaded (`server/init_topic.go:106`), when somebody is
invited (`server/topic.go:2026`) and when a user is removed or unsubscribes
(`server/topic.go:3585`). In a channel they also contain the standard mode of readers, who are not
cached for long. No other request computes them: after a user has subscribed, or after a mode has
been changed, they are out of date until the next of these three.

`unions_exact`: nothing else makes them wrong.
-/

namespace LastochkaServer.Guarantees.ModeUnions

open Lib Lib.Run Source AccessMode

variable {v : Service} {w : World} {start : Roster} {r : GrantRequest} {uid : Uid} {name : Addressing}
  {e : SessionEvent} {fresh : Prop}

/-- What the loader of a category caches: subscribers, and no channel readers. -/
structure Loaded where
  topic : Topic
  subscribers : ∀ uid pud, topic.perUser.lookup uid = some pud → pud.isChan = false
  channel : topic.isChan → topic.cat = .grp

/-- The sessions send requests, and the topic is unloaded and loaded again. -/
inductive TopicEvent
  | session (fail : Faults) (e : SessionEvent)
  | load (t : Loaded)

/-- `topicInit`: whatever the category, the unions are computed once the users are loaded. -/
def Loaded.service (t : Loaded) (store : Store) : Service :=
  { world := { topic := t.topic.computePerUserAcsUnion, store := store } }

def topicStep (cfg : Config) (v : Service) : TopicEvent → Service
  | .session fail e => attend cfg fail v e
  | .load t => t.service v.world.store

/-- What a user adds to a union: the mode, unless the user is a channel reader. -/
def share (ro : Roster) (mode : Card → AccessMode) (uid : Uid) : AccessMode :=
  ((ro.cards uid).filter fun card => !card.isChan).elim 0 mode

/-- Every user adds the same to both unions. -/
def SameShares (ro ro' : Roster) : Prop :=
  ∀ uid, share ro' Card.want uid = share ro Card.want uid ∧
    share ro' Card.given uid = share ro Card.given uid

/-- The user is subscribed, as far as the cache knows. -/
def Subscribed (ro : Roster) (uid : Uid) : Prop := ∃ card ∈ ro.cards uid, card.deleted = false

/-- The topic has been loaded, the event has added another user to the topic, or it has removed a
user. -/
def Recomputes (v : Service) (e : TopicEvent) (v' : Service) : Prop :=
  match e with
  | .load _ => True
  | .session _ (.setSub r _) =>
    r.target ≠ r.asUid ∧ ¬ Subscribed v.world.roster r.target ∧ Subscribed v'.world.roster r.target
  | .session _ (.delSub _ _ _ user) =>
    v.world.roster.cards user ≠ none ∧ v'.world.roster.cards user = none
  | .session _ (.leave _ asUid _ true _) =>
    v.world.roster.cards asUid ≠ none ∧ v'.world.roster.cards asUid = none
  | _ => False

/-- The last event that has changed what somebody adds to a union is one of those after which they
are computed. -/
def UpToDate (cfg : Config) : Prop → Service → List TopicEvent → Prop
  | fresh, _, [] => fresh
  | fresh, v, e :: rest =>
    UpToDate cfg (Recomputes v e (topicStep cfg v e) ∨
      (fresh ∧ SameShares v.world.roster (topicStep cfg v e).world.roster)) (topicStep cfg v e) rest

theorem unionOf_share (ro : Roster) (mode : Card → AccessMode) (union : AccessMode) :
    ro.UnionOf mode union ↔ ∀ i, union.getLsbD i ↔
      (∃ uid, (share ro mode uid).getLsbD i) ∨ (ro.isChan ∧ modeCChnReader.getLsbD i) := by
  have added (i : Nat) (uid : Uid) : (share ro mode uid).getLsbD i ↔
      ∃ card, ro.cards uid = some card ∧ card.isChan = false ∧ (mode card).getLsbD i := by
    unfold share
    cases listed : ro.cards uid with
    | none => simp
    | some card => cases reader : card.isChan <;> simp [Option.filter, reader]
  simp [Roster.UnionOf, added]

theorem SameShares.unionOf {ro ro' : Roster} {mode : Card → AccessMode} {union : AccessMode}
    (same : ∀ uid, share ro' mode uid = share ro mode uid) (isChan : ro'.isChan = ro.isChan)
    (exact : ro.UnionOf mode union) : ro'.UnionOf mode union := by
  rw [unionOf_share] at exact ⊢
  simpa only [same, isChan] using exact

/-- The request has not touched the unions. -/
structure UnionsKept (ro ro' : Roster) : Prop where
  want : ro'.wantUnion = ro.wantUnion
  given : ro'.givenUnion = ro.givenUnion
  isChan : ro'.isChan = ro.isChan

theorem UnionsKept.refl (ro : Roster) : UnionsKept ro ro := ⟨rfl, rfl, rfl⟩

theorem UnionsKept.exact {ro ro' : Roster} (kept : UnionsKept ro ro') (same : SameShares ro ro')
    (exact : ro.Exact) :
    ro'.Exact := by
  constructor
  · rw [kept.want]
    exact SameShares.unionOf (fun uid => (same uid).1) kept.isChan exact.want
  · rw [kept.given]
    exact SameShares.unionOf (fun uid => (same uid).2) kept.isChan exact.given

section

variable {cfg : Config} {fail : Faults} {ro : Roster}

theorem selfListed_unions {r : SubRequest} (listed : SelfListed cfg fail w r ro) :
    UnionsKept w.roster ro := by
  cases listed with
  | kept => exact .refl _
  | joined m n =>
    have enrolled : UnionsKept w.roster (w.roster.enrol r n) := by
      unfold Roster.enrol
      split_ifs <;> exact ⟨rfl, rfl, rfl⟩
    exact { enrolled with }
  | changed m old new ownerChange => cases ownerChange <;> exact ⟨rfl, rfl, rfl⟩
  | interrupted m old new asked cached present got failed ro stored =>
    rcases stored with rfl | rfl <;> exact ⟨rfl, rfl, rfl⟩

theorem grantListed_unions (listed : GrantListed cfg fail w r ro) :
    UnionsKept w.roster ro ∨ ro.Exact := by
  cases listed with
  | kept => exact .inl (.refl _)
  | invited m want given wantUnion givenUnion checked absent chosen wanted joiner ro listed exact =>
    exact .inr exact
  | changed m old after
  | dropped old => exact .inl ⟨rfl, rfl, rfl⟩

theorem removalListed_unions (listed : RemovalListed start uid name ro) :
    UnionsKept start ro ∨ ro.Exact := by
  cases listed with
  | kept => exact .inl (.refl _)
  | uncached group missing => exact .inl ⟨rfl, rfl, rfl⟩
  | removed wantUnion givenUnion group after listed exact => exact .inr exact
  | left p2p active => exact .inl ⟨rfl, rfl, rfl⟩

theorem dispersed_unions {uids : List Uid} {counted asChan : Bool}
    (dispersed : Dispersed uids counted asChan start ro) : UnionsKept start ro := by
  obtain ⟨mid, summoned, dismissed⟩ := dispersed
  have first : UnionsKept start mid := by
    cases counted with
    | true =>
      rw [summoned.frame]
      exact ⟨rfl, rfl, rfl⟩
    | false =>
      cases summoned
      exact .refl _
  rw [dismissed.frame]
  exact { first with }

theorem listed_unions (listed : Listed cfg fail v e ro) :
    UnionsKept v.world.roster ro ∨ ro.Exact := by
  cases listed with
  | kept => exact .inl (.refl _)
  | subscribed r request authed after same named listed
  | setSelf r authed own after named listed => exact .inl (selfListed_unions listed)
  | setOther r authed other after someone listed => exact grantListed_unions listed
  | removed sess asUid original user after listed
  | unsubscribed sess asUid original authed after listed other => exact removalListed_unions listed
  | departed e r leaves after dispersed => exact .inl (dispersed_unions dispersed)
  | raised e sess raises uid risen => exact .inl ⟨rfl, rfl, rfl⟩

theorem removalListed_recomputes (listed : RemovalListed start uid name ro)
    (before : start.cards uid ≠ none) (after : ro.cards uid = none) : ro.Exact := by
  cases listed with
  | kept => exact absurd after before
  | uncached group missing => exact absurd missing before
  | removed wantUnion givenUnion group after listed exact => exact exact
  | left p2p active =>
    rw [Roster.put_same] at after
    cases after

theorem grantListed_recomputes (listed : GrantListed cfg fail w r ro)
    (before : ¬ Subscribed w.roster r.target) (after : Subscribed ro r.target) : ro.Exact := by
  have absent {old : PerUserData} (cached : w.topic.perUser.lookup r.target = some old) :
      old.deleted ≠ false :=
    fun present => before ⟨old.card, cards_of_cached cached, present⟩
  cases listed with
  | kept => exact absurd after before
  | invited m want given wantUnion givenUnion checked absent chosen wanted joiner ro listed exact =>
    exact exact
  | changed m old after checked cached present
  | dropped old cached present => exact absurd present (absent cached)

theorem listed_recomputes {v' : Service} (listed : Listed cfg fail v e v'.world.roster)
    (recomputes : Recomputes v (.session fail e) v') : v'.world.roster.Exact := by
  generalize same : v'.world.roster = ro at listed
  cases e with
  | setSub r authed =>
    obtain ⟨other, before, after⟩ := recomputes
    rw [same] at after
    cases listed with
    | kept => exact absurd after before
    | setSelf r authed own => contradiction
    | setOther r authed other after someone listed => exact grantListed_recomputes listed before after
    | departed e r leaves => cases leaves
    | raised e sess raises => cases raises
  | delSub sess asUid original user =>
    obtain ⟨before, after⟩ := recomputes
    rw [same] at after
    cases listed with
    | kept => exact absurd after before
    | removed sess asUid original user after listed =>
      exact removalListed_recomputes listed before after
    | departed e r leaves => cases leaves
    | raised e sess raises => cases raises
  | leave sess asUid original unsub authed =>
    cases unsub with
    | false => cases recomputes
    | true =>
      obtain ⟨before, after⟩ := recomputes
      rw [same] at after
      cases listed with
      | kept => exact absurd after before
      | unsubscribed sess asUid original authed after listed =>
        exact removalListed_recomputes listed before after
      | departed e r leaves => cases leaves
      | raised e sess raises => cases raises
  | _ => cases recomputes

end

theorem service_sane (t : Loaded) (store : Store) : (t.service store).world.books.Sane where
  readers uid s taken reader := by
    obtain ⟨pud, cached, rfl⟩ := Option.map_eq_some_iff.mp taken
    have reader : pud.isChan := reader
    rw [t.subscribers uid pud cached] at reader
    cases reader
  channel := t.channel

theorem service_exact (t : Loaded) (store : Store) : (t.service store).world.roster.Exact := by
  obtain ⟨wantUnion, givenUnion, view, exact⟩ := roster_union { topic := t.topic, store := store }
  rw [← view] at exact
  exact exact

theorem topicStep_sane (cfg : Config) (sane : v.world.books.Sane) (e : TopicEvent) :
    (topicStep cfg v e).world.books.Sane := by
  cases e with
  | session fail e => exact Booked.sane sane (attend_books cfg fail e sane)
  | load t => exact service_sane t v.world.store

theorem topicStep_exact (cfg : Config) (sane : v.world.books.Sane) (e : TopicEvent)
    (exact : fresh → v.world.roster.Exact) (upToDate : Recomputes v e (topicStep cfg v e) ∨
      (fresh ∧ SameShares v.world.roster (topicStep cfg v e).world.roster)) :
    (topicStep cfg v e).world.roster.Exact := by
  cases e with
  | load t => exact service_exact t v.world.store
  | session fail e =>
    have listed := attend_roster cfg fail e sane
    rcases upToDate with recomputes | ⟨was, same⟩
    · exact listed_recomputes listed recomputes
    · rcases listed_unions listed with kept | got
      · exact kept.exact same (exact was)
      · exact got

theorem upToDate_exact (cfg : Config) (sane : v.world.books.Sane)
    (exact : fresh → v.world.roster.Exact) (events : List TopicEvent)
    (upToDate : UpToDate cfg fresh v events) :
    (run (topicStep cfg) v events).world.roster.Exact := by
  induction events generalizing v fresh with
  | nil => exact exact upToDate
  | cons e rest ih => exact ih (topicStep_sane cfg sane e) (topicStep_exact cfg sane e exact) upToDate

/-- In every state of a run in which the last change of a cached mode was a load, an invitation or a
removal, each union is the union of the modes of the cached users who are not channel readers, and
in a channel of the standard mode of readers too. -/
theorem unions_exact (cfg : Config) (store : Store) (t : Loaded) (events : List TopicEvent)
    (upToDate : UpToDate cfg True (t.service store) events) :
    (run (topicStep cfg) (t.service store) events).world.roster.Exact :=
  upToDate_exact cfg (service_sane t store) (fun _ => service_exact t store) events upToDate

/-- A group topic with its owner, as it is loaded. -/
def founded : Loaded where
  topic := ({ cat := .grp, owner := 1, accessAuth := modeCPublic } : Topic).setPud 1
    { modeWant := modeCFull, modeGiven := modeCFull }
  subscribers uid pud cached := by
    by_cases owner : uid = 1
    · subst owner
      cases cached
      rfl
    · have other :
          ((∅ : GoMap Uid PerUserData).insert 1
            { modeWant := modeCFull, modeGiven := modeCFull }).lookup uid =
          none := by
        rw [AList.lookup_insert_ne owner]
        rfl
      rw [Topic.setPud, other] at cached
      cases cached
  channel := nofun

def founding : Store :=
  { users := (∅ : GoMap Uid User).insert 2 { accessAuth := modeCAuth } }

def invite : TopicEvent :=
  .session (fun _ => false) (.setSub
    { sess := { sid := "s1", proto := .websock, uid := 1 }, asUid := 1, asLvl := .auth,
      user := some 2, mode := "JRWP" }
    (show (1 : Uid) ≠ 0 by decide))

/-- An invitation leaves the unions exact. -/
theorem invitation_exact : UpToDate {} True (founded.service founding) [invite] ∧
    (run (topicStep {}) (founded.service founding) [invite]).world.roster.Exact := by
  have upToDate : UpToDate {} True (founded.service founding) [invite] := by
    refine .inl ⟨by decide, ?_, ⟨_, rfl, rfl⟩⟩
    rintro ⟨card, ⟨⟩, -⟩
  exact ⟨upToDate, unions_exact {} founding founded [invite] upToDate⟩

/-- A P2P topic in which only the second user wants to write. -/
def pair : Loaded where
  topic := (({ cat := .p2p } : Topic).setPud 1
    { modeWant := modeJoin ||| modeRead, modeGiven := modeCP2P }).setPud 2
    { modeWant := modeCP2P, modeGiven := modeCP2P }
  subscribers uid pud cached := by
    rcases GoMap.lookup_insert_eq_some.mp cached with ⟨-, rfl⟩ | ⟨-, cached⟩
    · rfl
    · rcases GoMap.lookup_insert_eq_some.mp cached with ⟨-, rfl⟩ | ⟨-, cached⟩
      · rfl
      · cases cached
  channel := nofun

def second : Session := { sid := "s2", proto := .websock, uid := 2 }

theorem second_known : (2 : Uid) ≠ 0 := by decide

/-- The second user attaches a session and leaves for good. -/
def leaves : List TopicEvent :=
  [.session (fun _ => false)
      (.subscribe { sess := second, asUid := 2, asLvl := .auth } second_known),
    .session (fun _ => false) (.leave second 2 .topic true second_known)]

/-- A new channel whose creator does not want to read: the union has `R` all the same. And a P2P
topic whose only writer has left: the union still has `W`. -/
theorem channel_union_reads :
    (∃ w, initTopicNewGrp {} ∅ "grpAAAAAAAAAAE" { asUser := 1, isChan := true, mode := "JO" } =
        .ok w ∧
      w.topic.modeWantUnion.isReader ∧
      ∀ e ∈ w.topic.perUser.entries, e.2.isChan = false → e.2.modeWant.isReader = false) ∧
    ∃ t, t = (run (topicStep {})
        (pair.service (({} : Store).createSub .topic 2 modeCP2P modeCP2P none)) leaves).world.topic ∧
      t.modeWantUnion.isWriter ∧ (t.pud 2).deleted ∧
      ∀ e ∈ t.perUser.entries, e.2.deleted = false → e.2.modeWant.isWriter = false :=
  ⟨⟨_, rfl, by decide, by decide⟩, _, rfl, by decide, by decide, by decide⟩

end LastochkaServer.Guarantees.ModeUnions
