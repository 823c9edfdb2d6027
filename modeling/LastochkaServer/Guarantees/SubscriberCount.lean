import LastochkaServer.Lib.Run
import LastochkaServer.Source.Topic.BookedSessions

/-!
# The cached number of subscribers

`t.subCnt` of a group topic against the active subscriptions in the store, under the topic's and
under the channel's name.

The counter goes up when a session is attached for a new subscription (`server/topic.go:1459-1462`)
and down when a user unsubscribes (`server/topic.go:3557-3559`); the subscriptions themselves are
created and deleted elsewhere. A new topic starts with one subscriber (`server/init_topic.go:618`),
whose own `{sub}` is then counted once more. An invitation and a `{set sub}` by somebody who is not
cached create a subscription that is not counted, as does a `{sub}` that asks for a mode without
`J`; a reader who comes back is counted again although the subscription was never deleted; and an
administrator who removes a subscriber does not count the subscription out.

`subCnt_always` says that nothing else goes wrong: where none of these happens, the counter is right
in every state.
-/

namespace LastochkaServer.Guarantees.SubscriberCount

open Lib Lib.Run Source

variable {w w' : World} {key : Addressing × Uid} {cfg : Config} {active : Bool} {v : Service}

/-- The number of subscriptions that are not marked as deleted, under both names. -/
def subscriptions (s : Store) : Nat := s.subs.tally fun _ sub => if sub.deletedAt then 0 else 1

/-- The counter is right. -/
def Counted (w : World) : Prop := w.topic.subCnt = subscriptions w.store

theorem share_active (s : Store) (key : Addressing × Uid) :
    s.subs.share (fun _ sub => if sub.deletedAt then 0 else 1) key = (s.active key).toNat := by
  unfold GoMap.share Store.active
  cases s.subs.lookup key with
  | none => rfl
  | some sub => cases deleted : sub.deletedAt <;> simp [deleted]

theorem subscriptions_update {s s' : Store}
    (filed : s'.active = Function.update s.active key active) :
    subscriptions s' + (s.active key).toNat = subscriptions s + active.toNat := by
  have before := GoMap.tally_erase (fun _ sub => if sub.deletedAt then 0 else 1) s.subs key
  have after := GoMap.tally_erase (fun _ sub => if sub.deletedAt then 0 else 1) s'.subs key
  rw [share_active] at before after
  have now : s'.active key = active := by simp [filed]
  have rest : GoMap.tally (fun _ sub => if sub.deletedAt then 0 else 1) (s'.subs.erase key) =
      GoMap.tally (fun _ sub => if sub.deletedAt then 0 else 1) (s.subs.erase key) := by
    refine GoMap.tally_eq_of_share _ _ _ _ fun other => ?_
    rw [GoMap.share_erase, GoMap.share_erase]
    split_ifs with same
    · rfl
    · rw [share_active, share_active, filed, Function.update_of_ne same]
  unfold subscriptions
  rw [now] at after
  omega

/-- The counter stays right if it moves with the subscription. -/
theorem Counted.filed (counted : Counted w)
    (filed : w'.books.active = Function.update w.books.active key active)
    (moved : w'.books.subCnt = w.books.subCnt + ((active.toNat : Int) - (w.books.active key).toNat)) :
    Counted w' := by
  have tallied := subscriptions_update filed
  unfold Counted at counted ⊢
  have moved : w'.topic.subCnt =
      w.topic.subCnt + ((active.toNat : Int) - (w.store.active key).toNat) := moved
  omega

theorem Counted.kept (counted : Counted w) (active : w'.books.active = w.books.active)
    (same : w'.books.subCnt = w.books.subCnt) : Counted w' := by
  have filed : w'.books.active =
      Function.update w.books.active (.topic, 0) (w.books.active (.topic, 0)) := by
    rw [active, Function.update_eq_self]
  refine counted.filed filed ?_
  omega

/-- A `{sub}` is counted when the user is cached exactly if the subscription is there already. -/
def CarefulSub (cfg : Config) (w : World) (r : SubRequest) : Prop :=
  if r.asUid ∈ w.topic.perUser then r.newsub = false
  else w.store.active (r.tname, r.asUid) = false ∧ (r.asChan = false → asksToJoin cfg w.topic r)
  deriving Decidable

/-- The name under which `{set sub}` may create a subscription. -/
def setName (r : SetSubRequest) : Addressing := if r.target = r.asUid then r.toSub.tname else .topic

/-- The event leaves no subscription uncounted. Unsubscription always does so. -/
def Tallied (cfg : Config) (v : Service) : SessionEvent → Prop
  | .subscribe r _ => CarefulSub cfg v.world r
  | .setSub r _ => r.target ∈ v.world.topic.perUser ∨ v.world.store.active (setName r, r.target)
  | .delSub _ _ _ user => user ∈ v.world.topic.perUser → v.world.store.active (.topic, user) = false
  | _ => True

instance (cfg : Config) (v : Service) (e : SessionEvent) : Decidable (Tallied cfg v e) := by
  cases e <;> unfold Tallied <;> infer_instance

/-- A request that is turned down meets no condition. -/
def Careful (cfg : Config) (v : Service) (e : SessionEvent) : Prop :=
  e.denied cfg v.world.topic ∨ Tallied cfg v e
  deriving Decidable

/-- A loaded group topic with the right counter. -/
structure Settled (v : Service) : Prop where
  group : v.world.topic.cat = .grp
  sane : v.world.books.Sane
  alive : ∀ uid s, v.world.books.seats uid = some s → s.deleted = false
  counted : Counted v.world

theorem Settled.absent (settled : Settled v) {uid : Uid}
    (gone : ∀ s, v.world.books.seats uid = some s → s.deleted) : uid ∉ v.world.topic.perUser := by
  intro cached
  obtain ⟨s, taken⟩ := (seated_iff v.world uid).mpr cached
  have removed := gone s taken
  rw [settled.alive uid s taken] at removed
  cases removed

/-- A request for the own subscription leaves the subscriptions alone or makes that of a newcomer
active. -/
theorem selfBooked_active {r : SubRequest} {want : String} {missing : Uid → Prop} {b b' : Books}
    (booked : SelfBooked b r.asUid r.asChan want missing b') :
    b'.active = b.active ∧ (b' = b ∨ ∃ s, b.seats r.asUid = some s) ∨
      (∀ s, b.seats r.asUid = some s → s.deleted) ∧
        b'.active = Function.update b.active (r.tname, r.asUid) true := by
  unfold SubRequest.tname
  cases booked with
  | kept => exact .inl ⟨rfl, .inl rfl⟩
  | subscribed s absent named
  | attached s absent named => exact .inr ⟨absent, by rw [named]; rfl⟩
  | changed base handed old s taken =>
    refine .inl ⟨?_, .inr ⟨old, taken⟩⟩
    rcases handed with rfl | ⟨owner, -, rfl⟩ <;> rfl

theorem subscribe_counted {r : SubRequest} {mid : Books} {joined : Bool} (settled : Settled v)
    (careful : CarefulSub cfg v.world r)
    (booked : SelfBooked v.world.books r.asUid r.asChan r.want (v.world.OwnerMissing r.asUid) mid)
    (sits : joined → ∃ s, mid.seats r.asUid = some s)
    (outside : joined = false → v.world.topic.cat = .grp → Newcomer cfg v.world r →
      mid = v.world.books)
    (view : w'.books =
      mid.count (bif joined then v.world.topic.gained (isNewsub v.world.topic r) else 0)) :
    Counted w' := by
  have active : w'.books.active = mid.active := by rw [view]; rfl
  have subCnt : w'.books.subCnt =
      mid.subCnt + bif joined then v.world.topic.gained (isNewsub v.world.topic r) else 0 := by
    rw [view]
    rfl
  rw [booked.frame.2.2.2] at subCnt
  unfold CarefulSub at careful
  split at careful
  · next cached =>
    -- the user is subscribed already, so neither the subscriptions nor the counter change
    have gained : v.world.topic.gained (isNewsub v.world.topic r) = 0 := by
      obtain ⟨pud, found⟩ := Option.isSome_iff_exists.mp (AList.lookup_isSome.mpr cached)
      have present : pud.deleted = false :=
        settled.alive r.asUid pud.seat (by simp [World.books, found])
      simp [Topic.gained, isNewsub, careful, found, present]
    have unmoved : w'.books.subCnt = v.world.books.subCnt := by
      rw [subCnt, gained]
      cases joined <;> exact Int.add_zero _
    rcases selfBooked_active booked with ⟨same, -⟩ | ⟨absent, -⟩
    · exact settled.counted.kept (active.trans same) unmoved
    · exact absurd cached (settled.absent absent)
  next uncached =>
  have absent : ∀ pud, v.world.topic.perUser.lookup r.asUid = some pud → pud.deleted := by
    intro pud found
    exact absurd (AList.lookup_isSome.mp (by rw [found]; rfl)) uncached
  cases joined with
  | false =>
    have same := outside rfl settled.group ⟨absent, careful.1, careful.2⟩
    subst same
    exact settled.counted.kept active (subCnt.trans (Int.add_zero _))
  | true =>
    have gained : v.world.topic.gained (isNewsub v.world.topic r) = 1 := by
      rw [isNewsub_absent settled.group absent]
      simp [Topic.gained, settled.group]
    rw [gained] at subCnt
    obtain ⟨-, seated⟩ | ⟨-, filed⟩ := selfBooked_active booked
    · refine absurd ((seated_iff v.world r.asUid).mp (seated.elim (fun same => ?_) id)) uncached
      exact same ▸ sits rfl
    refine settled.counted.filed (active.trans filed) ?_
    have unfiled : v.world.books.active (r.tname, r.asUid) = false := careful.1
    rw [subCnt, unfiled]
    rfl

theorem update_filed {active : Addressing × Uid → Bool} {value : Bool} (filed : active key = value) :
    Function.update active key value = active := by
  rw [← filed, Function.update_eq_self]

theorem attend_settled {fail : Faults} (v : Service) (e : SessionEvent) (settled : Settled v)
    (careful : Careful cfg v e) : Settled (attend cfg fail v e) := by
  rcases careful with denied | careful
  · obtain ⟨out, same⟩ := attend_denied fail denied
    rw [same]
    exact ⟨settled.group, ⟨settled.sane.1, settled.sane.2⟩, settled.alive, settled.counted⟩
  have booked := attend_books cfg fail e settled.sane
  have group : (attend cfg fail v e).world.topic.cat = .grp := booked.frame.1.trans settled.group
  have alive : ∀ uid s, (attend cfg fail v e).world.books.seats uid = some s → s.deleted = false := by
    intro uid s taken
    rcases booked.seats settled.sane taken with before | proper | ⟨-, p2p, -⟩
    · exact settled.alive uid s before
    · exact proper.1
    · rw [settled.group] at p2p
      cases p2p
  refine ⟨group, booked.sane settled.sane, alive, ?_⟩
  generalize after : (attend cfg fail v e).world = w' at booked
  generalize view : w'.books = b' at booked
  cases booked with
  | kept => exact settled.counted.kept (by rw [view]) (by rw [view])
  | subscribed r authed mid joined booked sits outside =>
    exact subscribe_counted settled careful booked sits outside view
  | unsubscribed sess asUid original authed _ booked =>
    cases booked with
    | kept => exact settled.counted.kept (by rw [view]) (by rw [view])
    | left s seated active p2p =>
      have group : v.world.books.cat = .grp := settled.group
      have filed : w'.books.active = Function.update v.world.books.active (s.name, asUid) false := by
        rw [view]
        rfl
      refine settled.counted.filed filed ?_
      rw [view, active]
      simp [Books.count, Books.seat, Books.tell, Books.file, group]
    | leftP2P _ _ _ p2p =>
      have group : v.world.books.cat = .grp := settled.group
      rw [group] at p2p
      cases p2p
  | departed e r leaves _ departed =>
    have frame := departed.frame
    rw [← view] at frame
    exact settled.counted.kept (by rw [frame]) (by rw [frame])
  | setSelf r authed own _ booked =>
    refine settled.counted.kept ?_ (by rw [view]; exact booked.frame.2.2.2)
    rw [view]
    rcases selfBooked_active (r := r.toSub) booked with ⟨same, -⟩ | ⟨absent, filed⟩
    · exact same
    · have already := careful.resolve_left (own ▸ settled.absent absent)
      rw [setName, if_pos own, own] at already
      exact filed.trans (update_filed already)
  | setOther r authed other _ booked =>
    have careful : r.target ∉ v.world.topic.perUser → v.world.books.active (.topic, r.target) := by
      intro uncached
      have filed := careful.resolve_left uncached
      rwa [setName, if_neg other] at filed
    cases booked with
    | kept => exact settled.counted.kept (by rw [view]) (by rw [view])
    | invited s absent =>
      refine settled.counted.kept ?_ (by rw [view]; rfl)
      rw [view]
      exact update_filed (careful (settled.absent absent))
    | changed => exact settled.counted.kept (by rw [view]; rfl) (by rw [view]; rfl)
  | removed sess asUid original user _ booked =>
    cases booked with
    | kept => exact settled.counted.kept (by rw [view]) (by rw [view])
    | removed s taken =>
      refine settled.counted.kept ?_ (by rw [view]; rfl)
      rw [view]
      exact update_filed (careful ((seated_iff v.world user).mp ⟨s, taken⟩))
  | raised e sess raises uid risen =>
    exact settled.counted.kept (by rw [view]; rfl) (by rw [view]; rfl)

/-- A group topic as it is loaded: nobody has left, there are no readers, and the counter is
right. -/
structure Opened (w : World) : Prop where
  group : w.topic.cat = .grp
  subscribers : ∀ uid pud, w.topic.perUser.lookup uid = some pud → pud.deleted = false ∧
    pud.isChan = false
  counted : Counted w

theorem Opened.settled (opened : Opened w) : Settled { world := w } where
  group := opened.group
  sane := by
    refine ⟨fun uid s taken reader => ?_, fun _ => opened.group⟩
    obtain ⟨pud, cached, rfl⟩ := Option.map_eq_some_iff.mp taken
    have reader : pud.isChan := reader
    rw [(opened.subscribers uid pud cached).2] at reader
    cases reader
  alive uid s taken := by
    obtain ⟨pud, cached, rfl⟩ := Option.map_eq_some_iff.mp taken
    exact (opened.subscribers uid pud cached).1
  counted := opened.counted

theorem initTopicNewGrp_opened {users : GoMap Uid User} {name : String} {r : NewTopicRequest}
    (created : initTopicNewGrp cfg users name r = .ok w) : Opened w := by
  obtain ⟨accessAuth, -, created⟩ := bind_ok created
  cases created
  refine ⟨rfl, fun uid pud cached => ?_, ?_⟩
  · simp only [Topic.computePerUserAcsUnion, Topic.setPud] at cached
    rcases GoMap.lookup_insert_eq_some.mp cached with ⟨-, rfl⟩ | ⟨-, cached⟩
    · exact ⟨rfl, rfl⟩
    · cases cached
  · rfl

/-- In a loaded group topic the counter is right in every state that careful events lead to. -/
theorem subCnt_always {cfg : Config} {fail : Faults} {w : World} (opened : Opened w)
    {events : List SessionEvent}
    (careful : Guarded (attend cfg fail) (Careful cfg) { world := w } events) :
    Counted (run (attend cfg fail) { world := w } events).world := by
  have preserved : ∀ v e, Settled v → Careful cfg v e → Settled (attend cfg fail v e) :=
    attend_settled
  exact (run_invariant preserved opened.settled careful).counted

def device (sid : String) (uid : Uid) : Session := { sid := sid, proto := .websock, uid := uid }

/-- User 1 creates a channel that everybody may also join as a subscriber. -/
def creation : NewTopicRequest :=
  { asUser := 1, isChan := true, defaultAcs := some { auth := "JRWP" } }

def founded : World :=
  match initTopicNewGrp {} ∅ "grpA" creation with
  | .ok w => w
  | .error _ => { topic := { cat := .grp } }

theorem founded_created : initTopicNewGrp {} ∅ "grpA" creation = .ok founded := rfl

/-- The request that has created the topic. -/
def creatorJoins : SessionEvent :=
  .subscribe { sess := device "s1" 1, asUid := 1, asLvl := .auth, newsub := true } (by decide)

/-- The creator is the only subscriber and is counted twice. -/
theorem creator_counted_twice :
    initTopicNewGrp {} ∅ "grpA" creation = .ok founded ∧
      (run (attend {} fun _ => false) { world := founded } [creatorJoins]).world.topic.subCnt = 2 ∧
      subscriptions
        (run (attend {} fun _ => false) { world := founded } [creatorJoins]).world.store = 1 := by
  refine ⟨rfl, ?_, ?_⟩ <;> decide +kernel

/-- The creator attaches after the topic was loaded again, user 2 and a reader join, and user 2
unsubscribes. -/
def visits : List SessionEvent :=
  [.subscribe { sess := device "s1" 1, asUid := 1, asLvl := .auth } (by decide),
    .subscribe { sess := device "s2" 2, asUid := 2, asLvl := .auth } (by decide),
    .subscribe { sess := device "s3" 3, asUid := 3, asLvl := .auth, asChan := true } (by decide),
    .leave (device "s2" 2) 2 .topic true (by decide)]

theorem visits_counted :
    Guarded (attend {} fun _ => false) (Careful {}) { world := founded } visits ∧
      Counted (run (attend {} fun _ => false) { world := founded } visits).world := by
  have careful : Guarded (attend {} fun _ => false) (Careful {}) { world := founded } visits := by
    decide +kernel
  exact ⟨careful, subCnt_always (initTopicNewGrp_opened founded_created) careful⟩

end LastochkaServer.Guarantees.SubscriberCount
