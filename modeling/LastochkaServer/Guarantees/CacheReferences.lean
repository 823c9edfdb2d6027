import LastochkaServer.Lib.Run
import LastochkaServer.Source.Registrations

/-!
# Reference counts in the cache of users

`usersCache[uid].topics` against the number of loaded topics, other than `me` and `fnd`, in which
the user is a current subscriber: neither a channel reader nor marked as deleted.

A user who unsubscribes from a P2P topic is marked as deleted and stays cached; `evictUser`
(`server/topic.go:3571-3590`) unregisters the user in topics of all other categories but not there.
A subscription that follows registers the user once more (`server/topic.go:1695, 2029`), so the
count grows with every round.

Other causes are rare: a session that leaves under a channel's name takes the seat of a subscriber,
an online counter is changed for somebody who is not cached, and a user is added to a `me` or `fnd`
topic, which `usersRegisterTopic` does not count. Where none of these happens, the counts are right
whenever all requests are processed (`references_always`).
-/

namespace LastochkaServer.Guarantees.CacheReferences

open Lib Lib.Run Source

variable {uid user : Uid} {s : Seat} {v : Service} {asChan : Bool} {e : SessionEvent} {name : String}
  {b : Books} {uids : List Uid} {cfg : Config} {fail : Faults} {t : Topic} {P : Type}

/-- `me` and `fnd` are not counted. -/
def tracked (cat : TopicCat) : Bool := cat != .me && cat != .fnd

/-- The user is a current subscriber who is not a channel reader. -/
def subscriber (t : Topic) (uid : Uid) : Bool :=
  (t.perUser.lookup uid).any fun pud => !pud.isChan && !pud.deleted

/-- The number of loaded topics in which the user is a current subscriber. -/
def memberships (s : Node P) (uid : Uid) : Nat :=
  s.topics.tally fun _ v => (tracked v.world.topic.cat && subscriber v.world.topic uid).toNat

/-- Once all requests are processed, the user is in the cache exactly when subscribed to a loaded
topic, with the number of these topics. -/
def Balanced (s : Node P) : Prop :=
  s.queue = [] → ∀ uid,
    (uid ∈ s.updater.usersCache ↔ 0 < memberships s uid) ∧
      ∀ entry, s.updater.usersCache.lookup uid = some entry → entry.topics = memberships s uid

/-- Only the users who are there attach to a `me` or `fnd` topic. -/
def Private (t : Topic) (uid : Uid) : Prop := tracked t.cat = false → uid ∈ t.perUser
  deriving Decidable

/-- The owner is cached when somebody to whom the ownership is offered makes a request. -/
def OwnerCached (t : Topic) (uid : Uid) : Prop := (t.pud uid).modeGiven.isOwner → t.owner ∈ t.perUser
  deriving Decidable

def CarefulRequest (t : Topic) : SessionEvent → Prop
  | .subscribe r _ => Private t r.asUid ∧ OwnerCached t r.asUid
  | .setSub r _ => Private t r.target ∧ OwnerCached t r.asUid
  | .delSub _ _ _ user => tracked t.cat = false → user ∉ t.perUser
  | .leave _ _ _ unsub _ => unsub → t.cat ≠ .p2p
  | _ => True

/-- Those who leave with a session are cached if their counters change, and under a channel's name
they are readers. -/
def CarefulDeparture (t : Topic) (r : LeaveRequest) : Prop :=
  ((r.leavers t).2 → ∀ uid ∈ (r.leavers t).1, uid ∈ t.perUser) ∧
    (r.asChan t → ∀ uid ∈ (r.leavers t).1, subscriber t uid = false)

/-- The event is none of the defective ones. -/
def CarefulEvent (v : Service) (e : SessionEvent) : Prop :=
  CarefulRequest v.world.topic e ∧ (∀ r ∈ e.departure v, CarefulDeparture v.world.topic r) ∧
    ∀ uid ∈ (e.raised v).bind v.world.topic.risen, uid ∈ v.world.topic.perUser

def Careful (s : Node P) : NodeEvent P → Prop
  | .attend name _ e => ∀ v ∈ s.topics.lookup name, CarefulEvent v e
  | _ => True

instance (t : Topic) : (e : SessionEvent) → Decidable (CarefulRequest t e)
  | .subscribe .. | .setSub .. => instDecidableAnd
  | .delSub .. | .leave .. => inferInstanceAs (Decidable (_ → _))
  | .lost .. | .dropped .. | .foreground .. | .remoteForeground .. | .detached .. => .isTrue trivial

-- the users of a list are visited one by one, not all there could be
instance (t : Topic) (r : LeaveRequest) : Decidable (CarefulDeparture t r) :=
  have : Decidable (∀ uid ∈ (r.leavers t).1, uid ∈ t.perUser) := List.decidableBAll _ _
  have : Decidable (∀ uid ∈ (r.leavers t).1, subscriber t uid = false) := List.decidableBAll _ _
  inferInstanceAs (Decidable ((_ → _) ∧ (_ → _)))

instance (v : Service) (e : SessionEvent) : Decidable (CarefulEvent v e) :=
  have : Decidable (∀ uid ∈ (e.raised v).bind v.world.topic.risen, uid ∈ v.world.topic.perUser) :=
    Option.decidableForallMem _
  inferInstanceAs
    (Decidable (_ ∧ (∀ r ∈ e.departure v, _) ∧ ∀ uid ∈ (e.raised v).bind v.world.topic.risen, _))

instance (s : Node P) (e : NodeEvent P) : Decidable (Careful s e) := by
  cases e <;> unfold Careful <;> infer_instance

/-- Who is registered and unregistered by reports. -/
def registrations (reports : List Report) : List (Uid × Bool) :=
  reports.filterMap fun
    | .register uid add => some (uid, add)
    | .unread .. => none

def registerEach (n : Uid → Nat) (changes : List (Uid × Bool)) : Uid → Nat :=
  changes.foldl (fun n change => register change.2 n change.1) n

/-- The seat counts in a topic of the given category. -/
def counts (cat : TopicCat) (seat : Option Seat) : Bool :=
  tracked cat && seat.any fun s => !s.isChan && !s.deleted

theorem counts_books (w : World) (uid : Uid) :
    counts w.books.cat (w.books.seats uid) = (tracked w.topic.cat && subscriber w.topic uid) := by
  simp only [counts, subscriber, World.books]
  cases w.topic.perUser.lookup uid <;> rfl

/-- Between two states of a topic the registrations follow the seats. -/
def Follows (b b' : Books) : Prop :=
  ∀ n : Uid → Nat, (∀ uid, (counts b.cat (b.seats uid)).toNat ≤ n uid) → ∀ uid,
    registerEach n (registrations b'.reports) uid + (counts b.cat (b.seats uid)).toNat =
      n uid + (counts b'.cat (b'.seats uid)).toNat

theorem Follows.unchanged {b' : Books} (told : registrations b'.reports = [])
    (same : ∀ uid, counts b'.cat (b'.seats uid) = counts b.cat (b.seats uid)) : Follows b b' := by
  intro n _ uid
  rw [told, same]
  rfl

section Seat

variable {b' : Books} {after : Option Seat}

theorem Follows.kept (cat : b'.cat = b.cat) (seats : b'.seats = Function.update b.seats user after)
    (told : registrations b'.reports = [])
    (same : counts b.cat after = counts b.cat (b.seats user)) : Follows b b' := by
  refine .unchanged told fun uid => ?_
  rw [cat, seats]
  by_cases own : uid = user
  · subst own
    simpa using same
  · simp [own]

/-- One user is registered and has got a seat, or is unregistered and has lost it. -/
theorem Follows.changed (add : Bool) (cat : b'.cat = b.cat)
    (seats : b'.seats = Function.update b.seats user after)
    (told : registrations b'.reports = [(user, add)]) (before : counts b.cat (b.seats user) = !add)
    (now : counts b.cat after = add) : Follows b b' := by
  intro n enough uid
  rw [told, cat, seats]
  by_cases own : uid = user
  · subst own
    have enough := enough uid
    rw [before] at enough ⊢
    rw [Function.update_self, now]
    cases add with
    | true => simp [registerEach, register]
    | false =>
      simp [registerEach, register] at enough ⊢
      omega
  · simp [registerEach, register, own]

end Seat

theorem registrations_append (first second : List Report) :
    registrations (first ++ second) = registrations first ++ registrations second :=
  List.filterMap_append ..

theorem registrations_unreadChange (uid : Uid) (before : Bool) (s : Seat) (lastID : Int) :
    registrations (unreadChange uid before s lastID) = [] := by
  unfold unreadChange
  split <;> rfl

theorem registrations_unreadLeft (uid : Uid) (s : Seat) (lastID : Int) :
    registrations (unreadLeft uid s lastID) = [] := by
  unfold unreadLeft
  cases s.reads <;> rfl

/-- The seats of a topic that nobody has left. -/
structure Orderly (b : Books) : Prop where
  sane : b.Sane
  alive : ∀ uid s, b.seats uid = some s → s.deleted = false

theorem Orderly.absent (ord : Orderly b) (gone : ∀ s, b.seats uid = some s → s.deleted) :
    b.seats uid = none := by
  cases taken : b.seats uid with
  | none => rfl
  | some s =>
    have removed := gone s taken
    rw [ord.alive uid s taken] at removed
    cases removed

variable (cat : TopicCat)

theorem counts_alive (alive : s.deleted = false) :
    counts cat (some s) = (tracked cat && !s.isChan) := by
  simp [counts, alive]

theorem counts_detached (alive : s.deleted = false) :
    counts cat s.detached = (tracked cat && !s.isChan) := by
  unfold Seat.detached
  split
  · next reader => simp [counts, reader]
  · exact counts_alive cat alive

theorem counts_settled (alive : s.deleted = false) :
    counts cat s.settled = (tracked cat && !s.isChan) := by
  unfold Seat.settled
  cases s.joins
  · exact counts_detached cat alive
  · exact counts_alive cat alive

section Events

variable {b' : Books}

theorem tracked_of_absent (absent : b.seats uid = none)
    (within : tracked b.cat = false → ∃ s, b.seats uid = some s) : tracked b.cat := by
  cases tracks : tracked b.cat with
  | true => rfl
  | false =>
    obtain ⟨s, taken⟩ := within tracks
    rw [absent] at taken
    cases taken

theorem self_follows {want : String} {missing : Uid → Prop} (ord : Orderly b)
    (silent : b.reports = []) (booked : SelfBooked b uid asChan want missing b')
    (present : ∀ owner, ¬ missing owner)
    (within : tracked b.cat = false → ∃ s, b.seats uid = some s) :
    Follows b b' := by
  cases booked with
  | kept => exact .unchanged (by rw [silent]; rfl) fun _ => rfl
  | subscribed s gone named alive reader unread =>
    have absent := ord.absent gone
    have subscriber : s.isChan = false := by rw [reader, absent]; rfl
    refine .changed true rfl rfl ?_ (by simp [absent, counts]) ?_
    · simp only [Books.seat, Books.tell, Books.file, silent, List.nil_append]
      exact congrArg ((uid, true) :: ·) (registrations_unreadChange ..)
    · rw [counts_settled _ alive, subscriber, tracked_of_absent absent within]
      rfl
  | attached s gone named alive reader =>
    have absent := ord.absent gone
    refine .kept rfl rfl (by simp [Books.seat, Books.file, silent, registrations]) ?_
    rw [counts_settled _ alive, reader, absent]
    simp [counts]
  | changed base handed old s taken presentOld named alive reader unread =>
    have same : base = b := by
      rcases handed with same | ⟨owner, gone, -⟩
      · exact same
      · exact absurd gone (present owner)
    subst same
    refine .kept rfl rfl ?_ ?_
    · simp only [Books.seat, Books.tell, silent, List.nil_append]
      cases asChan
      · exact registrations_unreadChange ..
      · rfl
    · rw [taken, counts_alive _ presentOld, ← reader, counts_settled _ alive]

theorem grant_follows {target : Uid} {mode : String} (ord : Orderly b) (silent : b.reports = [])
    (booked : GrantBooked b target mode b')
    (within : tracked b.cat = false → ∃ s, b.seats target = some s) : Follows b b' := by
  cases booked with
  | kept => exact .unchanged (by rw [silent]; rfl) fun _ => rfl
  | invited s gone alive subscriber unread =>
    have absent := ord.absent gone
    refine .changed true rfl rfl ?_ (by simp [absent, counts]) ?_
    · simp only [Books.seat, Books.tell, Books.file, silent, List.nil_append]
      exact congrArg ((target, true) :: ·) (registrations_unreadChange ..)
    · rw [counts_alive _ alive, subscriber, tracked_of_absent absent within]
      rfl
  | changed old s after taken present alive reader joins unread settled =>
    refine .kept rfl rfl ?_ ?_
    · simp only [Books.seat, Books.tell, silent, List.nil_append]
      exact registrations_unreadChange ..
    · rw [taken, counts_alive _ present, ← reader]
      rcases settled with rfl | rfl
      · exact counts_alive _ alive
      · exact counts_detached _ alive

/-- A seat is given up and the user unregistered, unless it is a reader's. -/
theorem vacated_follows (cat : b'.cat = b.cat) (seats : b'.seats = Function.update b.seats user none)
    (taken : b.seats user = some s) (alive : s.deleted = false) (counted : tracked b.cat)
    (told : registrations b'.reports = registrations (unregistration user (some s))) :
    Follows b b' := by
  have before : counts b.cat (b.seats user) = !s.isChan := by
    rw [taken, counts_alive _ alive, counted]; rfl
  have now : counts b.cat none = false := by simp [counts]
  cases reader : s.isChan with
  | true =>
    refine .kept cat seats ?_ (by simp [now, before, reader])
    rw [told, unregistration, Option.elim_some, reader]
    rfl
  | false =>
    refine .changed false cat seats ?_ (by simp [before, reader]) now
    rw [told, unregistration, Option.elim_some, reader]
    rfl

theorem removal_follows (ord : Orderly b) (silent : b.reports = [])
    (booked : RemovalBooked b user b') (within : tracked b.cat = false → b.seats user = none) :
    Follows b b' := by
  cases booked with
  | kept => exact .unchanged (by rw [silent]; rfl) fun _ => rfl
  | removed s taken =>
    have counted : tracked b.cat := by
      cases tracks : tracked b.cat with
      | true => rfl
      | false =>
        rw [within tracks] at taken
        cases taken
    refine vacated_follows rfl rfl taken (ord.alive user s taken) counted ?_
    simp [Books.seat, Books.tell, Books.file, silent, registrations_append, registrations_unreadLeft]

theorem leave_follows (ord : Orderly b) (silent : b.reports = [])
    (booked : LeaveBooked b uid asChan b') (counted : tracked b.cat) (other : b.cat ≠ .p2p) :
    Follows b b' := by
  cases booked with
  | kept => exact .unchanged (by rw [silent]; rfl) fun _ => rfl
  | left s seated active p2p =>
    have told :
        registrations
        (((b.file (s.name, uid) false).tell ((bif asChan then [] else unreadLeft uid s b.lastID) ++
        unregistration uid (b.seats uid))).reports) =
        registrations (unregistration uid (b.seats uid)) := by
      simp only [Books.tell, Books.file, silent, List.nil_append, registrations_append]
      cases asChan
      · exact congrArg (· ++ _) (registrations_unreadLeft ..)
      · rfl
    cases taken : b.seats uid with
    | none =>
      refine .kept rfl rfl ?_ (by rw [taken])
      rw [taken] at told
      exact told
    | some s' =>
      refine vacated_follows rfl rfl taken (ord.alive uid s' taken) counted ?_
      rw [taken] at told
      exact told
  | leftP2P _ _ _ p2p => exact absurd p2p other

theorem foldl_ensure_seated (cached : ∀ uid ∈ uids, ∃ s, b.seats uid = some s) :
    uids.foldl Books.ensure b = b := by
  induction uids with
  | nil => rfl
  | cons uid rest ih =>
    obtain ⟨s, taken⟩ := cached uid List.mem_cons_self
    rw [List.foldl_cons, Books.ensure_seated taken]
    exact ih fun other mem => cached other (List.mem_cons_of_mem _ mem)

theorem departed_follows {change : Bool} (silent : b.reports = [])
    (departed : Departed uids change asChan b b')
    (cached : change → ∀ uid ∈ uids, ∃ s, b.seats uid = some s)
    (readers : asChan → ∀ uid ∈ uids, counts b.cat (b.seats uid) = false) : Follows b b' := by
  have ensured : (bif change then uids.foldl Books.ensure b else b) = b := by
    cases change with
    | false => rfl
    | true => exact foldl_ensure_seated (cached rfl)
  have frame := departed.frame
  unfold Departed at departed
  rw [ensured] at departed
  have cat : b'.cat = b.cat := by rw [frame]
  refine .unchanged ?_ fun uid => ?_
  · have reports : b'.reports = b.reports := by rw [frame]
    rw [reports, silent]
    rfl
  · rw [cat]
    rcases departed.seats uid with same | ⟨gone, mem, named⟩
    · rw [same]
    · rw [gone, readers named uid mem]
      simp [counts]

end Events

theorem not_ownerMissing {w : World} {asUid : Uid} (cached : OwnerCached w.topic asUid)
    (owner : Uid) :
    ¬ w.OwnerMissing asUid owner := by
  rintro ⟨rfl, gone, pud, found, offered⟩
  have known : w.topic.pud asUid = pud := by simp [Topic.pud, GoMap.getD, found]
  rw [OwnerCached, known] at cached
  exact gone (cached offered)

theorem raised_silent (v : Service) (e : SessionEvent) : e.raised v.silent = e.raised v := by
  cases e <;> rfl

/-- The registrations that a topic sends at an event follow the seats. -/
theorem attend_follows (ord : Orderly v.world.books) (careful : CarefulEvent v e)
    (admitted : e.refused v.world.topic = false) :
    Follows v.silent.world.books (attend cfg fail v.silent e).world.books := by
  have ord : Orderly v.silent.world.books := ⟨⟨ord.sane.readers, ord.sane.channel⟩, ord.alive⟩
  have silent : v.silent.world.books.reports = [] := rfl
  have private_ {uid : Uid} (within : Private v.world.topic uid) :
      tracked v.silent.world.books.cat = false → ∃ s, v.silent.world.books.seats uid = some s :=
    fun untracked => (seated_iff v.silent.world uid).mpr (within untracked)
  obtain ⟨request, departure, raised⟩ := careful
  generalize after : (attend cfg fail v.silent e).world.books = b'
  have booked := after ▸ attend_books cfg fail e ord.sane
  cases booked with
  | kept => exact .unchanged rfl fun _ => rfl
  | subscribed r authed mid joined booked =>
    have follows := self_follows ord silent booked (fun owner => not_ownerMissing request.2 owner)
      (private_ request.1)
    exact follows
  | unsubscribed sess asUid original authed _ booked =>
    refine leave_follows ord silent booked ?_ (request rfl)
    have ordinary : (v.world.topic.cat == .me || v.world.topic.cat == .fnd) = false := admitted
    have counted : tracked v.world.topic.cat := by
      simpa [tracked] using ordinary
    exact counted
  | departed e r leaves _ departed =>
    obtain ⟨cached, readers⟩ := departure r leaves
    refine departed_follows silent departed (fun change uid mem => ?_) fun named uid mem => ?_
    · exact (seated_iff v.silent.world uid).mpr (cached change uid mem)
    · refine (counts_books v.silent.world uid).trans ?_
      have reader : subscriber v.silent.world.topic uid = false := readers named uid mem
      rw [reader, Bool.and_false]
  | setSelf r authed own _ booked =>
    exact self_follows ord silent booked (fun owner => not_ownerMissing request.2 owner)
      (own ▸ private_ request.1)
  | setOther r authed other _ booked => exact grant_follows ord silent booked (private_ request.1)
  | removed sess asUid original user _ booked =>
    refine removal_follows ord silent booked fun untracked => ?_
    have gone := request untracked
    rw [← seated_iff] at gone
    cases taken : v.silent.world.books.seats user with
    | none => rfl
    | some s => exact absurd ⟨s, taken⟩ gone
  | raised e sess raises uid risen =>
    rw [raised_silent] at raises
    have cached := raised uid (by rw [raises]; exact risen)
    obtain ⟨s, taken⟩ := (seated_iff v.silent.world uid).mpr cached
    rw [Books.ensure_seated taken]
    exact .unchanged rfl fun _ => rfl

theorem attend_orderly (ord : Orderly v.world.books) (careful : CarefulEvent v e) :
    Orderly (attend cfg fail v.silent e).world.books := by
  have sane : v.silent.world.books.Sane := ⟨ord.sane.readers, ord.sane.channel⟩
  have booked := attend_books cfg fail e sane
  refine ⟨booked.sane sane, fun uid s taken => ?_⟩
  rcases booked.seats sane taken with before | proper | ⟨-, p2p, sess, original, authed, rfl⟩
  · exact ord.alive uid s before
  · exact proper.1
  · exact absurd p2p (careful.1 rfl)

variable (net : Clustering.FailoverConfig)

theorem requests_registered (reports : List Report) (n : Uid → Nat) :
    (reports.filterMap (Report.request (P := P) net)).foldl UserCacheReq.registered n =
      registerEach n (registrations reports) := by
  induction reports generalizing n with
  | nil => rfl
  | cons report rest ih =>
    cases report with
    | register uid add => exact ih (register add n uid)
    | unread uid val =>
      by_cases zero : val = 0
      · simpa [Report.request, usersUpdateUnread, zero, registrations] using ih n
      · simpa [Report.request, usersUpdateUnread, zero, sendOne, isRemote, registrations,
          UserCacheReq.registered]
          using ih n

theorem requests_kept (reports : List Report) (upd : UserCacheReq Recipient P)
    (sent : upd ∈ reports.filterMap (Report.request net)) : upd.gone = false := by
  obtain ⟨report, -, asked⟩ := List.mem_filterMap.mp sent
  cases report with
  | register uid add =>
    cases asked
    rfl
  | unread uid val =>
    by_cases zero : val = 0
    · simp [Report.request, usersUpdateUnread, zero] at asked
    · simp [Report.request, usersUpdateUnread, zero, sendOne, isRemote] at asked
      rw [← asked]

theorem foldl_register (add : Bool) {users : List Uid} (nodup : users.Nodup) (n : Uid → Nat)
    (uid : Uid) :
    users.foldl (register add) n uid =
      if uid ∈ users then bif add then n uid + 1 else n uid - 1 else n uid := by
  induction users generalizing n with
  | nil => rfl
  | cons first rest ih =>
    obtain ⟨fresh, nodup⟩ := List.nodup_cons.mp nodup
    rw [List.foldl_cons, ih nodup]
    by_cases same : uid = first
    · subst same
      simp [fresh, register]
    · simp [same, register]

/-- The users whom `usersRegisterTopic` counts. -/
def registeredUsers (t : Topic) : List Uid :=
  (t.perUser.entries.filter fun entry => !entry.2.isChan).map (·.1)

theorem registeredUsers_nodup (t : Topic) : (registeredUsers t).Nodup :=
  t.perUser.nodupKeys.sublist List.filter_sublist

theorem mem_registeredUsers (alive : ∀ uid pud, t.perUser.lookup uid = some pud → pud.deleted = false)
    (uid : Uid) : uid ∈ registeredUsers t ↔ subscriber t uid := by
  unfold registeredUsers subscriber
  constructor
  · intro mem
    obtain ⟨⟨uid, pud⟩, chosen, rfl⟩ := List.mem_map.mp mem
    obtain ⟨stored, subscribes⟩ := List.mem_filter.mp chosen
    have cached := (GoMap.mem_entries_iff t.perUser uid pud).mp stored
    simpa [cached, alive uid pud cached] using subscribes
  · intro subscribes
    cases cached : t.perUser.lookup uid with
    | none =>
      rw [cached] at subscribes
      cases subscribes
    | some pud =>
      rw [cached] at subscribes
      have subscribes : pud.isChan = false := by simpa [alive uid pud cached] using subscribes
      refine List.mem_map.mpr ⟨⟨uid, pud⟩, List.mem_filter.mpr ⟨?_, by simp [subscribes]⟩, rfl⟩
      exact (GoMap.mem_entries_iff t.perUser uid pud).mpr cached

/-- What loading and unloading do to the number of registrations. -/
theorem topicRequests_registered (add : Bool)
    (alive : ∀ uid pud, t.perUser.lookup uid = some pud → pud.deleted = false) (n : Uid → Nat)
    (uid : Uid) :
    (topicRequests (P := P) net t add).foldl UserCacheReq.registered n uid =
      if tracked t.cat && subscriber t uid then bif add then n uid + 1 else n uid - 1 else n uid := by
  have everybody :
      (registeredUsers t).filter (fun uid => !isRemote net none uid) = registeredUsers t := by
    simp [isRemote]
  have folded := foldl_register add (registeredUsers_nodup t) n uid
  rw [if_congr (mem_registeredUsers alive uid) rfl rfl] at folded
  unfold topicRequests usersRegisterTopic
  split
  · next untracked =>
    have untracked : tracked t.cat = false := by
      rcases untracked with cat | cat <;> simp [tracked, cat]
    simp [untracked]
  next others =>
  have counted : tracked t.cat := by
    simpa [tracked, and_comm] using others
  rw [counted, Bool.true_and, ← folded]
  simp only [show (t.perUser.entries.filter fun entry => !entry.2.isChan).map (·.1) =
    registeredUsers t from rfl, everybody]
  split
  · next empty => simp [empty]
  · simp [UserCacheReq.registered]

theorem topicRequests_kept (t : Topic) (add : Bool) (upd : UserCacheReq Recipient P)
    (sent : upd ∈ topicRequests net t add) : upd.gone = false := by
  unfold topicRequests usersRegisterTopic at sent
  dsimp only at sent
  split at sent
  · simp at sent
  · split at sent
    · simp at sent
    · simp at sent
      rw [sent]

/-- How often users are registered once the queue is processed is how often they should be. -/
structure Kept (s : Node P) : Prop where
  topics : ∀ name v, s.topics.lookup name = some v → Orderly v.world.books
  plain : ∀ upd ∈ s.queue, upd.gone = false
  counted : ∃ n, s.updater.references = referencesOf n ∧ s.queue.foldl UserCacheReq.registered n =
    memberships s

variable {s : Node P}

theorem Kept.balanced (kept : Kept s) : Balanced s := by
  intro empty uid
  obtain ⟨n, references, processed⟩ := kept.counted
  rw [empty, List.foldl_nil] at processed
  subst processed
  have own := congrFun references uid
  unfold Updater.references referencesOf at own
  cases found : s.updater.usersCache.lookup uid with
  | none =>
    have absent : uid ∉ s.updater.usersCache := AList.lookup_eq_none.mp found
    have zero : memberships s uid = 0 := by
      by_contra pos
      simp [found, pos] at own
    simp [absent, zero]
  | some entry =>
    have present : uid ∈ s.updater.usersCache := AList.lookup_isSome.mp (by rw [found]; rfl)
    have pos : memberships s uid ≠ 0 := by
      intro zero
      simp [found, zero] at own
    have topics : entry.topics = memberships s uid := by simpa [found, pos] using own
    refine ⟨⟨fun _ => Nat.pos_of_ne_zero pos, fun _ => present⟩, fun entry' found' => ?_⟩
    cases found'
    exact topics

/-- The queue grows by requests that make up for what has changed. -/
theorem Kept.sends {s s' : Node P} {sent : List (UserCacheReq Recipient P)} (kept : Kept s)
    (topics : ∀ name v, s'.topics.lookup name = some v → Orderly v.world.books)
    (queue : s'.queue = s.queue ++ sent)
    (updater : s'.updater = s.updater) (plain : ∀ upd ∈ sent, upd.gone = false)
    (processed : sent.foldl UserCacheReq.registered (memberships s) = memberships s') : Kept s' where
  topics := topics
  plain upd mem := by
    rw [queue] at mem
    rcases List.mem_append.mp mem with old | new
    · exact kept.plain upd old
    · exact plain upd new
  counted := by
    obtain ⟨n, references, earlier⟩ := kept.counted
    refine ⟨n, by rw [updater, references], ?_⟩
    rw [queue, List.foldl_append, earlier, processed]

/-- What a loaded topic adds to the memberships of a user. -/
def member (uid : Uid) (_ : String) (v : Service) : Nat :=
  (tracked v.world.topic.cat && subscriber v.world.topic uid).toNat

theorem memberships_eq (s : Node P) (uid : Uid) : memberships s uid = s.topics.tally (member uid) :=
  rfl

theorem Kept.load (kept : Kept s) (net : Clustering.FailoverConfig) (t : LoadedTopic)
    (fresh : name ∉ s.topics) :
    Kept { s with
      topics := s.topics.insert name { world := t.world }
      queue := s.queue ++ topicRequests net t.world.topic true } := by
  refine kept.sends (fun other v found => ?_) rfl rfl (topicRequests_kept net _ _) ?_
  · rcases GoMap.lookup_insert_eq_some.mp found with ⟨rfl, rfl⟩ | ⟨-, found⟩
    · refine ⟨⟨fun uid s taken reader => ?_, t.channel⟩, fun uid s taken => ?_⟩
      · obtain ⟨pud, cached, rfl⟩ := Option.map_eq_some_iff.mp taken
        have reader : pud.isChan := reader
        rw [(t.subscribers uid pud cached).1] at reader
        cases reader
      · obtain ⟨pud, cached, rfl⟩ := Option.map_eq_some_iff.mp taken
        exact (t.subscribers uid pud cached).2
    · exact kept.topics other v found
  · funext uid
    rw [topicRequests_registered net true (fun uid pud cached => (t.subscribers uid pud cached).2)]
    have added := GoMap.tally_insert (member uid) s.topics name { world := t.world }
    rw [GoMap.share, AList.lookup_eq_none.mpr fresh, Option.elim_none, member] at added
    rw [memberships_eq, memberships_eq]
    rw [← Nat.add_zero (GoMap.tally _ (s.topics.insert name _)), added]
    cases tracked t.world.topic.cat && subscriber t.world.topic uid <;> rfl

theorem Kept.unload (kept : Kept s) (net : Clustering.FailoverConfig)
    (loaded : s.topics.lookup name = some v) :
    Kept { s with
      topics := s.topics.erase name
      queue := s.queue ++ topicRequests net v.world.topic false } := by
  refine kept.sends (fun other v found => ?_) rfl rfl (topicRequests_kept net _ _) ?_
  · exact kept.topics other v (GoMap.lookup_erase_eq_some.mp found).2
  · funext uid
    have alive : ∀ uid pud, v.world.topic.perUser.lookup uid = some pud → pud.deleted = false := by
      intro uid pud cached
      exact (kept.topics name v loaded).alive uid pud.seat (by simp [World.books, cached])
    rw [topicRequests_registered net false alive]
    have removed := GoMap.tally_erase (member uid) s.topics name
    rw [GoMap.share, loaded, Option.elim_some, member] at removed
    rw [memberships_eq, memberships_eq]
    rw [← removed]
    cases tracked v.world.topic.cat && subscriber v.world.topic uid <;> rfl

theorem Kept.attend (kept : Kept s) (cfg : Config) (net : Clustering.FailoverConfig)
    (fail : Faults) (loaded : s.topics.lookup name = some v) (careful : CarefulEvent v e)
    (admitted : e.refused v.world.topic = false) :
    Kept { s with
      topics := s.topics.insert name (Source.attend cfg fail v.silent e)
      queue := s.queue ++ (Source.attend cfg fail v.silent e).world.books.reports.filterMap
        (Report.request net) } := by
  have ord := kept.topics name v loaded
  refine kept.sends (fun other v found => ?_) rfl rfl (requests_kept net _) ?_
  · rcases GoMap.lookup_insert_eq_some.mp found with ⟨rfl, rfl⟩ | ⟨-, found⟩
    · exact attend_orderly ord careful
    · exact kept.topics other v found
  · rw [requests_registered]
    have share (uid : Uid) : s.topics.share (member uid) name =
        (counts v.silent.world.books.cat (v.silent.world.books.seats uid)).toNat := by
      rw [GoMap.share, loaded, Option.elim_some]
      exact congrArg Bool.toNat (counts_books v.silent.world uid).symm
    have enough (uid : Uid) :
        (counts v.silent.world.books.cat (v.silent.world.books.seats uid)).toNat ≤
        memberships s uid := by
      have removed := GoMap.tally_erase (member uid) s.topics name
      rw [share] at removed
      rw [memberships_eq]
      omega
    funext uid
    have follows : Follows v.silent.world.books (Source.attend cfg fail v.silent e).world.books :=
      attend_follows ord careful admitted
    have follows := follows (memberships s) enough uid
    have added := GoMap.tally_insert (member uid) s.topics name (Source.attend cfg fail v.silent e)
    rw [share, member, ← counts_books] at added
    rw [memberships_eq] at follows ⊢
    dsimp only at follows ⊢
    omega

theorem nodeStep_kept (cfg : Config) (net : Clustering.FailoverConfig) (heap : Heap Nat)
    (s : Node P) (e : NodeEvent P)
    (kept : Kept s) (careful : Careful s e) : Kept (nodeStep cfg net heap s e) := by
  cases e with
  | load name t =>
    simp only [nodeStep]
    split
    · exact kept
    · next fresh => exact kept.load net t fresh
  | unload name =>
    simp only [nodeStep]
    split
    · exact kept
    · next v loaded => exact kept.unload net loaded
  | attend name fail e =>
    simp only [nodeStep]
    split
    · exact kept
    next v loaded =>
    split
    · exact kept
    · next admitted =>
      exact kept.attend cfg net fail loaded (careful v loaded) (Bool.not_eq_true _ ▸ admitted)
  | request upd others gone =>
    refine kept.sends kept.topics rfl rfl (by simpa using gone) ?_
    have same : upd.registered (memberships s) = memberships s := by
      unfold UserCacheReq.registered
      split
      · rfl
      · rw [others]
        rfl
    exact same
  | update =>
    simp only [nodeStep]
    split
    · exact kept
    next upd rest queue =>
    obtain ⟨n, references, processed⟩ := kept.counted
    rw [queue, List.foldl_cons] at processed
    have plain : ∀ other ∈ upd :: rest, other.gone = false := queue ▸ kept.plain
    exact
      { topics := kept.topics
        plain := fun other mem => plain other (List.mem_cons_of_mem _ mem)
        counted :=
          ⟨_, handleUpdate_references upd (plain upd List.mem_cons_self) references, processed⟩ }
  | answer i res => exact { kept with }
  | ioDone i =>
    simp only [nodeStep]
    split
    · exact kept
    · obtain ⟨n, references, processed⟩ := kept.counted
      exact ⟨kept.topics, kept.plain, n, (handleIoDone_references _ _).trans references, processed⟩

/-- After every run of careful events on a node, once all requests are processed, the cache has each
user exactly when subscribed to a loaded topic, with the number of these topics. -/
theorem references_always (cfg : Config) (net : Clustering.FailoverConfig) (heap : Heap Nat)
    {events : List (NodeEvent P)}
    (careful : Guarded (nodeStep cfg net heap) Careful {} events) :
    Balanced (run (nodeStep cfg net heap) {} events) := by
  have start : Kept ({} : Node P) := by
    refine ⟨fun name v found => ?_, nofun, fun _ => 0, ?_, ?_⟩
    · rw [AList.lookup_empty] at found
      cases found
    · funext uid
      rfl
    · funext uid
      rfl
  exact (run_invariant (nodeStep_kept cfg net heap) start careful).balanced

def single : Clustering.FailoverConfig where
  hashing := { hashfunc := fun _ => 0, digest := fun _ => "" }
  voteTimeout := 1
  nodeFailCountLimit := 1

def device (sid : String) (uid : Uid) : Session := { sid := sid, proto := .websock, uid := uid }

def talks (other : String) : PerUserData :=
  { modeWant := AccessMode.modeCP2P, modeGiven := AccessMode.modeCP2P, topicName := other }

/-- Users 1 and 2 talk to each other. -/
def dialogue : World :=
  { topic :=
      { cat := .p2p
        xoriginal := "p2pA"
        perUser := ((∅ : GoMap Uid PerUserData).insert 1 (talks "usr2")).insert 2 (talks "usr1") }
    store :=
      (({} : Store).createSub .topic 1 AccessMode.modeCP2P AccessMode.modeCP2P none).createSub
      .topic 2 AccessMode.modeCP2P AccessMode.modeCP2P none }

theorem dialogue_subscribers (uid : Uid) (pud : PerUserData)
    (cached : dialogue.topic.perUser.lookup uid = some pud) :
    pud.isChan = false ∧ pud.deleted = false := by
  rcases GoMap.lookup_insert_eq_some.mp cached with ⟨-, rfl⟩ | ⟨-, cached⟩
  · exact ⟨rfl, rfl⟩
  rcases GoMap.lookup_insert_eq_some.mp cached with ⟨-, rfl⟩ | ⟨-, cached⟩
  · exact ⟨rfl, rfl⟩
  cases cached

def loadedDialogue : LoadedTopic where
  world := dialogue
  subscribers := dialogue_subscribers
  channel := nofun

theorem authenticated : (2 : Uid) ≠ 0 := by decide

def joins (sid : String) : NodeEvent Unit :=
  .attend "p2pA" (fun _ => false)
    (.subscribe { sess := device sid 2, asUid := 2, asLvl := .auth } authenticated)

def unsubscribes (sid : String) : NodeEvent Unit :=
  .attend "p2pA" (fun _ => false) (.leave (device sid 2) 2 .topic true authenticated)

/-- User 2 joins, unsubscribes and subscribes again from another session. -/
def comesBack : List (NodeEvent Unit) :=
  [.load "p2pA" loadedDialogue, joins "s1", unsubscribes "s1", joins "s2", .update, .update]

/-- The topic is loaded once and user 2 is counted twice. -/
theorem unsubscription_leaks_reference :
    let s := run (nodeStep {} single (Heap.sorted Nat)) {} comesBack
    s.queue.length = 0 ∧ memberships s 2 = 1 ∧ s.updater.references 2 = some 2 := by
  refine ⟨?_, ?_, ?_⟩ <;> decide +kernel

/-- User 2 joins and the session is lost, then the topic is unloaded. -/
def visits : List (NodeEvent Unit) :=
  [.load "p2pA" loadedDialogue, joins "s1", .update,
    .attend "p2pA" (fun _ => false) (.lost (device "s1" 2).toSessionKey), .unload "p2pA", .update]

theorem visits_balanced :
    Guarded (nodeStep {} single (Heap.sorted Nat)) Careful {} visits ∧
      Balanced (run (nodeStep {} single (Heap.sorted Nat)) {} visits) := by
  have careful : Guarded (nodeStep {} single (Heap.sorted Nat)) Careful {} visits := by decide +kernel
  exact ⟨careful, references_always {} single (Heap.sorted Nat) careful⟩

end LastochkaServer.Guarantees.CacheReferences
