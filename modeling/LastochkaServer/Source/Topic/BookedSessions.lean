import LastochkaServer.Source.Topic.BookKeeping
import LastochkaServer.Source.Topic.SessionOutcomes

/-!
# What the events of sessions do to the books of a topic

`Booked` says for every event of `attend` what the books can be afterwards. An event about attached
sessions may give a seat to somebody who has none: the source changes the online counter of a user
without asking whether the user is cached (`server/topic.go:785-796, 884-886, 1454-1456`).
-/

namespace LastochkaServer.Source

open Lib AccessMode

namespace Books

variable {s : Seat} {uid : Uid} {b : Books}

/-- The user has a seat, a new one if there was none. -/
def ensure (b : Books) (uid : Uid) : Books := b.seat uid (some ((b.seats uid).getD {}))

theorem ensure_seated (taken : b.seats uid = some s) : b.ensure uid = b := by
  rw [ensure, taken, Option.getD_some, ← taken, seat_self]

/-- What is true of the seats of every topic. A reader who does not want to join has no seat, and
only group topics are channels. -/
structure Sane (b : Books) : Prop where
  readers : ∀ uid s, b.seats uid = some s → s.isChan → s.joins
  channel : b.isChan → b.cat = .grp

end Books

theorem addOnline_books (w : World) (uid : Uid) (change : Int) :
    (w.setTopic (w.topic.addOnline uid change)).books = w.books.ensure uid := by
  refine (books_setPud w uid _).trans ?_
  change w.books.seat uid (some (w.topic.pud uid).seat) = _
  rw [pud_seat]
  rfl

/-- How many subscribers a session that is attached adds. -/
def Topic.gained (t : Topic) (newsub : Bool) : Int := if t.cat = .grp ∧ newsub then 1 else 0

variable {r : SubRequest} {s s' : Seat} {cfg : Config} {u : Uid}

theorem attachSession_books {w : World} (newsub : Bool)
    (taken : w.books.seats r.asUid = some s) :
    (w.setTopic (attachSession w.topic r newsub)).books = w.books.count (w.topic.gained newsub) := by
  rw [attachSession_eq]
  cases r.sess.background with
  | true => rfl
  | false =>
    have online := addOnline_books w r.asUid 1
    rw [Books.ensure_seated taken] at online
    exact congrArg (Books.count · (w.topic.gained newsub)) online

theorem isNewsub_absent {t : Topic} (group : t.cat = .grp)
    (absent : ∀ pud, t.perUser.lookup r.asUid = some pud → pud.deleted) : isNewsub t r := by
  cases cached : t.perUser.lookup r.asUid with
  | none => simp [isNewsub, group, cached]
  | some pud => simp [isNewsub, group, cached, absent pud cached]

/-- The user is not subscribed under the name of the request, and asks to join. -/
structure Newcomer (cfg : Config) (w : World) (r : SubRequest) : Prop where
  absent : ∀ pud, w.topic.perUser.lookup r.asUid = some pud → pud.deleted
  unfiled : w.store.active (r.tname, r.asUid) = false
  asks : r.asChan = false → asksToJoin cfg w.topic r

section

variable {fail : Faults} {w w' : World} (sane : w.books.Sane) (named : r.asChan → w.topic.isChan)
include sane named

theorem thisUserSub_seated {modeChanged : Option MsgAccessMode}
    (ran : thisUserSub cfg fail w { r with newsub := isNewsub w.topic r } = .ok (w', .ok modeChanged))
    (joins : hasJoined modeChanged) : ∃ s, w'.books.seats r.asUid = some s := by
  have group : r.asChan → w.topic.cat = .grp := fun channel => sane.channel (named channel)
  obtain ⟨-, sits⟩ := thisUserSub_books (r := { r with newsub := isNewsub w.topic r }) group ran
  refine sits modeChanged rfl joins (fun s => sane.readers r.asUid s) fun channel absent => ?_
  refine isNewsub_absent (group channel) fun pud cached => ?_
  exact absent pud.seat (by simp [World.books, cached])

theorem subscriptionReply_books {outcome : Except String Bool}
    (ran : subscriptionReply cfg fail w r = .ok (w', outcome)) :
    ∃ mid, SelfBooked w.books r.asUid r.asChan r.want (w.OwnerMissing r.asUid) mid ∧
      w'.books = mid.count (bif hasAttached outcome then w.topic.gained (isNewsub w.topic r) else 0) ∧
      (hasAttached outcome → ∃ s, mid.seats r.asUid = some s) ∧
      (hasAttached outcome = false → w.topic.cat = .grp → Newcomer cfg w r → mid = w.books) := by
  obtain ⟨⟨stored, res⟩, subscribed, ran⟩ := bind_ok ran
  obtain ⟨booked, -⟩ := thisUserSub_books (r := { r with newsub := isNewsub w.topic r })
    (fun channel => sane.channel (named channel)) subscribed
  refine ⟨stored.books, booked, ?_, ?_, ?_⟩
  · cases res with
    | error text =>
      cases ran
      simp [Books.count]
    | ok modeChanged =>
      obtain ⟨original, -, ran⟩ := bind_ok ran
      cases ran
      rw [books_emit]
      refine (Books.tell_nil _).trans ?_
      cases joins : hasJoined modeChanged with
      | false => simp [Books.count]
      | true =>
        obtain ⟨s, taken⟩ := thisUserSub_seated sane named subscribed joins
        have cat : stored.topic.cat = w.topic.cat := booked.frame.1
        have attached := attachSession_books (r := r) (isNewsub w.topic r) taken
        simp only [if_true, hasAttached, cond_true]
        rw [attached, Topic.gained, cat]
        rfl
  · intro joins
    cases res with
    | error text =>
      cases ran
      cases joins
    | ok modeChanged =>
      obtain ⟨original, -, ran⟩ := bind_ok ran
      cases ran
      exact thisUserSub_seated sane named subscribed joins
  · intro outside cat new
    rcases thisUserSub_joins (r := { r with newsub := isNewsub w.topic r }) cat new.absent
      new.unfiled new.asks
      subscribed with same | ⟨modeChanged, rfl, joins⟩
    · exact same
    · obtain ⟨original, -, ran⟩ := bind_ok ran
      cases ran
      rw [joins] at outside
      cases outside

end

/-- From `b` to `b'` some of the users have given up their seats. -/
structure Vacated (uids : List Uid) (asChan : Bool) (b b' : Books) : Prop where
  frame : b' = { b with seats := b'.seats }
  seats : ∀ uid, b'.seats uid = b.seats uid ∨ b'.seats uid = none ∧ uid ∈ uids ∧ asChan

theorem Vacated.refl (uids : List Uid) (asChan : Bool) (b : Books) : Vacated uids asChan b b :=
  ⟨rfl, fun _ => .inl rfl⟩

theorem Vacated.trans {b₁ b₂ b₃ : Books} (first : Vacated uids asChan b₁ b₂)
    (second : Vacated uids asChan b₂ b₃) : Vacated uids asChan b₁ b₃ where
  frame := by rw [second.frame, first.frame]
  seats uid := by
    rcases second.seats uid with same | gone
    · rw [same]
      exact first.seats uid
    · exact .inr gone

theorem forgetReader_books (w : World) (asChan : Bool) (mem : uid ∈ uids) :
    Vacated uids asChan w.books (w.setTopic (forgetReader asChan w.topic uid)).books := by
  unfold forgetReader
  split
  · next empty =>
    have erased := books_erase w uid
    refine ⟨erased ▸ rfl, fun other => ?_⟩
    have seats : (w.setTopic { w.topic with perUser := w.topic.perUser.erase uid }).books.seats =
        Function.update w.books.seats uid none := congrArg Books.seats erased
    rw [seats]
    by_cases same : other = uid
    · subst same
      simp [mem, empty.2.2]
    · simp [same]
  · exact .refl ..

theorem foldl_forgetReader_books (w : World) (asChan : Bool) (uids leaving : List Uid)
    (among : leaving ⊆ uids) :
    Vacated uids asChan w.books (w.setTopic (leaving.foldl (forgetReader asChan) w.topic)).books := by
  induction leaving generalizing w with
  | nil => exact .refl ..
  | cons uid rest ih =>
    have first := forgetReader_books w asChan (among List.mem_cons_self)
    exact first.trans (ih (w.setTopic (forgetReader asChan w.topic uid)) fun _ mem =>
      among (List.mem_cons_of_mem _ mem))

theorem foldl_addOnline_books (w : World) (uids : List Uid) (change : Int) :
    (w.setTopic (uids.foldl (fun t uid => t.addOnline uid change) w.topic)).books =
    uids.foldl Books.ensure w.books := by
  induction uids generalizing w with
  | nil => rfl
  | cons uid rest ih =>
    rw [List.foldl_cons, List.foldl_cons, ← addOnline_books w uid change]
    exact ih (w.setTopic (w.topic.addOnline uid change))

/-- The books after `uids` have left: those who are counted have a seat, and readers may lose
theirs. -/
def Departed (uids : List Uid) (counted asChan : Bool) (b b' : Books) : Prop :=
  Vacated uids asChan (bif counted then uids.foldl Books.ensure b else b) b'

theorem Departed.frame {counted : Bool} (departed : Departed uids counted asChan b b') :
    b' = { b with seats := b'.seats } := by
  have ensured (uids : List Uid) (b : Books) :
      uids.foldl Books.ensure b = { b with seats := (uids.foldl Books.ensure b).seats } := by
    induction uids generalizing b with
    | nil => rfl
    | cons uid rest ih => exact ih (b.ensure uid)
  rw [Vacated.frame departed]
  cases counted with
  | false => rfl
  | true =>
    rw [cond_true, ensured]

theorem leaving_departed (w : World) (uids : List Uid) (counted asChan : Bool) :
    Departed uids counted asChan w.books
      (w.setTopic (w.topic.leaving uids counted asChan)).books := by
  unfold Departed Topic.leaving
  cases counted with
  | false => exact foldl_forgetReader_books w asChan uids uids (List.Subset.refl _)
  | true =>
    rw [cond_true, cond_true, ← foldl_addOnline_books w uids (-1)]
    exact foldl_forgetReader_books (w.setTopic _) asChan uids uids (List.Subset.refl _)

/-- The books after an event. -/
inductive Booked (cfg : Config) (v : Service) : SessionEvent → Books → Prop
  | kept (e : SessionEvent) : Booked cfg v e v.world.books
  | subscribed (r : SubRequest) (authenticated : r.asUid ≠ 0) (mid : Books) (joined : Bool)
      (booked : SelfBooked v.world.books r.asUid r.asChan r.want (v.world.OwnerMissing r.asUid) mid)
      (sits : joined → ∃ s, mid.seats r.asUid = some s)
      (outside : joined = false → v.world.topic.cat = .grp → Newcomer cfg v.world r →
        mid = v.world.books)
      (group : r.asChan → v.world.topic.cat = .grp) :
      Booked cfg v (.subscribe r authenticated)
        (mid.count (bif joined then v.world.topic.gained (isNewsub v.world.topic r) else 0))
  | unsubscribed (sess : Session) (asUid : Uid) (original : Addressing) (authenticated : asUid ≠ 0)
      (after : Books)
      (booked : LeaveBooked v.world.books asUid (original == .channel && v.world.topic.isChan)
        after) :
      Booked cfg v (.leave sess asUid original true authenticated) after
  | departed (e : SessionEvent) (r : LeaveRequest) (leaves : e.departure v = some r) (after : Books)
      (departed : Departed (r.leavers v.world.topic).1 (r.leavers v.world.topic).2
        (r.asChan v.world.topic) v.world.books after) : Booked cfg v e after
  | setSelf (r : SetSubRequest) (authenticated : r.asUid ≠ 0) (own : r.target = r.asUid)
      (after : Books)
      (booked : SelfBooked v.world.books r.asUid r.asChan r.mode (v.world.OwnerMissing r.asUid) after)
      (group : r.asChan → v.world.topic.cat = .grp) :
      Booked cfg v (.setSub r authenticated) after
  | setOther (r : SetSubRequest) (authenticated : r.asUid ≠ 0) (other : r.target ≠ r.asUid)
      (after : Books)
      (booked : GrantBooked v.world.books r.target r.mode after) :
    Booked cfg v (.setSub r authenticated) after
  | removed (sess : Session) (asUid : Uid) (original : Addressing) (user : Uid) (after : Books)
      (booked : RemovalBooked v.world.books user after) :
    Booked cfg v (.delSub sess asUid original user) after
  | raised (e : SessionEvent) (sess : Session) (raises : e.raised v = some sess) (uid : Uid)
      (risen : v.world.topic.risen sess = some uid) : Booked cfg v e (v.world.books.ensure uid)

theorem Replied.books {w w' : World} (replies : Replied w w') : w'.books = w.books := by
  induction replies with
  | silent => rfl
  | replied _ _ _ ih => exact (books_emit _ _).trans ((Books.tell_nil _).trans ih)

theorem attend_books (cfg : Config) (fail : Faults) (e : SessionEvent) (sane : v.world.books.Sane) :
    Booked cfg v e (attend cfg fail v e).world.books := by
  have happened := attend_happened cfg fail v e
  generalize (attend cfg fail v e).world = w at happened
  cases happened with
  | kept _ replies =>
    rw [replies.books]
    exact .kept _
  | subscribed r authed named replied =>
    obtain ⟨mid, booked, view, sits, outside⟩ :=
      subscriptionReply_books (r := { r with sess := v.own r.sess }) sane named replied
    rw [view]
    exact .subscribed r authed mid _ booked sits
      (fun left group new => outside left group { new with })
      fun channel => sane.channel (named channel)
  | setSelf r authed named own done replies =>
    have group : r.asChan → v.world.topic.cat = .grp := fun channel => sane.channel (named channel)
    rw [replies.books]
    exact .setSelf r authed own _ (thisUserSub_books (r := r.toSub) group done).1 group
  | setOther r authed other _ done replies =>
    rw [replies.books]
    exact .setOther r authed other _ (anotherUserSub_books (r := r.toGrant) done)
  | removed sess asUid original user replied =>
    exact .removed sess asUid original user _ (replyDelSub_books replied)
  | unsubscribed sess asUid original authed replies replied =>
    have view := (replyLeaveUnsub_books replied).1
    rw [replies.books, replies.frame.1] at view
    exact .unsubscribed sess asUid original authed _ view
  | departed e r leaves cleared =>
    obtain ⟨w₀, sessions, replies, rfl⟩ := cleared
    refine .departed e r leaves _ ?_
    rw [← replies.books]
    exact leaving_departed (w₀.setTopic { w₀.topic with sessions := sessions }) _ _ _
  | raised e sess raises =>
    rw [sessToForeground_eq]
    cases risen : v.world.topic.risen sess with
    | none => exact .kept _
    | some uid =>
      rw [Option.elim_some, addOnline_books]
      exact .raised e sess raises uid risen

/-- What is true of a seat that is taken or changed. -/
def Seat.Proper (s : Seat) : Prop := s.deleted = false ∧ (s.isChan → s.joins)

theorem Seat.proper_default : ({} : Seat).Proper := ⟨rfl, nofun⟩

theorem detached_eq_some (kept : s.detached = some s') : s' = s ∧ s.isChan = false := by
  unfold Seat.detached at kept
  split at kept
  · cases kept
  · next subscriber =>
    cases kept
    exact ⟨rfl, Bool.not_eq_true _ ▸ subscriber⟩

theorem settled_eq_some (kept : s.settled = some s') : s' = s ∧ (s.isChan → s.joins) := by
  unfold Seat.settled at kept
  cases joins : s.joins with
  | true =>
    rw [joins] at kept
    cases kept
    exact ⟨rfl, fun _ => rfl⟩
  | false =>
    rw [joins] at kept
    obtain ⟨same, subscriber⟩ := detached_eq_some kept
    refine ⟨same, fun reader => ?_⟩
    rw [subscriber] at reader
    cases reader

theorem seats_of_seat {b : Books} {uid : Uid} {after : Option Seat}
    (taken : (b.seat uid after).seats u = some s) :
    b.seats u = some s ∨ u = uid ∧ after = some s := by
  by_cases same : u = uid
  · subst same
    exact .inr ⟨rfl, by simpa [Books.seat] using taken⟩
  · exact .inl (by simpa [Books.seat, same] using taken)

section Seats

variable {b b' : Books}

theorem SelfBooked.seats {uid : Uid} {asChan : Bool} {want : String} {missing : Uid → Prop}
    (booked : SelfBooked b uid asChan want missing b')
    (taken : b'.seats u = some s) : b.seats u = some s ∨ s.Proper := by
  have settled {s₁ : Seat} (alive : s₁.deleted = false) (kept : s₁.settled = some s) : s.Proper := by
    obtain ⟨rfl, joins⟩ := settled_eq_some kept
    exact ⟨alive, joins⟩
  cases booked with
  | kept => exact .inl taken
  | subscribed s₁ absent named alive
  | attached s₁ absent named alive =>
    rcases seats_of_seat taken with old | ⟨-, kept⟩
    · exact .inl old
    · exact .inr (settled alive kept)
  | changed base handed old s₁ _ present named alive =>
    rcases seats_of_seat taken with before | ⟨-, kept⟩
    · rcases handed with rfl | ⟨owner, -, rfl⟩
      · exact .inl before
      · rcases seats_of_seat before with before | ⟨-, phantom⟩
        · exact .inl before
        · cases phantom
          exact .inr Seat.proper_default
    · exact .inr (settled alive kept)

theorem GrantBooked.seats {target : Uid} {mode : String} (sane : b.Sane)
    (booked : GrantBooked b target mode b')
    (taken : b'.seats u = some s) : b.seats u = some s ∨ s.Proper := by
  cases booked with
  | kept => exact .inl taken
  | invited s₁ absent alive reader =>
    rcases seats_of_seat taken with old | ⟨-, kept⟩
    · exact .inl old
    · cases kept
      exact .inr ⟨alive, fun channel => by rw [reader] at channel; cases channel⟩
  | changed old s₁ after before present alive reader joins _ settled =>
    rcases seats_of_seat taken with old | ⟨-, kept⟩
    · exact .inl old
    · have same : s = s₁ := by
        rcases settled with rfl | rfl
        · cases kept
          rfl
        · exact (detached_eq_some kept).1
      subst same
      refine .inr ⟨alive, fun channel => ?_⟩
      rw [joins]
      exact sane.readers target old before (reader ▸ channel)

theorem foldl_ensure_seats (uids : List Uid) (taken : (uids.foldl Books.ensure b).seats u = some s) :
    b.seats u = some s ∨ s = {} := by
  induction uids generalizing b with
  | nil => exact .inl taken
  | cons uid rest ih =>
    rcases ih taken with before | empty
    · rcases seats_of_seat before with before | ⟨rfl, kept⟩
      · exact .inl before
      · cases old : b.seats u with
        | none =>
          rw [old] at kept
          cases kept
          exact .inr rfl
        | some s' =>
          rw [old] at kept
          exact .inl kept
    · exact .inr empty

theorem Departed.seats {counted : Bool} (departed : Departed uids counted asChan b b')
    (taken : b'.seats u = some s) : b.seats u = some s ∨ s.Proper := by
  rcases Vacated.seats departed u with same | ⟨gone, -⟩
  · rw [same] at taken
    cases counted with
    | false => exact .inl taken
    | true =>
      rcases foldl_ensure_seats uids taken with before | rfl
      · exact .inl before
      · exact .inr Seat.proper_default
  · rw [gone] at taken
    cases taken

theorem RemovalBooked.seats {user : Uid} (booked : RemovalBooked b user b')
    (taken : b'.seats u = some s) :
    b.seats u = some s := by
  cases booked with
  | kept => exact taken
  | removed =>
    rcases seats_of_seat taken with before | ⟨-, kept⟩
    · exact before
    · cases kept

end Seats

/-- A seat after an event is an old one or a proper one, except that a user who unsubscribes from a
P2P topic keeps a deleted seat. -/
theorem Booked.seats {v : Service} {e : SessionEvent} {b' : Books}
    (sane : v.world.books.Sane) (booked : Booked cfg v e b') (taken : b'.seats u = some s) :
    v.world.books.seats u = some s ∨ s.Proper ∨
      (s.isChan → s.joins) ∧ v.world.topic.cat = .p2p ∧
        ∃ sess original authed, e = .leave sess u original true authed := by
  have once (proper : v.world.books.seats u = some s ∨ s.Proper) : v.world.books.seats u = some s ∨
      s.Proper ∨
      (s.isChan → s.joins) ∧ v.world.topic.cat = .p2p ∧
        ∃ sess original authed, e = .leave sess u original true authed := proper.imp_right .inl
  cases booked with
  | kept => exact .inl taken
  | subscribed r authed mid joined booked => exact once (booked.seats taken)
  | unsubscribed sess asUid original authed _ booked =>
    cases booked with
    | kept => exact .inl taken
    | left =>
      rcases seats_of_seat taken with before | ⟨-, kept⟩
      · exact .inl before
      · cases kept
    | leftP2P s₁ seated _ p2p =>
      rcases seats_of_seat taken with before | ⟨rfl, kept⟩
      · exact .inl before
      · cases kept
        refine .inr (.inr ⟨fun reader => ?_, p2p, sess, original, authed, rfl⟩)
        rw [seated] at reader ⊢
        cases old : v.world.books.seats u with
        | none =>
          rw [old] at reader
          cases reader
        | some s₂ =>
          rw [old] at reader
          exact sane.readers u s₂ old reader
  | departed e r leaves _ departed => exact once (departed.seats taken)
  | setSelf r authed own _ booked => exact once (booked.seats taken)
  | setOther r authed other _ booked => exact once (booked.seats sane taken)
  | removed sess asUid original user _ booked => exact .inl (booked.seats taken)
  | raised e sess raises uid risen =>
    rcases foldl_ensure_seats [uid] taken with before | rfl
    · exact .inl before
    · exact once (.inr Seat.proper_default)

theorem Booked.frame (booked : Booked cfg v e b') :
    b'.cat = v.world.books.cat ∧ b'.isChan = v.world.books.isChan := by
  cases booked with
  | kept => exact ⟨rfl, rfl⟩
  | subscribed r authed mid joined booked => exact ⟨booked.frame.1, booked.frame.2.1⟩
  | unsubscribed sess asUid original authed _ booked => cases booked <;> exact ⟨rfl, rfl⟩
  | departed e r leaves _ departed =>
    rw [departed.frame]
    exact ⟨rfl, rfl⟩
  | setSelf r authed own _ booked => exact ⟨booked.frame.1, booked.frame.2.1⟩
  | setOther r authed other _ booked
  | removed sess asUid original user _ booked => cases booked <;> exact ⟨rfl, rfl⟩
  | raised => exact ⟨rfl, rfl⟩

theorem Booked.sane (sane : v.world.books.Sane) (booked : Booked cfg v e b') : b'.Sane where
  readers uid s taken reader := by
    rcases booked.seats sane taken with before | proper | ⟨joins, -⟩
    · exact sane.readers uid s before reader
    · exact proper.2 reader
    · exact joins reader
  channel := by
    rw [booked.frame.1, booked.frame.2]
    exact sane.channel

end LastochkaServer.Source
