import LastochkaServer.Source.Topic.Attach
import LastochkaServer.Source.Topic.Save

/-!
# What a topic keeps count of

The view of a topic under which its counters are studied: the seat of every cached user, the active
subscriptions, the messages, the number of subscribers, and what the cache of users has been told so
far (changes of unread counters and registrations). Each subscription handler acts on this view in
one of a few ways, in topics of every category.

A seat keeps, of the modes of a user, the permissions that the counters depend on.
-/

namespace LastochkaServer.Source

open Lib AccessMode

variable {w w' : World} {uid : Uid} {skip : String} {update : Subscription → Subscription}
  {name : Addressing} {isChan : Bool} {actor : Uid}

/-- What the cache of users is told. -/
inductive Report
  | unread (uid : Uid) (val : Int)
  | register (uid : Uid) (add : Bool)
  deriving DecidableEq

def Effect.report : Effect → Option Report
  | .usersUpdateUnread uid val => some (.unread uid val)
  | .usersRegisterUser uid add => some (.register uid add)
  | _ => none

structure Seat where
  isChan : Bool := false
  deleted : Bool := false
  /-- `R` and `P` of the mode in force, and `J` of the mode wanted. -/
  reads : Bool := false
  notified : Bool := false
  joins : Bool := false
  readID : Int := 0
  deriving DecidableEq

def PerUserData.seat (pud : PerUserData) : Seat where
  isChan := pud.isChan
  deleted := pud.deleted
  reads := pud.mode.isReader
  notified := pud.mode.isPresencer
  joins := pud.modeWant.isJoiner
  readID := pud.readID

@[ext] structure Books where
  cat : TopicCat
  isChan : Bool
  lastID : Int
  subCnt : Int
  seats : Uid → Option Seat
  active : Addressing × Uid → Bool
  messages : List Message
  reports : List Report

/-- There is a subscription that is not marked as deleted. -/
def Store.active (s : Store) (key : Addressing × Uid) : Bool :=
  (s.subs.lookup key).any fun sub => !sub.deletedAt

def World.books (w : World) : Books where
  cat := w.topic.cat
  isChan := w.topic.isChan
  lastID := w.topic.lastID
  subCnt := w.topic.subCnt
  seats uid := (w.topic.perUser.lookup uid).map PerUserData.seat
  active := w.store.active
  messages := w.store.messages
  reports := w.out.filterMap Effect.report

theorem seated_iff (w : World) (uid : Uid) :
    (∃ s, w.books.seats uid = some s) ↔ uid ∈ w.topic.perUser := by
  rw [← AList.lookup_isSome, Option.isSome_iff_exists]
  simp only [World.books, Option.map_eq_some_iff]
  constructor
  · rintro ⟨s, pud, cached, -⟩
    exact ⟨pud, cached⟩
  · rintro ⟨pud, cached⟩
    exact ⟨_, pud, cached, rfl⟩

namespace Books

def seat (b : Books) (uid : Uid) (seat : Option Seat) : Books :=
  { b with seats := Function.update b.seats uid seat }

def file (b : Books) (key : Addressing × Uid) (active : Bool) : Books :=
  { b with active := Function.update b.active key active }

def tell (b : Books) (reports : List Report) : Books := { b with reports := b.reports ++ reports }

def count (b : Books) (change : Int) : Books := { b with subCnt := b.subCnt + change }

variable (b : Books)

@[simp] theorem tell_nil : b.tell [] = b := by
  simp [tell]

theorem tell_tell (first second : List Report) :
    (b.tell first).tell second = b.tell (first ++ second) := by
  simp [tell]

theorem seat_self (uid : Uid) : b.seat uid (b.seats uid) = b := by
  simp [seat]

theorem file_self (key : Addressing × Uid) : b.file key (b.active key) = b := by
  simp [file]

theorem seat_seat (uid : Uid) (first second : Option Seat) :
    (b.seat uid first).seat uid second = b.seat uid second := by
  simp [seat]

theorem seat_tell (uid : Uid) (s : Option Seat) (reports : List Report) :
    (b.seat uid s).tell reports = (b.tell reports).seat uid s := rfl

end Books

/-- What is told when the read permission of a user comes or goes. -/
def unreadChange (uid : Uid) (before : Bool) (seat : Seat) (lastID : Int) : List Report :=
  match before, seat.reads with
  | true, false => [.unread uid (seat.readID - lastID)]
  | false, true => [.unread uid (lastID - seat.readID)]
  | _, _ => []

/-- What is told when a seat is given up. -/
def unregistration (uid : Uid) (seat : Option Seat) : List Report :=
  seat.elim [] fun s => bif s.isChan then [] else [.register uid false]

theorem books_emit (w : World) (e : Effect) : (w.emit e).books = w.books.tell e.report.toList := by
  simp only [World.books, World.emit, Books.tell, List.filterMap_append]
  cases told : e.report <;> simp [told]

@[simp] theorem books_refuse (w : World) (sid : String) (r : Rejection) :
    (w.refuse sid r).books = w.books := by
  unfold World.refuse
  split
  · exact (books_emit w _).trans (Books.tell_nil _)
  · rfl

theorem books_setPud (w : World) (uid : Uid) (pud : PerUserData) :
    ({ w with topic := w.topic.setPud uid pud } : World).books =
    w.books.seat uid (some pud.seat) := by
  ext1
  all_goals try rfl
  funext v
  by_cases same : v = uid
  · subst same
    simp [World.books, Topic.setPud, Books.seat]
  · simp [World.books, Topic.setPud, Books.seat, AList.lookup_insert_ne same, same]

theorem books_erase (w : World) (uid : Uid) :
    ({ w with topic := { w.topic with perUser := w.topic.perUser.erase uid } } : World).books =
    w.books.seat uid none := by
  ext1
  all_goals try rfl
  funext v
  by_cases same : v = uid
  · subst same
    simp [World.books, Books.seat]
  · simp [World.books, Books.seat, AList.lookup_erase_ne same, same]

theorem active_insert (s : Store) (key : Addressing × Uid) (row : Subscription) :
    Store.active { s with subs := s.subs.insert key row } =
      Function.update s.active key (!row.deletedAt) := by
  funext other
  unfold Store.active
  by_cases same : other = key
  · subst same
    simp
  · simp [AList.lookup_insert_ne same, same]

theorem books_createSub (w : World) (name : Addressing) (uid : Uid) (want given : AccessMode)
    (privateData : Value) :
    ({ w with store := w.store.createSub name uid want given privateData } : World).books =
    w.books.file (name, uid) true := by
  ext1
  all_goals try rfl
  exact active_insert w.store (name, uid) _

theorem active_updateSub (s : Store) (name : Addressing) (uid : Uid)
    (kept : ∀ sub, (update sub).deletedAt = sub.deletedAt) :
    (s.updateSub name uid update).active = s.active := by
  unfold Store.updateSub
  cases found : s.subs.lookup (name, uid) with
  | none => rfl
  | some sub =>
    refine (active_insert s (name, uid) _).trans ?_
    have same : s.active (name, uid) = !(update sub).deletedAt := by
      simp [Store.active, found, kept]
    rw [← same, Function.update_eq_self]

theorem books_updateSub (w : World) (name : Addressing) (uid : Uid)
    (kept : ∀ sub, (update sub).deletedAt = sub.deletedAt) :
    ({ w with store := w.store.updateSub name uid update } : World).books = w.books := by
  ext1
  case active => exact active_updateSub w.store name uid kept
  case messages => exact Store.updateSub_messages ..
  all_goals rfl

theorem books_deleteSub {store : Store} (deleted : w.store.deleteSub name uid = some store) :
    ({ w with store := store } : World).books = w.books.file (name, uid) false ∧
    w.store.active (name, uid) := by
  obtain ⟨sub, found, rfl⟩ := Option.map_eq_some_iff.mp deleted
  obtain ⟨stored, alive⟩ := Option.filter_eq_some_iff.mp found
  constructor
  · ext1
    all_goals try rfl
    exact active_insert w.store (name, uid) _
  · simpa [Store.active, stored] using alive

theorem books_deleteSub_none (missing : w.store.deleteSub name uid = none) :
    w.store.active (name, uid) = false := by
  simp only [Store.deleteSub, Store.getSub, Option.map_eq_none_iff] at missing
  unfold Store.active
  cases found : w.store.subs.lookup (name, uid) with
  | none => rfl
  | some sub => simpa [found, Option.filter] using missing

theorem books_notifySubChange {oldWant oldGiven newWant newGiven : AccessMode}
    (ran : notifySubChange w uid actor isChan oldWant oldGiven newWant newGiven skip = .ok w') :
    w'.books = w.books := by
  rw [notifySubChange_ok ran, books_emit]
  exact Books.tell_nil _

theorem books_updateUnread (w : World) (uid : Uid) (oldMode : AccessMode) (pud : PerUserData) :
    (updateUnread w uid oldMode pud).books =
      w.books.tell (unreadChange uid oldMode.isReader pud.seat w.topic.lastID) := by
  unfold updateUnread unreadChange
  have reads : pud.seat.reads = pud.mode.isReader := rfl
  rw [reads]
  cases oldMode.isReader <;> cases pud.mode.isReader
  · exact (Books.tell_nil _).symm
  · exact books_emit w _
  · exact books_emit w _
  · exact (Books.tell_nil _).symm

theorem books_reportChange {changed : Bool} {oldWant oldGiven : AccessMode} {userData : PerUserData}
    (ran : reportChange w changed uid actor isChan oldWant oldGiven userData skip = .ok w') :
    w'.books = if changed ∧ isChan = false then
      w.books.tell (unreadChange uid (oldWant &&& oldGiven).isReader userData.seat w.topic.lastID)
        else w.books := by
  unfold reportChange at ran
  split at ran
  · next changed =>
    rw [books_notifySubChange ran]
    cases isChan with
    | true => simp
    | false => simp [changed, books_updateUnread]
  · next same =>
    cases ran
    simp [same]

/-- The seat of a user who is no longer attached: a reader's is given up. -/
def Seat.detached (s : Seat) : Option Seat := if s.isChan then none else some s

theorem evictSession_books (uid : Uid) (skip : String) (w : World) (s : SessionKey) :
    (evictSession uid skip w s).books = w.books := by
  have frame := Topic.remSession_frame w.topic s uid
  have told (w : World) (sid : String) (reply : Reply) :
      (w.emit (.queueOut sid reply)).books = w.books :=
    (books_emit w _).trans (Books.tell_nil _)
  have noticed (w : World) (sid : String) : (w.emit (.detachSession sid)).books = w.books :=
    (books_emit w _).trans (Books.tell_nil _)
  unfold evictSession
  split
  · rfl
  next topic record removed found =>
  rw [found] at frame
  have same : ({ w with topic := topic } : World).books = w.books := by
    have frame : topic = { w.topic with sessions := topic.sessions } := frame
    rw [frame]
    rfl
  split_ifs <;> simp [told, noticed, same]

theorem evictUser_books {unsub : Bool} (ran : evictUser w uid unsub skip = .ok w') :
    w'.books = (forgetUser w uid unsub).books := by
  rw [evictUser_eq ran]
  generalize w.topic.sessions.keys = keys
  generalize forgetUser w uid unsub = start
  induction keys generalizing start with
  | nil => rfl
  | cons s rest ih => rw [List.foldl_cons, ih, evictSession_books]

/-- A user who is only detached keeps the seat, unless it is a reader's. -/
theorem forgetUser_detached (w : World) (uid : Uid) :
    (forgetUser w uid false).books = w.books.seat uid ((w.books.seats uid).bind Seat.detached) := by
  unfold forgetUser
  dsimp only
  cases cached : w.topic.perUser.lookup uid with
  | none =>
    have empty : w.books.seats uid = none := by simp [World.books, cached]
    rw [empty, Option.bind_none, ← empty, Books.seat_self]
    simp
  | some pud =>
    have taken : w.books.seats uid = some pud.seat := by simp [World.books, cached]
    rw [taken, Option.bind_some]
    simp only [Bool.false_eq_true, if_false]
    split
    · next reader =>
      rw [books_erase]
      simp [Seat.detached, PerUserData.seat, reader]
    · next subscriber =>
      rw [books_setPud]
      simp [Seat.detached, PerUserData.seat, PerUserData.mode, subscriber]

/-- A user who unsubscribes gives up the seat, and in a P2P topic it is kept as deleted. -/
theorem forgetUser_unsubscribed (w : World) (uid : Uid) :
    (forgetUser w uid true).books =
      if w.topic.cat = .p2p then
        w.books.seat uid (some { (w.books.seats uid).getD {} with deleted := true })
      else (w.books.tell (unregistration uid (w.books.seats uid))).seat uid none := by
  unfold forgetUser
  dsimp only
  cases cached : w.topic.perUser.lookup uid with
  | none =>
    have empty : w.books.seats uid = none := by simp [World.books, cached]
    rw [empty]
    simp only [true_and, Option.getD_none, unregistration, Option.elim_none, Books.tell_nil]
    split
    · rw [books_setPud]
      rfl
    · rw [← empty, Books.seat_self]
  | some pud =>
    have taken : w.books.seats uid = some pud.seat := by simp [World.books, cached]
    rw [taken]
    simp only [if_true, Option.getD_some, unregistration, Option.elim_some]
    split
    · rw [books_setPud]
      rfl
    · have erased := books_erase w uid
      split
      · next reader =>
        have reader : pud.seat.isChan := reader
        rw [reader, cond_true, Books.tell_nil]
        exact erased
      · next subscriber =>
        have subscriber : pud.seat.isChan = false := Bool.not_eq_true _ ▸ subscriber
        rw [subscriber, cond_false, books_emit]
        exact congrArg (Books.tell · _) erased

end LastochkaServer.Source
