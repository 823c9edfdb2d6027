import LastochkaServer.Lib.Heap
import LastochkaServer.Source.UserCache

/-!
# The cache of users

`userUpdater` of `server/user.go:1032-1090, 1220-1449`: one goroutine that owns the cached unread
counters and the numbers of topics, and two channels, for requests and for counters read from the
database. A counter below zero is not known. The first update of an unknown counter starts a
goroutine that reads it; later updates are buffered until the answer is there, and a push
notification waits until the counters of all its recipients are known.

A pending receipt is known by a number, and so is every receipt handed over; the log of pushed
receipts keeps it. The heap of pending receipts is a parameter. Log messages are left out.
-/

namespace LastochkaServer.Source

open Lib

variable {P : Type}

structure Recipient where
  delivered : Int := 0
  shouldIncrementUnreadCountInCache : Bool := false
  unread : Int := 0
  deriving DecidableEq

structure UserCacheEntry where
  unread : Int := 0
  topics : Int := 0
  deriving DecidableEq

structure BufferedUpdate where
  val : Int
  inc : Bool
  deriving DecidableEq

structure PendingReceipt (P : Type) where
  pendingIOs : Int
  rcpt : Receipt Recipient P

structure IoResult where
  counts : GoMap Uid Int
  /-- `err != nil` -/
  err : Bool

/-- A goroutine that reads counters, with the answer once the database has given one. -/
structure UnreadRead where
  uids : List Uid
  result : Option IoResult := none

/-- A receipt handed to the push handlers, and for how many counters it was waiting then. -/
structure Pushed (P : Type) where
  id : Nat
  pendingIOs : Int
  rcpt : Receipt Recipient P

structure Updater (P : Type) where
  usersCache : GoMap Uid UserCacheEntry := ∅
  perUserBuffers : GoMap Uid (List BufferedUpdate) := ∅
  perUserPendingReceipts : GoMap Uid (List Nat) := ∅
  /-- The pending receipts, which the wait lists and the queue refer to. -/
  pendingReceipts : GoMap Nat (PendingReceipt P) := ∅
  receiptQueue : List Nat := []
  /-- The goroutines whose answer has not been received. -/
  reads : List UnreadRead := []
  /-- How many receipts have been handed over. -/
  received : Nat := 0
  pushed : List (Pushed P) := []
  /-- `globals.shuttingDown` -/
  shuttingDown : Bool := false
  exited : Bool := false

def unreadUpdateIOPending : Int := -1
def unreadUpdateError : Int := -2

namespace Updater

def pendingIOs (s : Updater P) (id : Nat) : Int := (s.pendingReceipts.lookup id).elim 0 (·.pendingIOs)

/-- The receipts that wait for a user. -/
def waitList (s : Updater P) (uid : Uid) : List Nat := s.perUserPendingReceipts.getD uid []

end Updater

/-- The body of `unreadUpdater`'s loop: the new counter or what stands for it, and whether it has to
be read. -/
def updateUnreadOf (s : Updater P) (uid : Uid) (val : Int) (inc : Bool) : Updater P × Int × Bool :=
  match s.usersCache.lookup uid with
  | none => (s, unreadUpdateError, false)
  | some uce =>
    if uce.unread < 0 then
      match s.perUserBuffers.lookup uid with
      | some updateBuf =>
        ({ s with perUserBuffers := s.perUserBuffers.insert uid (updateBuf ++ [⟨val, inc⟩]) },
          unreadUpdateIOPending, false)
      -- the update itself is not buffered
      | none =>
        ({ s with perUserBuffers := s.perUserBuffers.insert uid [] }, unreadUpdateIOPending, true)
    else
      let unread := if inc then uce.unread + val else val
      ({ s with usersCache := s.usersCache.insert uid { uce with unread } }, unread, false)

/-- `unreadUpdater`'s loop: the counters and the users whose counters have to be read. -/
def updateUnreadEach (inc : Bool) :
    Updater P → List (Uid × Int) → Updater P × List (Uid × Int) × List Uid
  | s, [] => (s, [], [])
  | s, (uid, val) :: rest =>
    let (s, count, unknown) := updateUnreadOf s uid val inc
    let (s, counts, dbPending) := updateUnreadEach inc s rest
    (s, (uid, count) :: counts, if unknown then uid :: dbPending else dbPending)

def unreadUpdater (s : Updater P) (updates : List (Uid × Int)) (inc : Bool) :
    Updater P × List (Uid × Int) :=
  let (s, counts, dbPending) := updateUnreadEach inc s updates
  (if dbPending = [] then s else { s with reads := s.reads ++ [{ uids := dbPending }] }, counts)

/-- What a receipt adds to the counter of each recipient. -/
def Receipt.deltas (rcpt : Receipt Recipient P) : List (Uid × Int) :=
  rcpt.recipients.entries.map fun entry =>
    (entry.1, if entry.2.shouldIncrementUnreadCountInCache then 1 else 0)

/-- `rcptTo.Unread = unread; rcpt.To[uid] = rcptTo`, where the counter is known. -/
def Receipt.setUnread (rcpt : Receipt Recipient P) (count : Uid × Int) : Receipt Recipient P :=
  if count.2 ≥ 0 then
    { rcpt with
      recipients :=
        rcpt.recipients.insert count.1 { rcpt.recipients.getD count.1 {} with unread := count.2 } }
  else rcpt

/-- The users whose counters are being read. -/
def pendingUsers (counts : List (Uid × Int)) : List Uid :=
  (counts.filter fun count => count.2 = unreadUpdateIOPending).map (·.1)

/-- `perUserPendingReceipts[uid] = append(queue, pp)`. -/
def addWaiting (id : Nat) (waiting : GoMap Uid (List Nat)) (uid : Uid) : GoMap Uid (List Nat) :=
  waiting.insert uid (waiting.getD uid [] ++ [id])

section Heap

variable (heap : Heap Nat)

/-- The receipt has to wait for the users. -/
def awaitReads (s : Updater P) (id : Nat) (users : List Uid) (rcpt : Receipt Recipient P) :
    Updater P :=
  let s := { s with
    pendingReceipts := s.pendingReceipts.insert id { pendingIOs := users.length, rcpt }
    perUserPendingReceipts := users.foldl (addWaiting id) s.perUserPendingReceipts }
  { s with receiptQueue := heap.push s.pendingIOs s.receiptQueue id }

/-- A request to send push notifications. -/
def handlePushRcpt (s : Updater P) (rcpt : Receipt Recipient P) : Updater P :=
  let id := s.received
  let (s, counts) := unreadUpdater { s with received := id + 1 } rcpt.deltas true
  let rcpt := counts.foldl Receipt.setUnread rcpt
  let users := pendingUsers counts
  if users = [] then { s with pushed := s.pushed ++ [⟨id, 0, rcpt⟩] }
  else awaitReads heap s id users rcpt

/-- Add a user to the cache or take the user out, once for each topic. -/
def registerUser (inc : Bool) (cache : GoMap Uid UserCacheEntry) (uid : Uid) :
    GoMap Uid UserCacheEntry :=
  match cache.lookup uid with
  | none => if inc then cache.insert uid { unread := -1, topics := 1 } else cache
  | some uce =>
    if inc then cache.insert uid { uce with topics := uce.topics + 1 }
    else if uce.topics > 1 then cache.insert uid { uce with topics := uce.topics - 1 }
    else cache.erase uid

/-- `upd := <-globals.usersUpdate`. -/
def handleUpdate (s : Updater P) (upd : UserCacheReq Recipient P) : Updater P :=
  match upd.pushRcpt with
  | some rcpt => handlePushRcpt heap s rcpt
  | none =>
    if upd.userIdList ≠ [] then
      { s with usersCache := upd.userIdList.foldl (registerUser upd.inc) s.usersCache }
    else if upd.gone then { s with usersCache := s.usersCache.erase upd.userId }
    else (unreadUpdater s [(upd.userId, upd.unread)] upd.inc).1

def BufferedUpdate.replay (count : Int) (upd : BufferedUpdate) : Int :=
  if upd.inc then count + upd.val else upd.val

/-- `pp.pendingIOs--; receiptQueue.fix(pp.index)`. -/
def countDown (s : Updater P) (id : Nat) : Updater P :=
  match s.pendingReceipts.lookup id with
  | none => s
  | some pp =>
    let s :=
      { s with
        pendingReceipts := s.pendingReceipts.insert id { pp with pendingIOs := pp.pendingIOs - 1 } }
    { s with receiptQueue := heap.fix s.pendingIOs s.receiptQueue id }

/-- The counter of a user is known from now on. -/
def setUnread (s : Updater P) (uid : Uid) (count : Int) : Updater P :=
  match s.usersCache.lookup uid with
  | some uce => { s with usersCache := s.usersCache.insert uid { uce with unread := count } }
  | none => s

/-- The receipts that wait for a user no longer do. -/
def releaseUser (s : Updater P) (uid : Uid) : Updater P :=
  let s := (s.waitList uid).foldl (countDown heap) s
  { s with perUserPendingReceipts := s.perUserPendingReceipts.erase uid }

/-- The body of the loop over `io.counts`. After an error only the buffer goes. -/
def completeRead (err : Bool) (s : Updater P) (count : Sigma fun _ : Uid => Int) : Updater P :=
  let updateBuf := s.perUserBuffers.getD count.1 []
  let s := { s with perUserBuffers := s.perUserBuffers.erase count.1 }
  if err then s
  else releaseUser heap (setUnread s count.1 (updateBuf.foldl BufferedUpdate.replay count.2)) count.1

/-- `rcpt.To` with the counters known now. -/
def Receipt.refresh (cache : GoMap Uid UserCacheEntry) (rcpt : Receipt Recipient P) :
    Receipt Recipient P :=
  rcpt.recipients.keys.foldl
    (fun rcpt uid => rcpt.setUnread (uid, (cache.lookup uid).elim (-1) (·.unread))) rcpt

/-- `heap.Pop` and `push.Push`. -/
def pushFirst (s : Updater P) (id : Nat) : Updater P :=
  { s with
    receiptQueue := heap.pop s.pendingIOs s.receiptQueue
    pushed := s.pushed ++ (s.pendingReceipts.lookup id).toList.map fun pp =>
      ⟨id, pp.pendingIOs, pp.rcpt.refresh s.usersCache⟩ }

/-- The loop that sends ready receipts, at most as often as there are receipts in the queue. -/
def sendReady : Nat → Updater P → Updater P
  | 0, s => s
  | fuel + 1, s =>
    match s.receiptQueue with
    | [] => s
    | id :: _ => if s.pendingIOs id = 0 then sendReady fuel (pushFirst heap s id) else s

/-- `io := <-ioDone`. -/
def handleIoDone (s : Updater P) (io : IoResult) : Updater P :=
  let s := io.counts.entries.foldl (completeRead heap io.err) s
  if io.err then s else sendReady heap s.receiptQueue.length s

/-- What happens to the updater. -/
inductive UpdaterEvent (P : Type)
  /-- A request is taken from the queue. -/
  | request (upd : UserCacheReq Recipient P)
  /-- `nil` is taken from the queue. -/
  | exit
  | shutDown
  /-- The database answers a goroutine. -/
  | answer (read : Nat) (result : IoResult)
  /-- The answer of a goroutine is taken from `ioDone`. -/
  | ioDone (read : Nat)

/-- An answer has a counter for each of the users asked for, also when the query fails
(`UserUnreadCount`, `server/db/postgres/adapter.go:1384-1425`). -/
def UnreadRead.answer (read : UnreadRead) (result : IoResult) : UnreadRead :=
  if read.result.isNone ∧ result.counts.keys.Perm read.uids then { read with result := some result }
  else read

def updaterStep (s : Updater P) : UpdaterEvent P → Updater P
  | .request upd => if s.exited ∨ s.shuttingDown then s else handleUpdate heap s upd
  | .exit => if s.shuttingDown then s else { s with exited := true }
  | .shutDown => { s with shuttingDown := true }
  | .answer i result => { s with reads := s.reads.modify i (·.answer result) }
  | .ioDone i =>
    match s.reads[i]?.bind (·.result) with
    | none => s
    | some io => if s.exited then s else handleIoDone heap { s with reads := s.reads.eraseIdx i } io

end Heap

/-- From `s` to `s'` counters and buffers have changed, and the users in `unknown` have got a
buffer. -/
structure CountersUpdated (s s' : Updater P) (unknown : List Uid) : Prop where
  frame : s' = { s with usersCache := s'.usersCache, perUserBuffers := s'.perUserBuffers }
  buffers : ∀ uid, uid ∈ s'.perUserBuffers ↔ uid ∈ s.perUserBuffers ∨ uid ∈ unknown
  fresh : ∀ uid ∈ unknown, uid ∉ s.perUserBuffers
  nodup : unknown.Nodup

theorem updateUnreadOf_updated (s : Updater P) (uid : Uid) (val : Int) (inc : Bool) :
    CountersUpdated s (updateUnreadOf s uid val inc).1
      (if (updateUnreadOf s uid val inc).2.2 then [uid] else []) := by
  unfold updateUnreadOf
  cases s.usersCache.lookup uid with
  | none => exact ⟨rfl, by simp, by simp, by simp⟩
  | some uce =>
    dsimp only
    split
    · cases buffered : s.perUserBuffers.lookup uid with
      | none =>
        have absent : uid ∉ s.perUserBuffers := AList.lookup_eq_none.mp buffered
        exact ⟨rfl, by simp [or_comm], by simpa using absent, by simp⟩
      | some updateBuf =>
        have present : uid ∈ s.perUserBuffers := AList.lookup_isSome.mp (by rw [buffered]; rfl)
        refine ⟨rfl, fun other => ?_, by simp, by simp⟩
        simp only [AList.mem_insert, Bool.false_eq_true, if_false, List.not_mem_nil, or_false]
        constructor
        · rintro (rfl | mem)
          · exact present
          · exact mem
        · exact .inr
    · exact ⟨rfl, by simp, by simp, by simp⟩

theorem CountersUpdated.trans {s₁ s₂ s₃ : Updater P} {first second : List Uid}
    (earlier : CountersUpdated s₁ s₂ first) (later : CountersUpdated s₂ s₃ second) :
    CountersUpdated s₁ s₃ (first ++ second) where
  frame := by
    rw [later.frame, earlier.frame]
  buffers uid := by
    rw [later.buffers, earlier.buffers, List.mem_append, or_assoc]
  fresh uid mem := by
    rcases List.mem_append.mp mem with mem | mem
    · exact earlier.fresh uid mem
    · intro buffered
      exact later.fresh uid mem ((earlier.buffers uid).mpr (.inl buffered))
  nodup := by
    refine List.nodup_append.mpr ⟨earlier.nodup, later.nodup, ?_⟩
    rintro uid mem other member' rfl
    exact later.fresh uid member' ((earlier.buffers uid).mpr (.inr mem))

theorem updateUnreadEach_updated (inc : Bool) (s : Updater P) (updates : List (Uid × Int)) :
    CountersUpdated s (updateUnreadEach inc s updates).1 (updateUnreadEach inc s updates).2.2 := by
  induction updates generalizing s with
  | nil =>
    exact ⟨rfl, by simp [updateUnreadEach], by simp [updateUnreadEach], by simp [updateUnreadEach]⟩
  | cons update rest ih =>
    have both :=
      (updateUnreadOf_updated s update.1 update.2 inc).trans
        (ih (updateUnreadOf s update.1 update.2 inc).1)
    simp only [updateUnreadEach]
    split at both
    · next unknown => rwa [if_pos unknown]
    · next known => rwa [if_neg known]

theorem updateUnreadEach_users (inc : Bool) (s : Updater P) (updates : List (Uid × Int)) :
    (updateUnreadEach inc s updates).2.1.map (·.1) = updates.map (·.1) := by
  induction updates generalizing s with
  | nil => rfl
  | cons update rest ih => simp [updateUnreadEach, ih]

/-- An increment of a known counter is not taken for a counter that is being read. -/
theorem updateUnreadOf_pending {s : Updater P} {uid : Uid} {val : Int} (nonneg : 0 ≤ val)
    (pending : (updateUnreadOf s uid val true).2.1 = unreadUpdateIOPending) :
    uid ∈ (updateUnreadOf s uid val true).1.perUserBuffers := by
  unfold updateUnreadOf at pending ⊢
  cases cached : s.usersCache.lookup uid with
  | none => simp [cached, unreadUpdateError, unreadUpdateIOPending] at pending
  | some uce =>
    simp only [cached] at pending ⊢
    split at pending
    · next negative =>
      rw [if_pos negative]
      cases s.perUserBuffers.lookup uid <;> exact AList.mem_insert _ |>.mpr (.inl rfl)
    · simp [unreadUpdateIOPending] at pending
      omega

theorem updateUnreadEach_pending {s : Updater P} {updates : List (Uid × Int)}
    (nonneg : ∀ update ∈ updates, 0 ≤ update.2)
    {uid : Uid} (pending : uid ∈ pendingUsers (updateUnreadEach true s updates).2.1) :
    uid ∈ (updateUnreadEach true s updates).1.perUserBuffers := by
  induction updates generalizing s with
  | nil => simp [updateUnreadEach, pendingUsers] at pending
  | cons update rest ih =>
    simp only [updateUnreadEach] at pending ⊢
    have later := updateUnreadEach_updated true (updateUnreadOf s update.1 update.2 true).1 rest
    simp only [pendingUsers, List.mem_map, List.mem_filter, List.mem_cons,
      decide_eq_true_eq] at pending
    obtain ⟨count, ⟨rfl | mem, waits⟩, rfl⟩ := pending
    · exact (later.buffers _).mpr (.inl (updateUnreadOf_pending (nonneg _ List.mem_cons_self) waits))
    · apply ih (fun update mem => nonneg update (List.mem_cons_of_mem _ mem))
      simp only [pendingUsers, List.mem_map, List.mem_filter, decide_eq_true_eq]
      exact ⟨count, ⟨mem, waits⟩, rfl⟩

theorem Receipt.deltas_nonneg (rcpt : Receipt Recipient P) :
    ∀ update ∈ rcpt.deltas, 0 ≤ update.2 := by
  intro update mem
  obtain ⟨entry, -, rfl⟩ := List.mem_map.mp mem
  split <;> omega

theorem Receipt.deltas_nodup (rcpt : Receipt Recipient P) : (rcpt.deltas.map (·.1)).Nodup := by
  have keys : rcpt.deltas.map (·.1) = rcpt.recipients.keys := by
    simp [Receipt.deltas, AList.keys, List.keys]
  rw [keys]
  exact rcpt.recipients.keys_nodup

end LastochkaServer.Source
