import LastochkaServer.Lib.Run
import LastochkaServer.Source.UserUpdater

/-!
# Push notifications that wait for unread counters

The updater of the cache of users (`server/user.go:1223-1415`) keeps a wait list for each user whose
counter is being read, and for each receipt the number of counters it waits for. In every run the
numbers are right and a receipt is pushed once, when it waits for nobody.

A user with receipts waiting has a read in flight as long as reads succeed. When a read fails the
buffer of the user is dropped and the wait list is kept, so its receipts stay in the queue with
nobody to release them (`sound_iff`, `failed_read_strands_receipt`).
-/

namespace LastochkaServer.Guarantees.PendingReceipts

open Lib Lib.Run Source

variable {id i : Nat} {read : UnreadRead} {uid : Uid} {rest : List Nat} {io : IoResult}
  {P : Type} {s : Updater P}

/-- In how many wait lists a receipt is. -/
def waiting (s : Updater P) (id : Nat) : Nat :=
  s.perUserPendingReceipts.tally fun _ list => if id ∈ list then 1 else 0

structure Sound (s : Updater P) : Prop where
  /-- A queued receipt counts the wait lists that contain it. -/
  counted : ∀ id ∈ s.receiptQueue, s.pendingIOs id = waiting s id
  /-- A user with receipts waiting has a read in flight. -/
  reading : ∀ uid, s.waitList uid ≠ [] → ∃ read ∈ s.reads, uid ∈ read.uids
  once : (s.pushed.map (·.id)).Nodup
  ready : ∀ p ∈ s.pushed, p.pendingIOs = 0

/-- No read fails while receipts wait for one of its users. -/
def Careful (s : Updater P) : UpdaterEvent P → Prop
  | .ioDone i =>
    s.exited = false → ∀ read io, s.reads[i]? = some read → read.result = some io → io.err →
      ∀ uid ∈ read.uids, s.waitList uid = []
  | _ => True

/-- The part of the state that deals with receipts is consistent. -/
structure Tracked (s : Updater P) : Prop where
  waiters : ∀ uid, (s.waitList uid).Nodup
  queued : ∀ uid, ∀ id ∈ s.waitList uid, id ∈ s.receiptQueue
  recorded : ∀ id ∈ s.receiptQueue, id ∈ s.pendingReceipts
  counted : ∀ id ∈ s.receiptQueue, s.pendingIOs id = waiting s id
  nodup : s.receiptQueue.Nodup
  old : ∀ id ∈ s.receiptQueue, id < s.received
  ordered : Heap.Ordered s.pendingIOs s.receiptQueue
  once : (s.pushed.map (·.id)).Nodup
  ready : ∀ p ∈ s.pushed, p.pendingIOs = 0
  pushedOld : ∀ p ∈ s.pushed, p.id < s.received
  apart : ∀ p ∈ s.pushed, p.id ∉ s.receiptQueue

theorem Tracked.congr {s s' : Updater P} (tracked : Tracked s) (frame : s' = { s with
      usersCache := s'.usersCache
      perUserBuffers := s'.perUserBuffers
      reads := s'.reads
      shuttingDown := s'.shuttingDown
      exited := s'.exited }) : Tracked s' := by
  rw [frame]
  exact { tracked with }

theorem share_list (lists : GoMap Uid (List Nat)) (id : Nat) (uid : Uid) :
    lists.share (fun _ list => if id ∈ list then 1 else 0) uid = if id ∈ lists.getD uid [] then 1
      else 0 := by
  unfold GoMap.share GoMap.getD
  cases lists.lookup uid <;> simp

theorem waiting_erase (s : Updater P) (id : Nat) (uid : Uid) :
    GoMap.tally (fun _ list => if id ∈ list then 1 else 0) (s.perUserPendingReceipts.erase uid) +
      (if id ∈ s.waitList uid then 1 else 0) = waiting s id := by
  have removed :=
    GoMap.tally_erase (fun _ list => if id ∈ list then 1 else 0) s.perUserPendingReceipts uid
  rwa [share_list] at removed

theorem waiting_pos (waits : id ∈ s.waitList uid) : 0 < waiting s id := by
  have removed := waiting_erase s id uid
  rw [if_pos waits] at removed
  omega

theorem addWaiting_lookup (id : Nat) (users : List Uid) (nodup : users.Nodup)
    (lists : GoMap Uid (List Nat)) (uid : Uid) :
    (users.foldl (addWaiting id) lists).getD uid [] =
      if uid ∈ users then lists.getD uid [] ++ [id] else lists.getD uid [] := by
  have visited := GoMap.foldl_lookup (fun lists => lists) (addWaiting id)
    (fun _ list => some (list.getD [] ++ [id])) (fun _ _ => AList.lookup_insert _)
    (fun _ _ _ other => AList.lookup_insert_ne other) users nodup lists uid
  unfold GoMap.getD
  rw [visited]
  split <;> rfl

theorem addWaiting_tally (id : Nat) (users : List Uid) (nodup : users.Nodup)
    (lists : GoMap Uid (List Nat))
    (fresh : ∀ uid ∈ users, id ∉ lists.getD uid []) (id' : Nat) :
    (users.foldl (addWaiting id) lists).tally (fun _ list => if id' ∈ list then 1 else 0) =
      lists.tally (fun _ list => if id' ∈ list then 1 else 0) + if id' = id then users.length
        else 0 := by
  induction users generalizing lists with
  | nil => simp
  | cons uid rest ih =>
    obtain ⟨notRest, nodup⟩ := List.nodup_cons.mp nodup
    have others : ∀ other ∈ rest, id ∉ (addWaiting id lists uid).getD other [] := by
      intro other mem
      have ne : other ≠ uid := fun same => notRest (same ▸ mem)
      rw [addWaiting, GoMap.getD, AList.lookup_insert_ne ne]
      exact fresh other (List.mem_cons_of_mem _ mem)
    have added := GoMap.tally_insert (fun _ list => if id' ∈ list then 1 else 0) lists uid
      (lists.getD uid [] ++ [id])
    rw [share_list] at added
    rw [List.foldl_cons, ih nodup _ others, addWaiting]
    by_cases new : id' = id
    · subst new
      have absent := fresh uid List.mem_cons_self
      simp only [absent, if_false, List.mem_append, List.mem_singleton, or_true, if_true,
        List.length_cons] at added ⊢
      omega
    · simp only [List.mem_append, List.mem_singleton, new, or_false, if_false] at added ⊢
      omega

section Heap

variable (heap : Heap Nat)

theorem awaitReads_tracked {users : List Uid} {rcpt : Receipt Recipient P}
    (tracked : Tracked s) (nodup : users.Nodup) (new : id ∉ s.receiptQueue) (known : id < s.received)
    (unpushed : ∀ p ∈ s.pushed, p.id ≠ id) : Tracked (awaitReads heap s id users rcpt) := by
  have nowhere : ∀ uid, id ∉ s.waitList uid := fun uid waits => new (tracked.queued uid id waits)
  have perm := heap.push_perm (awaitReads heap s id users rcpt).pendingIOs s.receiptQueue id
  have mem : ∀ x, x ∈ (awaitReads heap s id users rcpt).receiptQueue ↔ x = id ∨
      x ∈ s.receiptQueue := by
    intro x
    rw [← List.mem_cons]
    exact perm.mem_iff
  have lists : ∀ uid, (awaitReads heap s id users rcpt).waitList uid =
      if uid ∈ users then s.waitList uid ++ [id] else s.waitList uid :=
        addWaiting_lookup id users nodup _
  have own : (awaitReads heap s id users rcpt).pendingIOs id = users.length := by
    show ((s.pendingReceipts.insert id _).lookup id).elim _ _ = _
    rw [AList.lookup_insert]
    rfl
  have others : ∀ x, x ≠ id → (awaitReads heap s id users rcpt).pendingIOs x = s.pendingIOs x := by
    intro x other
    show ((s.pendingReceipts.insert id _).lookup x).elim _ _ = _
    rw [AList.lookup_insert_ne other]
    rfl
  have counts : ∀ x, waiting (awaitReads heap s id users rcpt) x =
      waiting s x + if x = id then users.length else 0 :=
    addWaiting_tally id users nodup _ fun uid _ => nowhere uid
  have unlisted : waiting s id = 0 := by
    apply GoMap.tally_eq_zero
    intro uid list found
    have list' : s.waitList uid = list := by
      rw [Updater.waitList, GoMap.getD, found, Option.getD_some]
    rw [if_neg (list' ▸ nowhere uid)]
  have inQueue : ∀ {x}, x ∈ s.receiptQueue → x ≠ id := fun mem same => new (same ▸ mem)
  refine { tracked with
    waiters := ?waiters, queued := ?queued, recorded := ?recorded, counted := ?counted, nodup :=
      ?nodup, old := ?old
    ordered := ?ordered, apart := ?apart }
  case waiters =>
    intro uid
    rw [lists]
    split
    · exact List.nodup_append.mpr ⟨tracked.waiters uid, List.nodup_singleton _, by
        rintro a mem b single rfl
        rw [List.mem_singleton] at single
        exact nowhere uid (single ▸ mem)⟩
    · exact tracked.waiters uid
  case queued =>
    intro uid x waits
    rw [lists] at waits
    rw [mem]
    split at waits
    · rcases List.mem_append.mp waits with waits | single
      · exact .inr (tracked.queued uid x waits)
      · exact .inl (List.mem_singleton.mp single)
    · exact .inr (tracked.queued uid x waits)
  case recorded =>
    intro x queued
    show x ∈ s.pendingReceipts.insert id _
    rw [AList.mem_insert]
    exact ((mem x).mp queued).imp_right (tracked.recorded x)
  case counted =>
    intro x queued
    rw [counts]
    rcases (mem x).mp queued with rfl | queued
    · rw [own, unlisted, if_pos rfl, Nat.zero_add]
    · rw [others x (inQueue queued), tracked.counted x queued, if_neg (inQueue queued), Nat.add_zero]
  case nodup => exact perm.nodup_iff.mpr (List.nodup_cons.mpr ⟨new, tracked.nodup⟩)
  case old =>
    intro x queued
    rcases (mem x).mp queued with rfl | queued
    · exact known
    · exact tracked.old x queued
  case ordered =>
    exact heap.push_ordered _ _ _ (tracked.ordered.congr fun x queued => others x (inQueue queued))
  case apart =>
    intro p pushed queued
    rcases (mem p.id).mp queued with same | queued
    · exact unpushed p pushed same
    · exact tracked.apart p pushed queued

/-- The numbers of the receipts in `ids` have gone down by one, and the queue has been put in order
again. -/
structure CountedDown (s s' : Updater P) (ids : List Nat) : Prop where
  frame : s' = { s with pendingReceipts := s'.pendingReceipts, receiptQueue := s'.receiptQueue }
  pendingIOs : ∀ id, s'.pendingIOs id = s.pendingIOs id - if id ∈ ids then 1 else 0
  recorded : ∀ id ∈ s.pendingReceipts, id ∈ s'.pendingReceipts
  perm : s'.receiptQueue.Perm s.receiptQueue
  ordered : Heap.Ordered s'.pendingIOs s'.receiptQueue

theorem countDown_counted (queued : id ∈ s.receiptQueue)
    (recorded : id ∈ s.pendingReceipts) (nodup : s.receiptQueue.Nodup)
    (ordered : Heap.Ordered s.pendingIOs s.receiptQueue) :
    CountedDown s (countDown heap s id) [id] := by
  obtain ⟨pp, found⟩ := Option.isSome_iff_exists.mp (AList.lookup_isSome.mpr recorded)
  have counts : ∀ x, (countDown heap s id).pendingIOs x = s.pendingIOs x - if x ∈ [id] then 1
      else 0 := by
    intro x
    simp only [countDown, found, Updater.pendingIOs, List.mem_singleton]
    by_cases same : x = id
    · subst same
      simp [found]
    · simp [AList.lookup_insert_ne same, same]
  unfold countDown at counts ⊢
  simp only [found] at counts ⊢
  refine ⟨rfl, counts, ?_, heap.fix_perm _ _ _, ?_⟩
  · intro x mem
    exact AList.mem_insert _ |>.mpr (.inr mem)
  · apply heap.fix_ordered s.pendingIOs _ _ _ ordered nodup queued
    intro x other
    refine (counts x).trans ?_
    rw [if_neg (by simpa using other), Int.sub_zero]

theorem foldl_countDown_counted {ids : List Nat} (ids_nodup : ids.Nodup)
    (queued : ∀ id ∈ ids, id ∈ s.receiptQueue)
    (recorded : ∀ id ∈ s.receiptQueue, id ∈ s.pendingReceipts)
    (nodup : s.receiptQueue.Nodup) (ordered : Heap.Ordered s.pendingIOs s.receiptQueue) :
    CountedDown s (ids.foldl (countDown heap) s) ids := by
  induction ids generalizing s with
  | nil => exact ⟨rfl, by simp, fun _ mem => mem, .refl _, ordered⟩
  | cons id rest ih =>
    obtain ⟨notRest, ids_nodup⟩ := List.nodup_cons.mp ids_nodup
    have first := countDown_counted heap (queued id List.mem_cons_self)
      (recorded id (queued id List.mem_cons_self)) nodup ordered
    have later := ih (s := countDown heap s id) ids_nodup
      (fun x mem => first.perm.mem_iff.mpr (queued x (List.mem_cons_of_mem _ mem)))
      (fun x mem => first.recorded x (recorded x (first.perm.mem_iff.mp mem)))
      (first.perm.nodup_iff.mpr nodup) first.ordered
    refine ⟨?_, ?_, ?_, later.perm.trans first.perm, later.ordered⟩
    · rw [List.foldl_cons, later.frame, first.frame]
    · intro x
      rw [List.foldl_cons, later.pendingIOs, first.pendingIOs]
      by_cases same : x = id
      · subst same
        simp [notRest]
      · simp [same]
    · intro x mem
      exact later.recorded x (first.recorded x mem)

/-- The state without the wait list of a user. -/
structure Released (s s' : Updater P) (uid : Uid) : Prop where
  frame : s' = { s with
    perUserPendingReceipts := s.perUserPendingReceipts.erase uid
    pendingReceipts := s'.pendingReceipts
    receiptQueue := s'.receiptQueue }
  tracked : Tracked s'

theorem releaseUser_released (tracked : Tracked s) (uid : Uid) :
    Released s (releaseUser heap s uid) uid := by
  have down :=
    foldl_countDown_counted heap (tracked.waiters uid) (tracked.queued uid) tracked.recorded
    tracked.nodup tracked.ordered
  have frame : releaseUser heap s uid = { s with
      perUserPendingReceipts := s.perUserPendingReceipts.erase uid
      pendingReceipts := (releaseUser heap s uid).pendingReceipts
      receiptQueue := (releaseUser heap s uid).receiptQueue } := by
    unfold releaseUser
    rw [down.frame]
  have lists : ∀ other, (releaseUser heap s uid).waitList other = if other = uid then []
      else s.waitList other := by
    intro other
    rw [frame]
    unfold Updater.waitList GoMap.getD
    split
    · next same => rw [same, AList.lookup_erase, Option.getD_none]
    · next ne => rw [AList.lookup_erase_ne ne]
  have mem : ∀ x, x ∈ (releaseUser heap s uid).receiptQueue ↔ x ∈ s.receiptQueue :=
    fun _ => down.perm.mem_iff
  have counts : ∀ x, waiting (releaseUser heap s uid) x + (if x ∈ s.waitList uid then 1 else 0) =
      waiting s x := by
    intro x
    rw [frame]
    exact waiting_erase s x uid
  refine ⟨frame, ?_⟩
  constructor
  case waiters =>
    intro other
    rw [lists]
    split
    · exact List.nodup_nil
    · exact tracked.waiters other
  case queued =>
    intro other x waits
    rw [lists] at waits
    rw [mem]
    split at waits
    · cases waits
    · exact tracked.queued other x waits
  case recorded => exact fun x queued => down.recorded x (tracked.recorded x ((mem x).mp queued))
  case counted =>
    intro x queued
    have before := tracked.counted x ((mem x).mp queued)
    have after : (releaseUser heap s uid).pendingIOs x = _ := down.pendingIOs x
    have lists := counts x
    rw [after, before, ← lists]
    split <;> simp
  case nodup => exact down.perm.nodup_iff.mpr tracked.nodup
  case ordered => exact down.ordered
  case old =>
    intro x queued
    rw [frame]
    exact tracked.old x ((mem x).mp queued)
  case once =>
    rw [frame]
    exact tracked.once
  case ready =>
    rw [frame]
    exact tracked.ready
  case pushedOld =>
    rw [frame]
    exact tracked.pushedOld
  case apart =>
    intro p pushed queued
    rw [frame] at pushed
    exact tracked.apart p pushed ((mem p.id).mp queued)

theorem setUnread_frame (s : Updater P) (uid : Uid) (count : Int) :
    setUnread s uid count = { s with usersCache := (setUnread s uid count).usersCache } := by
  unfold setUnread
  cases s.usersCache.lookup uid <;> rfl

/-- The users in `uids` have lost their buffers and, after a successful read, their wait lists. -/
structure Completed (err : Bool) (s s' : Updater P) (uids : List Uid) : Prop where
  tracked : Tracked s'
  reads : s'.reads = s.reads
  buffers : ∀ uid, uid ∈ s'.perUserBuffers ↔ uid ∈ s.perUserBuffers ∧ uid ∉ uids
  waitList : ∀ uid, s'.waitList uid = if uid ∈ uids ∧ err = false then [] else s.waitList uid
  failed : err → s'.receiptQueue = s.receiptQueue ∧ s'.pendingReceipts = s.pendingReceipts

theorem completeRead_completed (err : Bool) (tracked : Tracked s) (count : Sigma fun _ : Uid => Int) :
    Completed err s (completeRead heap err s count) [count.1] := by
  have dropped : ∀ uid, uid ∈ s.perUserBuffers.erase count.1 ↔ uid ∈ s.perUserBuffers ∧
      uid ∉ [count.1] := by
    intro uid
    rw [AList.mem_erase, List.mem_singleton, and_comm]
  cases err with
  | true =>
    exact ⟨tracked.congr rfl, rfl, dropped,
      by simp [completeRead, Updater.waitList], fun _ => ⟨rfl, rfl⟩⟩
  | false =>
    let known := setUnread { s with perUserBuffers := s.perUserBuffers.erase count.1 } count.1
      ((s.perUserBuffers.getD count.1 []).foldl BufferedUpdate.replay count.2)
    have knownFrame : known = { s with
        usersCache := known.usersCache
        perUserBuffers := s.perUserBuffers.erase count.1 } := setUnread_frame _ _ _
    have released : Released known (completeRead heap false s count) count.1 :=
      releaseUser_released heap (tracked.congr (by rw [knownFrame])) count.1
    refine ⟨released.tracked, ?_, ?_, ?_, nofun⟩
    · rw [released.frame, knownFrame]
    · rw [released.frame, knownFrame]
      exact dropped
    · intro uid
      have lists : known.perUserPendingReceipts = s.perUserPendingReceipts := by rw [knownFrame]
      rw [released.frame]
      unfold Updater.waitList GoMap.getD
      rw [lists]
      simp only [List.mem_singleton, and_true]
      split
      · next same => rw [same, AList.lookup_erase, Option.getD_none]
      · next ne => rw [AList.lookup_erase_ne ne]

theorem foldl_completeRead_completed (err : Bool) (tracked : Tracked s)
    (counts : List (Sigma fun _ : Uid => Int)) :
    Completed err s (counts.foldl (completeRead heap err) s) (counts.map (·.1)) := by
  induction counts generalizing s with
  | nil => exact ⟨tracked, rfl, by simp, by simp, fun _ => ⟨rfl, rfl⟩⟩
  | cons count rest ih =>
    have first := completeRead_completed heap err tracked count
    have later := ih first.tracked
    refine ⟨later.tracked, later.reads.trans first.reads, ?_, ?_, ?_⟩
    · intro uid
      rw [List.foldl_cons, later.buffers, first.buffers, List.mem_singleton, List.map_cons,
        List.mem_cons, not_or, and_assoc]
    · intro uid
      rw [List.foldl_cons, later.waitList, first.waitList]
      split_ifs <;> simp_all
    · intro failed
      exact ⟨(later.failed failed).1.trans (first.failed failed).1,
        (later.failed failed).2.trans (first.failed failed).2⟩

/-- Every queued receipt waits for somebody. -/
def Waits (s : Updater P) : Prop := ∀ id ∈ s.receiptQueue, 0 < s.pendingIOs id

theorem Tracked.log (tracked : Tracked s) (known : id < s.received)
    (unqueued : id ∉ s.receiptQueue) (unpushed : ∀ p ∈ s.pushed, p.id ≠ id)
    (rcpt : Receipt Recipient P) :
    Tracked { s with pushed := s.pushed ++ [⟨id, 0, rcpt⟩] } := by
  have cases : ∀ p ∈ s.pushed ++ [⟨id, 0, rcpt⟩], p ∈ s.pushed ∨ p = ⟨id, 0, rcpt⟩ := by simp
  refine { tracked with once := ?once, ready := ?ready, pushedOld := ?pushedOld, apart := ?apart }
  case once =>
    rw [List.map_append]
    refine List.nodup_append.mpr ⟨tracked.once, List.nodup_singleton _, ?_⟩
    rintro a mem b single rfl
    obtain ⟨p, earlier, rfl⟩ := List.mem_map.mp mem
    exact unpushed p earlier (List.mem_singleton.mp single)
  case ready =>
    intro p mem
    rcases cases p mem with mem | rfl
    · exact tracked.ready p mem
    · rfl
  case pushedOld =>
    intro p mem
    rcases cases p mem with mem | rfl
    · exact tracked.pushedOld p mem
    · exact known
  case apart =>
    intro p mem
    rcases cases p mem with mem | rfl
    · exact tracked.apart p mem
    · exact unqueued

theorem Tracked.pop (tracked : Tracked s) (first : s.receiptQueue = id :: rest)
    (zero : s.pendingIOs id = 0) :
    Tracked { s with receiptQueue := heap.pop s.pendingIOs s.receiptQueue } := by
  have nowhere : ∀ uid, id ∉ s.waitList uid := by
    intro uid waits
    have pos := waiting_pos waits
    have counted := tracked.counted id (tracked.queued uid id waits)
    omega
  have perm : (heap.pop s.pendingIOs s.receiptQueue).Perm rest := by
    rw [first]
    exact heap.pop_perm _ _ _
  have kept : ∀ x ∈ heap.pop s.pendingIOs s.receiptQueue, x ∈ s.receiptQueue := by
    intro x mem
    rw [first]
    exact List.mem_cons_of_mem _ (perm.mem_iff.mp mem)
  exact
    { tracked with
      queued := by
        intro uid x waits
        have before : x ∈ s.receiptQueue := tracked.queued uid x waits
        rw [first] at before
        apply perm.mem_iff.mpr
        apply (List.mem_cons.mp before).resolve_left
        rintro rfl
        exact nowhere uid waits
      recorded := fun x mem => tracked.recorded x (kept x mem)
      counted := fun x mem => tracked.counted x (kept x mem)
      nodup := perm.nodup_iff.mpr (first ▸ tracked.nodup).of_cons
      old := fun x mem => tracked.old x (kept x mem)
      ordered := heap.pop_ordered _ _ tracked.ordered
      apart := fun p pushed queued => tracked.apart p pushed (kept _ queued) }

theorem pushFirst_tracked (tracked : Tracked s) (first : s.receiptQueue = id :: rest)
    (zero : s.pendingIOs id = 0) : Tracked (pushFirst heap s id) := by
  have queued : id ∈ s.receiptQueue := by rw [first]; exact List.mem_cons_self
  obtain ⟨pp, found⟩ :=
    Option.isSome_iff_exists.mp (AList.lookup_isSome.mpr (tracked.recorded id queued))
  have ready : pp.pendingIOs = 0 := by
    rw [Updater.pendingIOs, found] at zero
    exact zero
  have step : pushFirst heap s id = { s with
      receiptQueue := heap.pop s.pendingIOs s.receiptQueue
      pushed := s.pushed ++ [⟨id, 0, pp.rcpt.refresh s.usersCache⟩] } := by
    simp [pushFirst, found, ready]
  have gone : id ∉ heap.pop s.pendingIOs s.receiptQueue := by
    rw [first, (heap.pop_perm _ _ _).mem_iff]
    exact (List.nodup_cons.mp (first ▸ tracked.nodup)).1
  rw [step]
  exact (tracked.pop heap first zero).log (tracked.old id queued) gone
    (fun p pushed same => tracked.apart p pushed (same ▸ queued)) _

theorem sendReady_tracked (fuel : Nat) (tracked : Tracked s) :
    Tracked (sendReady heap fuel s) ∧
      sendReady heap fuel s = { s with
        receiptQueue := (sendReady heap fuel s).receiptQueue
        pushed := (sendReady heap fuel s).pushed } ∧
      (s.receiptQueue.length ≤ fuel → Waits (sendReady heap fuel s)) := by
  induction fuel generalizing s with
  | zero =>
    refine ⟨tracked, rfl, fun enough => ?_⟩
    have empty : s.receiptQueue = [] := List.length_eq_zero_iff.mp (Nat.le_zero.mp enough)
    intro id queued
    rw [sendReady, empty] at queued
    cases queued
  | succ fuel ih =>
    cases queue : s.receiptQueue with
    | nil =>
      have step : sendReady heap (fuel + 1) s = s := by simp [sendReady, queue]
      rw [step]
      refine ⟨tracked, rfl, fun _ id queued => ?_⟩
      rw [queue] at queued
      cases queued
    | cons id rest =>
      by_cases zero : s.pendingIOs id = 0
      · have step : sendReady heap (fuel + 1) s = sendReady heap fuel (pushFirst heap s id) := by
          simp [sendReady, queue, zero]
        obtain ⟨after, frame, waits⟩ := ih (pushFirst_tracked heap tracked queue zero)
        rw [step]
        refine ⟨after, ?_, fun enough => waits ?_⟩
        · rw [frame]
          rfl
        · have shorter : (pushFirst heap s id).receiptQueue.length = rest.length := by
            show (heap.pop _ s.receiptQueue).length = _
            rw [queue]
            exact (heap.pop_perm _ _ _).length_eq
          rw [List.length_cons] at enough
          omega
      · have step : sendReady heap (fuel + 1) s = s := by simp [sendReady, queue, zero]
        rw [step]
        refine ⟨tracked, rfl, fun _ x mem => ?_⟩
        have first : id ∈ s.receiptQueue := by rw [queue]; exact List.mem_cons_self
        have counted := tracked.counted id first
        have least := Heap.Ordered.first_le (queue ▸ tracked.ordered) x (queue ▸ mem)
        omega

theorem unreadUpdater_frame (s : Updater P) (updates : List (Uid × Int)) (inc : Bool) :
    (unreadUpdater s updates inc).1 = { s with
      usersCache := (unreadUpdater s updates inc).1.usersCache
      perUserBuffers := (unreadUpdater s updates inc).1.perUserBuffers
      reads := (unreadUpdater s updates inc).1.reads } := by
  have frame := (updateUnreadEach_updated inc s updates).frame
  unfold unreadUpdater
  dsimp only
  split
  · rw [frame]
  · rw [frame]

/-- What a request to push a receipt does: the counters are updated, and the receipt is pushed or
waits. -/
theorem handlePushRcpt_cases (s : Updater P) (rcpt : Receipt Recipient P) :
    ∃ rcpt', let updated := (unreadUpdater { s with received := s.received + 1 } rcpt.deltas true).1
      let users :=
        pendingUsers (unreadUpdater { s with received := s.received + 1 } rcpt.deltas true).2
      users.Nodup ∧
        handlePushRcpt heap s rcpt =
          if users = [] then { updated with pushed := s.pushed ++ [⟨s.received, 0, rcpt'⟩] }
          else awaitReads heap updated s.received users rcpt' := by
  refine ⟨(unreadUpdater { s with received := s.received + 1 } rcpt.deltas true).2.foldl
    Receipt.setUnread rcpt, ?_, ?_⟩
  · refine List.Nodup.sublist (List.filter_sublist.map _) ?_
    show ((updateUnreadEach _ _ _).2.1.map _).Nodup
    rw [updateUnreadEach_users]
    exact rcpt.deltas_nodup
  · have frame := unreadUpdater_frame { s with received := s.received + 1 } rcpt.deltas true
    unfold handlePushRcpt
    dsimp only
    congr 1
    rw [frame]

theorem handlePushRcpt_tracked (tracked : Tracked s) (waits : Waits s) (rcpt : Receipt Recipient P) :
    Tracked (handlePushRcpt heap s rcpt) ∧ Waits (handlePushRcpt heap s rcpt) := by
  obtain ⟨rcpt', nodup, handled⟩ := handlePushRcpt_cases heap s rcpt
  have frame := unreadUpdater_frame { s with received := s.received + 1 } rcpt.deltas true
  generalize (unreadUpdater { s with received := s.received + 1 } rcpt.deltas true).1 =
    updated at frame handled
  generalize pendingUsers (unreadUpdater { s with received := s.received + 1 } rcpt.deltas true).2 =
    users at nodup handled
  have counted : Tracked updated := by
    rw [frame]
    exact { tracked with
      old := fun id queued => Nat.lt_succ_of_lt (tracked.old id queued)
      pushedOld := fun p pushed => Nat.lt_succ_of_lt (tracked.pushedOld p pushed) }
  have received : updated.received = s.received + 1 := by rw [frame]
  have queue : updated.receiptQueue = s.receiptQueue := by rw [frame]
  have pushed : updated.pushed = s.pushed := by rw [frame]
  have pendingIOs : updated.pendingIOs = s.pendingIOs := by rw [frame]; rfl
  have new : s.received ∉ s.receiptQueue := fun queued => Nat.lt_irrefl _ (tracked.old _ queued)
  have unpushed : ∀ p ∈ updated.pushed, p.id ≠ s.received := by
    intro p mem same
    rw [pushed] at mem
    exact Nat.lt_irrefl _ (same ▸ tracked.pushedOld p mem)
  rw [handled]
  split
  · refine ⟨?_, ?_⟩
    · rw [← pushed]
      exact counted.log (received ▸ Nat.lt_succ_self _) (queue ▸ new) unpushed _
    · intro id queued
      rw [queue] at queued
      show 0 < updated.pendingIOs id
      rw [pendingIOs]
      exact waits id queued
  next nonempty =>
  refine ⟨awaitReads_tracked heap counted nodup (queue ▸ new) (received ▸ Nat.lt_succ_self _)
    unpushed, ?_⟩
  intro id queued
  have perm := heap.push_perm (awaitReads heap updated s.received users rcpt').pendingIOs
    updated.receiptQueue s.received
  have mem : id = s.received ∨ id ∈ updated.receiptQueue := List.mem_cons.mp (perm.mem_iff.mp queued)
  show 0 < ((updated.pendingReceipts.insert s.received _).lookup id).elim 0 _
  by_cases same : id = s.received
  · rw [same, AList.lookup_insert, Option.elim_some]
    exact Int.natCast_pos.mpr (List.length_pos_iff.mpr nonempty)
  · rw [AList.lookup_insert_ne same]
    show 0 < updated.pendingIOs id
    rw [pendingIOs]
    exact waits id (queue ▸ mem.resolve_left same)

/-- The users with a buffer are those whose counters are being read, each by one goroutine. -/
structure Reading (s : Updater P) : Prop where
  nodup : (s.reads.flatMap (·.uids)).Nodup
  answered : ∀ read ∈ s.reads, ∀ io, read.result = some io → io.counts.keys.Perm read.uids
  buffered : ∀ uid, uid ∈ s.perUserBuffers ↔ uid ∈ s.reads.flatMap (·.uids)

/-- Receipts wait only for users with a buffer. -/
def Watched (s : Updater P) : Prop := ∀ uid, s.waitList uid ≠ [] → uid ∈ s.perUserBuffers

theorem unreadUpdater_buffers (s : Updater P) (updates : List (Uid × Int)) (inc : Bool) :
    (unreadUpdater s updates inc).1.perUserBuffers =
    (updateUnreadEach inc s updates).1.perUserBuffers := by
  unfold unreadUpdater
  dsimp only
  split <;> rfl

theorem unreadUpdater_reading (reading : Reading s) (updates : List (Uid × Int)) (inc : Bool) :
    Reading (unreadUpdater s updates inc).1 := by
  have updated := updateUnreadEach_updated inc s updates
  have reads : (updateUnreadEach inc s updates).1.reads = s.reads := by rw [updated.frame]
  unfold unreadUpdater
  dsimp only
  split
  · next empty =>
    refine ⟨reads ▸ reading.nodup, reads ▸ reading.answered, fun uid => ?_⟩
    rw [updated.buffers, empty, reads, reading.buffered]
    simp
  · rw [reads]
    constructor
    · rw [List.flatMap_append]
      refine List.nodup_append.mpr ⟨reading.nodup, by simpa using updated.nodup, ?_⟩
      rintro uid earlier other new rfl
      have new : uid ∈ (updateUnreadEach inc s updates).2.2 := by simpa using new
      exact updated.fresh uid new ((reading.buffered uid).mpr earlier)
    · intro read mem io res
      rcases List.mem_append.mp mem with mem | single
      · exact reading.answered read mem io res
      · rw [List.mem_singleton.mp single] at res
        cases res
    · intro uid
      rw [updated.buffers, reading.buffered, List.flatMap_append]
      simp

theorem unreadUpdater_buffered {updates : List (Uid × Int)} {inc : Bool}
    (buffered : uid ∈ s.perUserBuffers) : uid ∈ (unreadUpdater s updates inc).1.perUserBuffers := by
  rw [unreadUpdater_buffers, (updateUnreadEach_updated inc s updates).buffers]
  exact .inl buffered

theorem unreadUpdater_watched (watched : Watched s) (updates : List (Uid × Int)) (inc : Bool) :
    Watched (unreadUpdater s updates inc).1 := by
  intro uid waits
  apply unreadUpdater_buffered
  apply watched uid
  rwa [unreadUpdater_frame s updates inc] at waits

theorem handlePushRcpt_watched (watched : Watched s) (rcpt : Receipt Recipient P) :
    Watched (handlePushRcpt heap s rcpt) := by
  obtain ⟨rcpt', nodup, handled⟩ := handlePushRcpt_cases heap s rcpt
  have updated : Watched (unreadUpdater { s with received := s.received + 1 } rcpt.deltas true).1 :=
    unreadUpdater_watched (s := { s with received := s.received + 1 }) watched _ _
  rw [handled]
  split
  · exact updated
  · intro uid waits
    show uid ∈ (unreadUpdater _ _ _).1.perUserBuffers
    rw [Updater.waitList, awaitReads, addWaiting_lookup _ _ nodup] at waits
    split at waits
    · next mem =>
      rw [unreadUpdater_buffers]
      exact updateUnreadEach_pending rcpt.deltas_nonneg mem
    · exact updated uid waits

theorem handlePushRcpt_reading (reading : Reading s) (rcpt : Receipt Recipient P) :
    Reading (handlePushRcpt heap s rcpt) := by
  obtain ⟨rcpt', -, handled⟩ := handlePushRcpt_cases heap s rcpt
  have updated := unreadUpdater_reading (s := { s with received := s.received + 1 })
    { reading with } rcpt.deltas true
  rw [handled]
  split <;> exact { updated with }

theorem answer_uids (read : UnreadRead) (res : IoResult) : (read.answer res).uids = read.uids := by
  unfold UnreadRead.answer
  split <;> rfl

theorem answer_answered {res : IoResult}
    (before : ∀ io, read.result = some io → io.counts.keys.Perm read.uids)
    (answered : (read.answer res).result = some io) : io.counts.keys.Perm read.uids := by
  unfold UnreadRead.answer at answered
  split at answered
  · next fits =>
    cases answered
    exact fits.2
  · exact before io answered

theorem answer_reading (reading : Reading s) (i : Nat) (res : IoResult) :
    Reading { s with reads := s.reads.modify i (·.answer res) } := by
  have same : (s.reads.modify i (·.answer res)).flatMap (·.uids) = s.reads.flatMap (·.uids) := by
    rw [List.flatMap_def, List.flatMap_def]
    congr 1
    apply List.ext_getElem?
    intro j
    rw [List.getElem?_map, List.getElem?_map, List.getElem?_modify]
    cases s.reads[j]? with
    | none => rfl
    | some read =>
      show some (if i = j then read.answer res else read).uids = some read.uids
      split
      · rw [answer_uids]
      · rfl
  refine ⟨same ▸ reading.nodup, ?_, same ▸ reading.buffered⟩
  intro read mem io answered
  obtain ⟨j, found⟩ := List.mem_iff_getElem?.mp mem
  rw [List.getElem?_modify] at found
  obtain ⟨old, stored, rfl⟩ := Option.map_eq_some_iff.mp found
  have before := reading.answered old (List.mem_iff_getElem?.mpr ⟨j, stored⟩)
  by_cases chosen : i = j
  · simp only [chosen, if_true, answer_uids] at answered ⊢
    exact answer_answered before answered
  · simp only [chosen, if_false] at answered ⊢
    exact before io answered

theorem reads_perm (found : s.reads[i]? = some read) :
    (read.uids ++ (s.reads.eraseIdx i).flatMap (·.uids)).Perm (s.reads.flatMap (·.uids)) := by
  obtain ⟨inside, rfl⟩ := List.getElem?_eq_some_iff.mp found
  exact (List.getElem_cons_eraseIdx_perm inside).flatMap_right (·.uids)

theorem handleIoDone_completed (tracked : Tracked s) (waits : Waits s) (io : IoResult) :
    Completed io.err s (handleIoDone heap s io) io.counts.keys ∧ Waits (handleIoDone heap s io) := by
  have completed := foldl_completeRead_completed heap io.err tracked io.counts.entries
  unfold handleIoDone
  dsimp only
  cases failed : io.err with
  | true =>
    rw [failed] at completed
    obtain ⟨queue, records⟩ := completed.failed rfl
    refine ⟨completed, fun id queued => ?_⟩
    simp only [if_true] at queued ⊢
    unfold Updater.pendingIOs
    rw [records]
    exact waits id (queue ▸ queued)
  | false =>
    rw [failed] at completed
    obtain ⟨after, frame, empty⟩ := sendReady_tracked heap
      (io.counts.entries.foldl (completeRead heap false) s).receiptQueue.length completed.tracked
    refine ⟨⟨after, ?_, ?_, ?_, nofun⟩, empty le_rfl⟩
    · rw [frame]
      exact completed.reads
    · rw [frame]
      exact completed.buffers
    · rw [frame]
      exact completed.waitList

/-- What holds in every run, whether reads fail or not. -/
structure Healthy (s : Updater P) : Prop where
  tracked : Tracked s
  waits : Waits s
  reading : Reading s

theorem healthy_init : Healthy ({} : Updater P) where
  tracked :=
    ⟨fun _ => List.nodup_nil, nofun, nofun, nofun, List.nodup_nil, nofun, Heap.ordered_nil _,
      List.nodup_nil,
    nofun, nofun, nofun⟩
  waits := nofun
  reading :=
    ⟨List.nodup_nil, nofun, fun uid => iff_of_false (AList.notMem_empty uid) List.not_mem_nil⟩

section

variable (healthy : Healthy s)
include healthy

theorem handleUpdate_healthy (upd : UserCacheReq Recipient P) :
    Healthy (handleUpdate heap s upd) := by
  unfold handleUpdate
  cases upd.pushRcpt with
  | some rcpt =>
    obtain ⟨tracked, waits⟩ := handlePushRcpt_tracked heap healthy.tracked healthy.waits rcpt
    exact ⟨tracked, waits, handlePushRcpt_reading heap healthy.reading rcpt⟩
  | none =>
    dsimp only
    split
    · exact ⟨healthy.tracked.congr rfl, healthy.waits, { healthy.reading with }⟩
    · split
      · exact ⟨healthy.tracked.congr rfl, healthy.waits, { healthy.reading with }⟩
      · have frame := unreadUpdater_frame s [(upd.userId, upd.unread)] upd.inc
        refine ⟨healthy.tracked.congr (by rw [frame]), ?_, unreadUpdater_reading healthy.reading _ _⟩
        rw [frame]
        exact healthy.waits

theorem ioDone_healthy (found : s.reads[i]? = some read) (res : read.result = some io) :
    Healthy (handleIoDone heap { s with reads := s.reads.eraseIdx i } io) := by
  obtain ⟨completed, waits⟩ :=
    handleIoDone_completed heap (s := { s with reads := s.reads.eraseIdx i })
    (healthy.tracked.congr rfl) healthy.waits io
  have perm := reads_perm found
  have nodup := perm.nodup_iff.mpr healthy.reading.nodup
  have answered := healthy.reading.answered read (List.mem_iff_getElem?.mpr ⟨i, found⟩) io res
  refine ⟨completed.tracked, waits, ?_, ?_, ?_⟩
  · rw [completed.reads]
    exact (List.nodup_append.mp nodup).2.1
  · intro other mem io'
    rw [completed.reads] at mem
    exact healthy.reading.answered other (List.mem_of_mem_eraseIdx mem) io'
  · intro uid
    rw [completed.buffers, completed.reads, answered.mem_iff]
    rw [healthy.reading.buffered, ← perm.mem_iff, List.mem_append]
    have disjoint := (List.nodup_append.mp nodup).2.2
    constructor
    · rintro ⟨own | other, notOwn⟩
      · exact absurd own notOwn
      · exact other
    · intro other
      exact ⟨.inr other, fun own => disjoint uid own uid other rfl⟩

theorem updaterStep_healthy (e : UpdaterEvent P) : Healthy (updaterStep heap s e) := by
  have flags {s' : Updater P}
      (frame : s' = { s with shuttingDown := s'.shuttingDown, exited := s'.exited }) :
      Healthy s' := by
    rw [frame]
    exact ⟨healthy.tracked.congr rfl, healthy.waits, { healthy.reading with }⟩
  cases e with
  | request upd =>
    simp only [updaterStep]
    split
    · exact healthy
    · exact handleUpdate_healthy heap healthy upd
  | exit =>
    simp only [updaterStep]
    split
    · exact healthy
    · exact flags rfl
  | shutDown => exact flags rfl
  | answer i res =>
    exact ⟨healthy.tracked.congr rfl, healthy.waits, answer_reading healthy.reading i res⟩
  | ioDone i =>
    simp only [updaterStep]
    split
    · exact healthy
    next io found =>
    split
    · exact healthy
    · obtain ⟨read, stored, res⟩ := Option.bind_eq_some_iff.mp found
      exact ioDone_healthy heap healthy stored res

theorem updaterStep_watched (watched : Watched s) {e : UpdaterEvent P} (careful : Careful s e) :
    Watched (updaterStep heap s e) := by
  cases e with
  | request upd =>
    simp only [updaterStep, handleUpdate]
    split
    · exact watched
    · cases upd.pushRcpt with
      | some rcpt => exact handlePushRcpt_watched heap watched rcpt
      | none =>
        dsimp only
        split
        · exact watched
        · split
          · exact watched
          · exact unreadUpdater_watched watched _ _
  | exit =>
    simp only [updaterStep]
    split <;> exact watched
  | shutDown
  | answer i res => exact watched
  | ioDone i =>
    simp only [updaterStep]
    split
    · exact watched
    next io found =>
    split
    · exact watched
    next running =>
    obtain ⟨read, stored, res⟩ := Option.bind_eq_some_iff.mp found
    obtain ⟨completed, -⟩ := handleIoDone_completed heap (s := { s with reads := s.reads.eraseIdx i })
      (healthy.tracked.congr rfl) healthy.waits io
    have answered := healthy.reading.answered read (List.mem_iff_getElem?.mpr ⟨i, stored⟩) io res
    intro uid waits
    rw [completed.waitList] at waits
    split at waits
    · exact absurd rfl waits
    next kept =>
    rw [completed.buffers]
    refine ⟨watched uid waits, fun own => kept ⟨own, ?_⟩⟩
    by_contra failed
    exact waits
      (careful (Bool.not_eq_true _ ▸ running) read io stored res (Bool.not_eq_false _ ▸ failed) uid
      (answered.mem_iff.mp own))

/-- A failed read of a user with receipts waiting leaves them without a read. -/
theorem careless_unsound {e : UpdaterEvent P} (careless : ¬ Careful s e) :
    ¬ Sound (updaterStep heap s e) := by
  cases e with
  | ioDone i =>
    simp only [Careful, not_forall] at careless
    obtain ⟨running, read, io, stored, res, failed, uid, own, waits⟩ := careless
    have step : updaterStep heap s (.ioDone i) =
        handleIoDone heap { s with reads := s.reads.eraseIdx i } io := by
      simp [updaterStep, stored, res, running]
    obtain ⟨completed, -⟩ := handleIoDone_completed heap (s := { s with reads := s.reads.eraseIdx i })
      (healthy.tracked.congr rfl) healthy.waits io
    intro sound
    rw [step] at sound
    have kept : (handleIoDone heap { s with reads := s.reads.eraseIdx i } io).waitList uid =
        s.waitList uid := by
      rw [completed.waitList, failed]
      simp [Updater.waitList]
    obtain ⟨other, mem, reads⟩ := sound.reading uid (kept ▸ waits)
    rw [completed.reads] at mem
    have nodup := (reads_perm stored).nodup_iff.mpr healthy.reading.nodup
    exact (List.nodup_append.mp nodup).2.2 uid own uid (List.mem_flatMap.mpr ⟨other, mem, reads⟩) rfl
  | request _ | exit | shutDown | answer _ _ => exact absurd trivial careless

theorem sound_of_watched (watched : Watched s) : Sound s where
  counted := healthy.tracked.counted
  reading uid waits := List.mem_flatMap.mp ((healthy.reading.buffered uid).mp (watched uid waits))
  once := healthy.tracked.once
  ready := healthy.tracked.ready

end

end Heap

/-- A run is sound throughout just when no read fails while receipts wait for one of its users. -/
theorem sound_iff (heap : Heap Nat) (events : List (UpdaterEvent P)) :
    (∀ before after, events = before ++ after → Sound (run (updaterStep heap) {} before)) ↔
      Guarded (updaterStep heap) Careful {} events := by
  have preserved : ∀ (s : Updater P) e, Healthy s ∧ Watched s → Careful s e →
      Healthy (updaterStep heap s e) ∧ Watched (updaterStep heap s e) := by
    intro s e both careful
    exact ⟨updaterStep_healthy heap both.1 e, updaterStep_watched heap both.1 both.2 careful⟩
  have implied : ∀ s : Updater P, Healthy s ∧ Watched s → Sound s :=
    fun s both => sound_of_watched both.1 both.2
  have shown : ∀ (s : Updater P) e, Healthy s ∧ Watched s → ¬ Careful s e →
      ¬ Sound (updaterStep heap s e) :=
    fun s e both careless => careless_unsound heap both.1 careless
  exact guarded_iff preserved implied shown ⟨healthy_init, fun uid waits => absurd rfl waits⟩ events

/-- A receipt for user 1. -/
def forUser : Receipt Recipient Unit where
  recipients := (∅ : GoMap Uid Recipient).insert 1 { shouldIncrementUnreadCountInCache := true }
  payload := ()

/-- User 1 is registered, a receipt for the user starts a read, and the read fails. -/
def failing : List (UpdaterEvent Unit) :=
  [.request { userIdList := [1], inc := true }, .request { pushRcpt := some forUser },
    .answer 0 ⟨(∅ : GoMap Uid Int).insert 1 0, true⟩, .ioDone 0]

theorem failed_read_strands_receipt :
    let s := run (updaterStep (Heap.sorted Nat)) {} failing
    s.waitList 1 = [0] ∧ s.receiptQueue = [0] ∧ s.reads.length = 0 ∧ s.pushed.length = 0 ∧
      ¬ Sound s := by
  have waits : (run (updaterStep (Heap.sorted Nat)) {} failing).waitList 1 = [0] := by decide +kernel
  have reads : (run (updaterStep (Heap.sorted Nat)) {} failing).reads.length = 0 := by decide +kernel
  refine ⟨waits, by decide +kernel, reads, by decide +kernel, ?_⟩
  intro sound
  obtain ⟨read, member, -⟩ := sound.reading 1 (by rw [waits]; exact List.cons_ne_nil _ _)
  cases member

end LastochkaServer.Guarantees.PendingReceipts
