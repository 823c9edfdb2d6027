import LastochkaServer.Source.Topic.BookedSessions
import LastochkaServer.Source.UserUpdater

/-!
# The topics of a node and the cache of users

A node without a cluster: the loaded topics, each with its sessions (`server/topic.go`), the queue
`usersUpdate`, and the goroutine that owns the cache of users (`server/user.go:1032-1449`). A topic
registers its users when it is loaded (`server/init_topic.go:121`), takes them out when it is
unloaded (`server/topic.go:564`), and registers and unregisters single users in between. No request
is dropped.

Left out: `usersRemoveUser`, which is sent when an account is deleted, and the end of the server.
-/

namespace LastochkaServer.Source

open Lib

/-- A topic as it is initialised: nobody has left it, and readers are not cached
(`server/init_topic.go`). -/
structure LoadedTopic where
  world : World
  subscribers : ∀ uid pud, world.topic.perUser.lookup uid = some pud → pud.isChan = false ∧
    pud.deleted = false
  channel : world.topic.isChan → world.topic.cat = .grp

structure Node (P : Type) where
  topics : GoMap String Service := ∅
  /-- `globals.usersUpdate`, the oldest request first. -/
  queue : List (UserCacheReq Recipient P) := []
  updater : Updater P := {}

inductive NodeEvent (P : Type)
  | load (name : String) (t : LoadedTopic)
  | unload (name : String)
  /-- Something happens to a loaded topic and its sessions; `fail` says which store calls fail. -/
  | attend (name : String) (fail : Faults) (e : SessionEvent)
  /-- A request about unread counters or push notifications. -/
  | request (upd : UserCacheReq Recipient P) (others : upd.userIdList = []) (kept : upd.gone = false)
  /-- The oldest request is taken from the queue. -/
  | update
  /-- The database answers a goroutine that reads counters. -/
  | answer (read : Nat) (result : IoResult)
  /-- The answer of a goroutine is received. -/
  | ioDone (read : Nat)

section Requests

variable {P : Type} (net : Clustering.FailoverConfig)

/-- The request that a report of a topic is sent as. -/
def Report.request : Report → Option (UserCacheReq Recipient P)
  | .unread uid val => (usersUpdateUnread net none [] uid val true).queued
  | .register uid add => (usersRegisterUser net none [] uid add).queued

/-- The requests that a topic sends when it is loaded or unloaded. -/
def topicRequests (t : Topic) (add : Bool) : List (UserCacheReq Recipient P) :=
  (usersRegisterTopic net none [] t add).queued.toList

end Requests

/-- Forget what has been sent so far. -/
def Service.silent (v : Service) : Service := { v with world := { v.world with out := [] } }

/-- `leave` of `server/session.go:650-670` refuses to unsubscribe from `me` and `fnd`. -/
def SessionEvent.refused (t : Topic) : SessionEvent → Bool
  | .leave _ _ _ unsub _ => unsub && (t.cat == .me || t.cat == .fnd)
  | _ => false

section Steps

variable {P : Type} (cfg : Config) (net : Clustering.FailoverConfig) (heap : Heap Nat)

def nodeStep (s : Node P) : NodeEvent P → Node P
  | .load name t =>
    if name ∈ s.topics then s
    else { s with
      topics := s.topics.insert name { world := t.world }
      queue := s.queue ++ topicRequests net t.world.topic true }
  | .unload name =>
    match s.topics.lookup name with
    | none => s
    | some v => { s with
      topics := s.topics.erase name
      queue := s.queue ++ topicRequests net v.world.topic false }
  | .attend name fail e =>
    match s.topics.lookup name with
    | none => s
    | some v =>
      if e.refused v.world.topic then s
      else
        let v := attend cfg fail v.silent e
        { s with
          topics := s.topics.insert name v
          queue := s.queue ++ v.world.books.reports.filterMap (Report.request net) }
  | .request upd _ _ => { s with queue := s.queue ++ [upd] }
  | .update =>
    match s.queue with
    | [] => s
    | upd :: rest => { s with queue := rest, updater := handleUpdate heap s.updater upd }
  | .answer i result =>
    { s with updater := { s.updater with reads := s.updater.reads.modify i (·.answer result) } }
  | .ioDone i =>
    match s.updater.reads[i]?.bind (·.result) with
    | none => s
    | some io =>
      { s with
        updater := handleIoDone heap { s.updater with reads := s.updater.reads.eraseIdx i } io }

end Steps

section References

variable {P : Type} {heap : Heap Nat}

/-- `usersCache[uid].topics`, where the user is in the cache. -/
def Updater.references (s : Updater P) (uid : Uid) : Option Int :=
  (s.usersCache.lookup uid).map (·.topics)

/-- The reference counts of users who are registered `n` times. -/
def referencesOf (n : Uid → Nat) (uid : Uid) : Option Int := if n uid = 0 then none else some (n uid)

/-- How often a user is registered after another registration or its opposite. -/
def register (add : Bool) (n : Uid → Nat) (uid : Uid) : Uid → Nat :=
  Function.update n uid (bif add then n uid + 1 else n uid - 1)

/-- How often users are registered after a request. -/
def UserCacheReq.registered (n : Uid → Nat) (upd : UserCacheReq Recipient P) : Uid → Nat :=
  if upd.pushRcpt.isSome then n else upd.userIdList.foldl (register upd.inc) n

theorem references_insert {s : Updater P} {uid : Uid} {entry : UserCacheEntry} {n : Int}
    (known : s.references uid = some n) (same : entry.topics = n) :
    ({ s with usersCache := s.usersCache.insert uid entry } : Updater P).references =
    s.references := by
  funext other
  unfold Updater.references at known ⊢
  by_cases at_uid : other = uid
  · subst at_uid
    rw [known]
    simp [same]
  · simp [AList.lookup_insert_ne at_uid]

variable (s : Updater P)

theorem updateUnreadOf_references (uid : Uid) (val : Int) (inc : Bool) :
    (updateUnreadOf s uid val inc).1.references = s.references := by
  unfold updateUnreadOf
  cases found : s.usersCache.lookup uid with
  | none => rfl
  | some uce =>
    dsimp only
    split
    · split <;> rfl
    · exact references_insert (by rw [Updater.references, found]; rfl) rfl

theorem updateUnreadEach_references (inc : Bool) (s : Updater P) (updates : List (Uid × Int)) :
    (updateUnreadEach inc s updates).1.references = s.references := by
  induction updates generalizing s with
  | nil => rfl
  | cons update rest ih => exact (ih _).trans (updateUnreadOf_references s update.1 update.2 inc)

theorem unreadUpdater_references (updates : List (Uid × Int)) (inc : Bool) :
    (unreadUpdater s updates inc).1.references = s.references := by
  have each := updateUnreadEach_references inc s updates
  simp only [unreadUpdater]
  split
  · exact each
  · exact each

theorem handlePushRcpt_references (rcpt : Receipt Recipient P) :
    (handlePushRcpt heap s rcpt).references = s.references := by
  have updated := unreadUpdater_references { s with received := s.received + 1 } rcpt.deltas true
  simp only [handlePushRcpt]
  split
  · exact updated
  · exact updated

theorem registerUser_references (add : Bool) {cache : GoMap Uid UserCacheEntry}
    {n : Uid → Nat} (uid : Uid)
    (counted : ∀ other, (cache.lookup other).map (·.topics) = referencesOf n other) (other : Uid) :
    ((registerUser add cache uid).lookup other).map (·.topics) =
    referencesOf (register add n uid) other := by
  have own := counted uid
  have rest (same : other ≠ uid) :
      referencesOf (register add n uid) other = referencesOf n other := by
    simp [referencesOf, register, same]
  unfold registerUser
  by_cases same : other = uid
  · subst same
    simp only [referencesOf, register, Function.update_self] at own ⊢
    cases found : cache.lookup other with
    | none =>
      have zero : n other = 0 := by
        by_contra pos
        simp [found, pos] at own
      cases add <;> simp [zero, found]
    | some uce =>
      have pos : n other ≠ 0 := by
        intro zero
        simp [found, zero] at own
      have topics : uce.topics = n other := by simpa [found, pos] using own
      cases add with
      | true =>
        simp [topics]
      | false =>
        simp only [Bool.false_eq_true, if_false, cond_false]
        split
        · next more =>
          have left : n other - 1 ≠ 0 := by omega
          simp only [topics, AList.lookup_insert, Option.map_some, left, if_false, Option.some.injEq]
          omega
        · have last : n other - 1 = 0 := by omega
          simp [last]
  · rw [rest same, ← counted other]
    cases cache.lookup uid with
    | none => cases add <;> simp [AList.lookup_insert_ne same]
    | some uce =>
      cases add with
      | true => simp [AList.lookup_insert_ne same]
      | false =>
        simp only [Bool.false_eq_true, if_false]
        split
        · simp [AList.lookup_insert_ne same]
        · simp [AList.lookup_erase_ne same]

/-- A request changes the reference counts as `registered` says. -/
theorem handleUpdate_references {s : Updater P} {n : Uid → Nat} (upd : UserCacheReq Recipient P)
    (kept : upd.gone = false)
    (counted : s.references = referencesOf n) :
    (handleUpdate heap s upd).references = referencesOf (upd.registered n) := by
  unfold handleUpdate UserCacheReq.registered
  cases upd.pushRcpt with
  | some rcpt => exact (handlePushRcpt_references s rcpt).trans counted
  | none =>
    simp only [Option.isSome_none, Bool.false_eq_true, if_false, kept]
    split
    · have folded (users : List Uid) (cache : GoMap Uid UserCacheEntry) (n : Uid → Nat)
          (counted : ∀ other, (cache.lookup other).map (·.topics) = referencesOf n other)
          (other : Uid) :
          ((users.foldl (registerUser upd.inc) cache).lookup other).map (·.topics) =
            referencesOf (users.foldl (register upd.inc) n) other := by
        induction users generalizing cache n with
        | nil => exact counted other
        | cons uid rest ih => exact ih _ _ (registerUser_references upd.inc uid counted)
      funext other
      exact folded upd.userIdList s.usersCache n (fun other => congrFun counted other) other
    · next empty =>
      have empty : upd.userIdList = [] := not_not.mp empty
      rw [empty]
      exact (unreadUpdater_references ..).trans counted

theorem completeRead_references (err : Bool) (s : Updater P) (count : Sigma fun _ : Uid => Int) :
    (completeRead heap err s count).references = s.references := by
  have released (ids : List Nat) (s : Updater P) :
      (ids.foldl (countDown heap) s).references = s.references := by
    induction ids generalizing s with
    | nil => rfl
    | cons id rest ih =>
      refine (ih _).trans ?_
      unfold countDown
      split <;> rfl
  unfold completeRead
  split
  · rfl
  · refine (released _ _).trans ?_
    unfold setUnread
    split
    · next uce found =>
      exact references_insert (s := { s with perUserBuffers := s.perUserBuffers.erase count.1 })
        (by rw [Updater.references, found]; rfl) rfl
    · rfl

theorem handleIoDone_references (io : IoResult) :
    (handleIoDone heap s io).references = s.references := by
  have read (counts : List (Sigma fun _ : Uid => Int)) (s : Updater P) :
      (counts.foldl (completeRead heap io.err) s).references = s.references := by
    induction counts generalizing s with
    | nil => rfl
    | cons count rest ih => exact (ih _).trans (completeRead_references io.err s count)
  have sent (fuel : Nat) (s : Updater P) : (sendReady heap fuel s).references = s.references := by
    induction fuel generalizing s with
    | zero => rfl
    | succ fuel ih =>
      unfold sendReady
      split
      · rfl
      · split
        · exact ih _
        · rfl
  unfold handleIoDone
  split
  · exact read ..
  · exact (sent _ _).trans (read ..)

end References

end LastochkaServer.Source
