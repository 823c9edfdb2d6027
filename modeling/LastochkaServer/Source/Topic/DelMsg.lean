import LastochkaServer.Source.Topic.State

/-!
# Deleting messages

`replyDelMsg` of `server/topic.go:3225-3345`, the handler of `{del what="msg"}`, with
`calculateUnreadInRanges` and `rangeDeserialize`.
-/

namespace LastochkaServer.Source

open Lib

/-- The fields of `{del}` that the handler reads. -/
structure MsgClientDel where
  delSeq : List MsgRange
  hard : Bool := false

def defaultMaxDeleteCount : Int := 1024

/-- The check of one entry of the list. -/
def invalidEntry (lastID : Int) (dq : MsgRange) : Bool :=
  dq.lowId > lastID || dq.lowId < 0 || dq.hiId < 0 || (dq.hiId > 0 && dq.lowId > dq.hiId) ||
    (dq.lowId == 0 && dq.hiId == 0)

/-- An entry cut at the last message and brought to the stored form. -/
def clip (lastID : Int) (dq : MsgRange) : Range :=
  if dq.hiId > lastID then ⟨dq.lowId, lastID + 1⟩
  else if dq.lowId = dq.hiId ∨ dq.lowId + 1 = dq.hiId then ⟨dq.lowId, 0⟩
  else ⟨dq.lowId, dq.hiId⟩

/-- What an entry adds to the count of messages to delete. -/
def Range.count (r : Range) : Int :=
  if r.hi = 0 then 1 else r.hi - r.low

/-- The clipped and sorted ranges that `Normalize` is applied to. -/
def sortedRanges (lastID : Int) (delSeq : List MsgRange) : List Range :=
  Range.sort (delSeq.map (clip lastID))

/-- The ranges to delete, or why the list is refused. The loop stops at the first invalid entry;
the limit on the number of messages is checked on what was read until then. -/
def delMsgRanges (lastID : Int) (delSeq : List MsgRange) : Except String (List Range) :=
  if delSeq.isEmpty then .error "del.msg: no IDs to delete"
  else
    let valid := delSeq.takeWhile fun dq => !invalidEntry lastID dq
    let complete := valid.length = delSeq.length
    let count := ((valid.map (clip lastID)).map Range.count).sum
    let ranges :=
      if complete then Range.normalize (sortedRanges lastID delSeq) else valid.map (clip lastID)
    if count > defaultMaxDeleteCount ∧ ranges.length > 1 then
      .error "del.msg: too many messages to delete"
    else if complete then .ok ranges
    else .error "del.msg: invalid entry in list"

def rangeDeserialize (ranges : List Range) : List MsgRange :=
  ranges.map fun r => ⟨r.low, r.hi⟩

/-- How many of the messages a user has not read lie in the ranges. -/
def calculateUnreadInRanges (readID lastID : Int) (ranges : List Range) : Int :=
  if readID ≥ lastID then 0
  else
    ranges.foldl (fun count r =>
      let rangeEnd := if r.hi = 0 then r.low + 1 else r.hi
      if rangeEnd ≤ readID then count
      else
        let intersectionStart := max (readID + 1) r.low
        let intersectionEnd := min (lastID + 1) rangeEnd
        if intersectionStart < intersectionEnd then count + (intersectionEnd - intersectionStart)
        else count) 0

/-- The update of one cached user by a hard deletion. -/
def hardDeleteFor (delID : Int) (ranges : List Range) (w : World) (uid : Uid) : World :=
  let pud := { w.topic.pud uid with delID := delID }
  let w := { w with topic := w.topic.setPud uid pud }
  let unreadDeleted := calculateUnreadInRanges pud.readID w.topic.lastID ranges
  if pud.mode.isReader ∧ unreadDeleted > 0 then w.emit (.usersUpdateUnread uid (-unreadDeleted))
  else w

/-- The part of `replyDelMsg` after the store has deleted the messages. -/
def confirmDeletion (w : World) (sid : String) (asUid : Uid) (hard : Bool) (ranges : List Range) :
    World :=
  let delID := w.topic.delID + 1
  let w := { w with topic := { w.topic with delID := delID } }
  let w :=
    if hard then w.topic.perUser.keys.foldl (hardDeleteFor delID ranges) w
    else { w with topic := w.topic.setPud asUid { w.topic.pud asUid with delID := delID } }
  let w := w.emit (.presDel (if hard then 0 else asUid) delID (rangeDeserialize ranges) sid)
  w.emit (.queueOut sid .noErrParams)

/-- `replyDelMsg`. `deleteFails` is the outcome of `DeleteList`. -/
def replyDelMsg (deleteFails : Bool) (w : World) (sid : String) (asUid : Uid) (asChan : Bool)
    (del : MsgClientDel) : World × Except String Unit :=
  let mode := (w.topic.pud asUid).mode
  if asChan then
    (w.emit (.queueOut sid .errOperationNotAllowed), .error "channel readers cannot delete messages")
  else if !mode.isDeleter && !mode.isReader then
    (w.emit (.queueOut sid .errPermissionDenied), .error "del.msg: permission denied")
  else
    -- a user with no D permission is silently switched to deleting for oneself
    let hard := del.hard && mode.isDeleter
    match delMsgRanges w.topic.lastID del.delSeq with
    | .error text => (w.emit (.queueOut sid .errMalformed), .error text)
    | .ok ranges =>
      if deleteFails then (w.emit (.queueOut sid .errUnknown), .error "store failure")
      else
        let order := Effect.deleteList (w.topic.delID + 1) (if hard then 0 else asUid) hard ranges
        (confirmDeletion (w.emit order) sid asUid hard ranges, .ok ())

/-- The ranges handed to the store. -/
def Effect.deleted : Effect → Option (List Range)
  | .deleteList _ _ _ ranges => some ranges
  | _ => none

/-- The ranges announced to subscribers, in their stored form. -/
def Effect.announced : Effect → Option (List Range)
  | .presDel _ _ delSeq _ => some (delSeq.map fun q => ⟨q.lowId, q.hiId⟩)
  | _ => none

theorem hardDeleteFor_out (delID : Int) (ranges : List Range) (w : World) (uid : Uid) :
    (hardDeleteFor delID ranges w uid).out.filterMap Effect.deleted =
        w.out.filterMap Effect.deleted ∧
      (hardDeleteFor delID ranges w uid).out.filterMap Effect.announced =
        w.out.filterMap Effect.announced := by
  unfold hardDeleteFor
  dsimp only
  split_ifs
  · simp [World.emit, Effect.deleted, Effect.announced]
  · exact ⟨rfl, rfl⟩

theorem hardDelete_out (delID : Int) (ranges : List Range) (uids : List Uid) (w : World) :
    (uids.foldl (hardDeleteFor delID ranges) w).out.filterMap Effect.deleted =
        w.out.filterMap Effect.deleted ∧
      (uids.foldl (hardDeleteFor delID ranges) w).out.filterMap Effect.announced =
        w.out.filterMap Effect.announced := by
  induction uids generalizing w with
  | nil => exact ⟨rfl, rfl⟩
  | cons uid rest ih =>
    obtain ⟨deleted, announced⟩ := ih (hardDeleteFor delID ranges w uid)
    obtain ⟨deleted', announced'⟩ := hardDeleteFor_out delID ranges w uid
    exact ⟨deleted.trans deleted', announced.trans announced'⟩

theorem confirmDeletion_out (w : World) (sid : String) (asUid : Uid) (hard : Bool)
    (ranges : List Range) :
    (confirmDeletion w sid asUid hard ranges).out.filterMap Effect.deleted =
        w.out.filterMap Effect.deleted ∧
      (confirmDeletion w sid asUid hard ranges).out.filterMap Effect.announced =
        w.out.filterMap Effect.announced ++ [ranges] := by
  have roundTrip : (rangeDeserialize ranges).map (fun q => (⟨q.lowId, q.hiId⟩ : Range)) = ranges := by
    simp [rangeDeserialize, Function.comp_def]
  cases hard with
  | true =>
    simp [confirmDeletion, World.emit, Effect.deleted, Effect.announced, roundTrip, hardDelete_out]
  | false => simp [confirmDeletion, World.emit, Effect.deleted, Effect.announced, roundTrip]

theorem replyDelMsg_ok {deleteFails asChan : Bool} {w w' : World} {sid : String} {asUid : Uid}
    {del : MsgClientDel} (accepted : replyDelMsg deleteFails w sid asUid asChan del = (w', .ok ())) :
    ∃ ranges, delMsgRanges w.topic.lastID del.delSeq = .ok ranges ∧
      w'.out.filterMap Effect.deleted = w.out.filterMap Effect.deleted ++ [ranges] ∧
      w'.out.filterMap Effect.announced = w.out.filterMap Effect.announced ++ [ranges] := by
  unfold replyDelMsg at accepted
  dsimp only at accepted
  split at accepted
  · simp at accepted
  · split at accepted
    · simp at accepted
    · split at accepted
      · simp at accepted
      next ranges parsed =>
      split at accepted
      · simp at accepted
      · simp only [Prod.mk.injEq, and_true] at accepted
        subst accepted
        refine ⟨ranges, parsed, ?_⟩
        simp [confirmDeletion_out, World.emit, Effect.deleted, Effect.announced]

theorem delMsgRanges_ok {lastID : Int} {delSeq : List MsgRange} {ranges : List Range}
    (accepted : delMsgRanges lastID delSeq = .ok ranges) :
    (∀ dq ∈ delSeq, invalidEntry lastID dq = false) ∧
      ranges = Range.normalize (sortedRanges lastID delSeq) := by
  unfold delMsgRanges at accepted
  split at accepted
  · cases accepted
  by_cases complete :
    (delSeq.takeWhile fun dq => !invalidEntry lastID dq).length = delSeq.length
  · simp only [complete, if_true] at accepted
    split at accepted
    · cases accepted
    · refine ⟨?_, (Except.ok.inj accepted).symm⟩
      have whole := (List.takeWhile_prefix fun dq => !invalidEntry lastID dq).eq_of_length complete
      intro dq mem
      simpa using List.takeWhile_eq_self_iff.mp whole dq mem
  · simp only [complete, if_false] at accepted
    split at accepted <;> cases accepted

end LastochkaServer.Source
