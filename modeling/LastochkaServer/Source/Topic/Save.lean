import LastochkaServer.Lib.Except
import LastochkaServer.Source.Topic.State

/-!
# Saving messages

`messagesMapper.Save` of `server/store/store.go:745-791` with the four adapter calls that it makes
(`server/db/postgres/adapter.go:2123-2131, 2658-2675, 3571-3641`): the topic's counter, the message,
the sender's read marks and the links to attached files. Each call may fail on its own, and what
the earlier calls have written stays.

The table of messages rejects a second row with the same number in a topic, and the table of links
rejects a file that does not exist.
-/

namespace LastochkaServer.Source

open Lib

variable {faults : SaveFaults} {s s' : Store} {m : Message} {media : Option MediaHandler}
  {urls : List String} {read : Bool}

/-- Which of the calls fail. -/
structure SaveFaults where
  topicUpdate : Bool := false
  messageSave : Bool := false
  subsUpdate : Bool := false
  fileLink : Bool := false
  deriving DecidableEq, Repr

/-- `mediaHandler.GetIdFromUrl`; `none` for a URL that names no file. -/
abbrev MediaHandler := String → Option FileId

namespace Store

/-- `TopicUpdateOnMessage` and `MessageSave`; the result says whether both have succeeded. -/
def insertMessage (faults : SaveFaults) (s : Store) (m : Message) : Store × Bool :=
  if faults.topicUpdate then (s, false)
  else
    let s := { s with seqId := m.seqId }
    if faults.messageSave || s.messages.any fun m' => m'.seqId == m.seqId then (s, false)
    else ({ s with messages := s.messages ++ [m] }, true)

/-- `SubsUpdate`: the sender has read the message. -/
def markRead (faults : SaveFaults) (s : Store) (m : Message) (readBySender : Bool) : Store × Bool :=
  if readBySender ∧ m.sender ≠ 0 ∧ !faults.subsUpdate then
    let store := s.updateSub .topic m.sender fun sub =>
      { sub with recvSeqId := m.seqId, readSeqId := m.seqId }
    (store, true)
  else (s, false)

/-- `FileLinkAttachments`, for URLs that name files. Without a media handler the source
dereferences a nil interface. -/
def linkAttachments (media : Option MediaHandler) (faults : SaveFaults) (s : Store) (m : Message)
    (attachmentURLs : List String) : Exec (Store × Bool) :=
  if attachmentURLs = [] then .ok (s, true)
  else
    match media with
    | none => .error .nilDereference
    | some getIdFromUrl =>
      let attachments := attachmentURLs.filterMap getIdFromUrl
      if attachments = [] then .ok (s, true)
      else if faults.fileLink || !attachments.all (s.files.contains ·) then .ok (s, false)
      else
        .ok ({ s with fileLinks := s.fileLinks ++ attachments.map fun fid => (m.seqId, fid) }, true)

/-- `Save`: whether the message has been marked as read by its sender, `none` for an error. -/
def save (media : Option MediaHandler) (faults : SaveFaults) (s : Store) (m : Message)
    (attachmentURLs : List String) (readBySender : Bool) : Exec (Store × Option Bool) :=
  match s.insertMessage faults m with
  | (s, false) => .ok (s, none)
  | (s, true) => do
    let (s, marked) := s.markRead faults m readBySender
    let (s, linked) ← s.linkAttachments media faults m attachmentURLs
    return (s, if linked then some marked else none)

@[simp] theorem updateSub_messages (s : Store) (name : Addressing) (uid : Uid)
    (update : Subscription → Subscription) : (s.updateSub name uid update).messages = s.messages := by
  unfold updateSub
  split <;> rfl

@[simp] theorem updateSub_files (s : Store) (name : Addressing) (uid : Uid)
    (update : Subscription → Subscription) : (s.updateSub name uid update).files = s.files := by
  unfold updateSub
  split <;> rfl

@[simp] theorem markRead_messages (faults : SaveFaults) (s : Store) (m : Message) (read : Bool) :
    (s.markRead faults m read).1.messages = s.messages := by
  unfold markRead
  split_ifs <;> simp

@[simp] theorem markRead_files (faults : SaveFaults) (s : Store) (m : Message) (read : Bool) :
    (s.markRead faults m read).1.files = s.files := by
  unfold markRead
  split_ifs <;> simp

theorem linkAttachments_links {linked : Bool}
    (ran : s.linkAttachments media faults m urls = .ok (s', linked)) :
    ∃ links, s' = { s with fileLinks := links } := by
  unfold linkAttachments at ran
  split at ran
  · cases ran
    exact ⟨s.fileLinks, rfl⟩
  split at ran
  · cases ran
  dsimp only at ran
  split at ran
  · cases ran
    exact ⟨s.fileLinks, rfl⟩
  split at ran
  · cases ran
    exact ⟨s.fileLinks, rfl⟩
  · cases ran
    exact ⟨_, rfl⟩

/-- The two calls that write the message succeed. -/
def Insertable (s : Store) (faults : SaveFaults) (seqId : Int) : Prop :=
  faults.topicUpdate = false ∧ faults.messageSave = false ∧ ∀ m ∈ s.messages, m.seqId ≠ seqId
  deriving Decidable

/-- The attached files can be linked: there are none, or they exist and the call does not fail. -/
def Linkable (media : Option MediaHandler) (faults : SaveFaults) (s : Store) (urls : List String) :
    Prop :=
  urls = [] ∨ ∃ getIdFromUrl, media = some getIdFromUrl ∧
    (urls.filterMap getIdFromUrl = [] ∨
      faults.fileLink = false ∧ ∀ fid ∈ urls.filterMap getIdFromUrl, fid ∈ s.files)

instance (media : Option MediaHandler) (faults : SaveFaults) (s : Store) (urls : List String) :
    Decidable (Linkable media faults s urls) :=
  match media with
  | none => decidable_of_iff (urls = []) ⟨.inl, fun h => h.resolve_right (by simp)⟩
  | some getIdFromUrl =>
    have : Decidable (∀ fid ∈ urls.filterMap getIdFromUrl, fid ∈ s.files) := List.decidableBAll _ _
    decidable_of_iff (urls = [] ∨ urls.filterMap getIdFromUrl = [] ∨
        faults.fileLink = false ∧ ∀ fid ∈ urls.filterMap getIdFromUrl, fid ∈ s.files) (by
      simp [Linkable])

theorem insertMessage_of_insertable (insertable : s.Insertable faults m.seqId) :
    s.insertMessage faults m =
      ({ s with seqId := m.seqId, messages := s.messages ++ [m] }, true) := by
  obtain ⟨topicUpdate, messageSave, fresh⟩ := insertable
  have unused : (s.messages.any fun m' => m'.seqId == m.seqId) = false := by
    simpa [List.any_eq_false] using fresh
  simp [insertMessage, topicUpdate, messageSave, unused]

theorem insertMessage_of_not_insertable (rejected : ¬ s.Insertable faults m.seqId) :
    ∃ seqId, s.insertMessage faults m = ({ s with seqId := seqId }, false) := by
  unfold insertMessage
  dsimp only
  split_ifs with topicUpdate rejected'
  · exact ⟨s.seqId, rfl⟩
  · exact ⟨m.seqId, rfl⟩
  · refine absurd ?_ rejected
    simp only [Bool.or_eq_true, not_or, Bool.not_eq_true, List.any_eq_false, beq_iff_eq] at rejected'
    exact ⟨Bool.not_eq_true _ ▸ topicUpdate, rejected'.1, rejected'.2⟩

theorem linkAttachments_ok (linkable : Linkable media faults s urls) :
    ∃ s', s.linkAttachments media faults m urls = .ok (s', true) := by
  unfold linkAttachments
  split_ifs with none
  · exact ⟨s, rfl⟩
  obtain ⟨getIdFromUrl, rfl, known⟩ := linkable.resolve_left none
  dsimp only
  split_ifs with empty failed
  · exact ⟨s, rfl⟩
  · obtain ⟨works, exist⟩ := known.resolve_left empty
    simp only [works, Bool.false_or, Bool.not_eq_true', List.all_eq_false,
      List.contains_iff_mem] at failed
    obtain ⟨fid, named, missing⟩ := failed
    exact absurd (exist fid named) missing
  · exact ⟨_, rfl⟩

theorem save_ok (read : Bool) (insertable : s.Insertable faults m.seqId)
    (linkable : Linkable media faults s urls) :
    ∃ s' marked, s.save media faults m urls read = .ok (s', some marked) ∧
      s'.messages = s.messages ++ [m] := by
  let inserted : Store := { s with seqId := m.seqId, messages := s.messages ++ [m] }
  have linkable' : Linkable media faults (inserted.markRead faults m read).1 urls := by
    unfold Linkable
    rw [markRead_files]
    exact linkable
  obtain ⟨s', linked⟩ := linkAttachments_ok (m := m) linkable'
  refine ⟨s', (inserted.markRead faults m read).2, ?_, ?_⟩
  · unfold save
    rw [insertMessage_of_insertable insertable]
    dsimp only
    rw [linked]
    rfl
  · obtain ⟨links, rfl⟩ := linkAttachments_links linked
    exact markRead_messages ..

theorem save_rejected (media : Option MediaHandler) (urls : List String) (read : Bool)
    (rejected : ¬ s.Insertable faults m.seqId) :
    ∃ seqId, s.save media faults m urls read = .ok ({ s with seqId := seqId }, none) := by
  obtain ⟨seqId, failed⟩ := insertMessage_of_not_insertable rejected
  refine ⟨seqId, ?_⟩
  unfold save
  rw [failed]

/-- The store after the calls that write the message and the marks, with any links. -/
def saved (s : Store) (faults : SaveFaults) (m : Message) (read : Bool)
    (links : List (Int × FileId)) : Store :=
  let inserted : Store := { s with seqId := m.seqId, messages := s.messages ++ [m] }
  { (inserted.markRead faults m read).1 with fileLinks := links }

/-- What `Save` does: the message cannot be inserted, or it is, and then only the links may be
missing. -/
theorem save_effect {res : Option Bool} (ran : s.save media faults m urls read = .ok (s', res)) :
    (¬ s.Insertable faults m.seqId ∧ res = none ∧
      ∃ seqId ∈ [s.seqId, m.seqId], s' = { s with seqId := seqId }) ∨
      s.Insertable faults m.seqId ∧ (∃ links, s' = s.saved faults m read links) ∧
        (res = none → ¬ Linkable media faults s urls) := by
  by_cases insertable : s.Insertable faults m.seqId
  · right
    unfold save at ran
    rw [insertMessage_of_insertable insertable] at ran
    dsimp only at ran
    obtain ⟨⟨written, linked⟩, done, ran⟩ := bind_ok ran
    cases ran
    refine ⟨insertable, linkAttachments_links done, fun unlinked linkable => ?_⟩
    have linkable' : Linkable media faults
        (({ s with seqId := m.seqId, messages := s.messages ++ [m] } : Store).markRead faults m
          read).1 urls := by
      unfold Linkable
      rw [markRead_files]
      exact linkable
    obtain ⟨s'', linked'⟩ := linkAttachments_ok (m := m) linkable'
    rw [linked'] at done
    cases done
    cases unlinked
  · left
    unfold save insertMessage at ran
    dsimp only at ran
    split_ifs at ran with topicUpdate failed
    · cases ran
      exact ⟨insertable, rfl, s.seqId, by simp, rfl⟩
    · cases ran
      exact ⟨insertable, rfl, m.seqId, by simp, rfl⟩
    · refine absurd ?_ insertable
      simp only [Bool.or_eq_true, not_or, Bool.not_eq_true, List.any_eq_false, beq_iff_eq] at failed
      exact ⟨Bool.not_eq_true _ ▸ topicUpdate, failed.1, failed.2⟩

theorem save_messages {saved : Option Bool}
    (ran : s.save media faults m urls read = .ok (s', saved)) :
    s'.messages = s.messages ∨ s'.messages = s.messages ++ [m] := by
  rcases save_effect ran with ⟨-, -, seqId, -, rfl⟩ | ⟨-, ⟨links, rfl⟩, -⟩
  · exact .inl rfl
  · exact .inr (markRead_messages ..)

end Store

end LastochkaServer.Source
