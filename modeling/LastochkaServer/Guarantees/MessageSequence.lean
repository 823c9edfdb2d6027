import LastochkaServer.Lib.Run
import LastochkaServer.Source.Topic.Calls

/-!
# Message numbers

The number of a message is chosen in memory (`t.lastID + 1`) while `Save` makes up to four calls of
the store. The numbers stay in step with the stored messages as long as no message is stored whose
attachments cannot be linked: then `Save` reports an error for a message that is there, the counter
stays behind, and every later message is rejected as a duplicate.
-/

namespace LastochkaServer.Guarantees.MessageSequence

open Lib Lib.Run Source

variable {r : PubRequest} {v v' : Server} {w : World} {res : Except Reply Unit} {uid : Uid}
  {seq : Int} {op : ReactionOp} {reply : Option Reply} {fuel : Nat}

/-- `n` is the largest number of a message, zero if there are none. -/
def LargestSeqId (messages : List Message) (n : Int) : Prop :=
  (messages = [] ∧ n = 0) ∨ IsGreatest { seqId | ∃ m ∈ messages, m.seqId = seqId } n

structure Aligned (w : World) : Prop where
  largest : LargestSeqId w.store.messages w.topic.lastID
  distinct : (w.store.messages.map (·.seqId)).Nodup

theorem Aligned.silent {w' : World} (aligned : Aligned w) (silent : Silent w w') : Aligned w' := by
  obtain ⟨largest, distinct⟩ := aligned
  refine ⟨?_, ?_⟩
  · rwa [silent.messages, silent.lastID]
  · rwa [silent.messages]

theorem Aligned.le (aligned : Aligned w) : ∀ m ∈ w.store.messages,
    m.seqId ≤ w.topic.lastID := by
  intro m stored
  rcases aligned.largest with ⟨empty, -⟩ | greatest
  · rw [empty] at stored
    cases stored
  · exact greatest.2 ⟨m, stored, rfl⟩

theorem Aligned.fresh (aligned : Aligned w) : ∀ m ∈ w.store.messages,
    m.seqId ≠ w.topic.lastID + 1 := by
  intro m stored same
  have := aligned.le m stored
  omega

theorem Aligned.saved (aligned : Aligned v.world) (saved : MessageSaved v r v') :
    Aligned v'.world := by
  have lastID : v'.world.topic.lastID = v.topic.lastID + 1 :=
    (congrArg Topic.lastID saved.topic).trans (Topic.countMessage_lastID _ _)
  refine ⟨.inr ⟨?_, ?_⟩, ?_⟩
  · rw [saved.messages, lastID]
    exact ⟨r.message v.topic, by simp, rfl⟩
  · rintro seqId ⟨m, stored, rfl⟩
    rw [lastID]
    rw [saved.messages, List.mem_append, List.mem_singleton] at stored
    rcases stored with old | rfl
    · have bound : m.seqId ≤ v.topic.lastID := aligned.le m old
      omega
    · exact le_refl _
  · rw [saved.messages, List.map_append, List.nodup_append]
    refine ⟨aligned.distinct, by simp, ?_⟩
    intro seqId old seqId' new
    simp only [List.map_cons, List.map_nil, List.mem_singleton] at new
    obtain ⟨m, stored, rfl⟩ := List.mem_map.mp old
    rw [new]
    exact aligned.fresh m stored

theorem Aligned.refused (aligned : Aligned v.world) (refused : MessageRefused v v') :
    Aligned v'.world := by
  refine ⟨?_, ?_⟩
  · rw [refused.messages, show v'.world.topic.lastID = v.world.topic.lastID from
      congrArg Topic.lastID refused.topic]
    exact aligned.largest
  · rw [refused.messages]
    exact aligned.distinct

theorem saveMessage_aligned {env : Env} (aligned : Aligned v.world) (safe : LinkSafe env v r)
    (ran : saveMessage env v r = .ok (v', res)) : Aligned v'.world := by
  by_cases storable : Storable env v r
  · exact aligned.saved (saveMessage_saved storable safe ran).2
  · exact aligned.refused (saveMessage_refused storable ran).2

-- A broadcast may end a call, and the end of a call is a message of its own, without attachments.
theorem aligned_invariant (env : Env) : BroadcastInvariant env fun v => Aligned v.world where
  save _ _ _ _ fromCall aligned ran := saveMessage_aligned aligned (linkSafe_nil fromCall.noFiles) ran
  sent _ aligned := aligned
  emit _ _ aligned := ⟨aligned.largest, aligned.distinct⟩
  ended _ aligned := ⟨aligned.largest, aligned.distinct⟩
  leave _ _ _ _ aligned left := aligned.silent (handleLeaveRequest_silent left)

variable {env : Env} {cast : Cast}

/-- The reply reports an error (a code of 400 or above). -/
def isError : Reply → Bool
  | .errMalformed | .errPermissionDenied | .errOperationNotAllowed | .errNotFound | .errUserNotFound
  | .errAttachFirst | .errPolicy | .errLocked | .errUnknown | .errNotImplemented | .errCallBusy =>
    true
  | _ => false

/-- If the request gets as far as the store, a message that is stored can be linked to its
attachments. -/
def Linked (env : Env) (v : Server) (r : PubRequest) : Prop :=
  pubRefusal env v.topic r = .ok none → parseReactionCarrier r = none → LinkSafe env v r

theorem storeReaction_silent {emoji : String}
    (stored : storeReaction env v uid seq op emoji = some v') :
    Silent v.world v'.world := by
  obtain ⟨reactions, rfl⟩ := storeReaction_frame stored
  exact ⟨rfl, rfl, rfl, rfl⟩

theorem handleReactionCarrier_aligned (keeps : Preserves (fun v => Aligned v.world) cast)
    (aligned : Aligned v.world) (ran : handleReactionCarrier env cast v r seq op = .ok (v', reply)) :
    Aligned v'.world ∧
      (reply.any isError → v'.world.store.messages = v.world.store.messages) := by
  unfold handleReactionCarrier at ran
  dsimp only at ran
  generalize (if op = .add then reactionEmojiFromContent r.content else "") = emoji at ran
  split at ran
  · cases ran
    exact ⟨⟨aligned.largest, aligned.distinct⟩, fun _ => rfl⟩
  split at ran
  · cases ran
    exact ⟨aligned, fun _ => rfl⟩
  next stored reacted =>
  obtain ⟨name, -, ran⟩ := bind_ok ran
  obtain ⟨sent, broadcast, ran⟩ := bind_ok ran
  cases ran
  have aligned := keeps _ _ _ (aligned.silent (storeReaction_silent reacted)) broadcast
  exact ⟨⟨aligned.largest, aligned.distinct⟩, fun failed => by cases failed⟩

theorem saveAndBroadcastMessage_error {reply : Reply} (safe : LinkSafe env v r)
    (ran : saveAndBroadcastMessage env cast v r = .ok (v', .error reply)) :
    v'.world.store.messages = v.world.store.messages := by
  obtain ⟨⟨saved, res⟩, done, ran⟩ := bind_ok ran
  have done := Exec.run_ok.mp done
  cases res with
  | error reply' =>
    cases ran
    by_cases storable : Storable env v r
    · cases (saveMessage_saved storable safe done).1
    · exact (saveMessage_refused storable done).2.messages
  | ok u =>
    obtain ⟨sent, broadcast, ran⟩ := bind_ok ran
    cases ran

theorem handlePubBroadcast_aligned (aligned : Aligned v.world) (linked : Linked env v r)
    (ran : handlePubBroadcast env fuel v r = .ok (v', reply)) :
    Aligned v'.world ∧
      (reply.any isError → v'.world.store.messages = v.world.store.messages) := by
  have keeps := (aligned_invariant env).broadcastToSessions fuel
  obtain ⟨refusal, checked, ran⟩ := bind_ok ran
  cases refusal with
  | some reply' =>
    cases ran
    exact ⟨⟨aligned.largest, aligned.distinct⟩, fun _ => rfl⟩
  | none =>
    cases carrier : parseReactionCarrier r with
    | some reaction =>
      rw [carrier] at ran
      exact handleReactionCarrier_aligned keeps aligned ran
    | none =>
      rw [carrier] at ran
      have safe := linked (Exec.run_ok.mp checked) carrier
      obtain ⟨⟨saved, res⟩, done, ran⟩ := bind_ok ran
      have aligned :=
        saveAndBroadcastMessage_preserves keeps
          (fun _ _ saved => saveMessage_aligned aligned safe saved) done
      cases res with
      | error reply' =>
        cases ran
        exact ⟨aligned, fun _ => saveAndBroadcastMessage_error safe done⟩
      | ok u =>
        cases ran
        refine ⟨?_, fun failed => ?_⟩
        · split_ifs
          · exact ⟨aligned.largest, aligned.distinct⟩
          · exact aligned
        · split_ifs at failed <;> cases failed

theorem original_of_writable {t : Topic} (writable : t.writable uid) :
    ∃ name, t.original uid = .ok name := by
  unfold Topic.original
  cases cat : t.cat with
  | p2p =>
    cases cached : t.perUser.lookup uid with
    | some pud => exact ⟨_, rfl⟩
    | none =>
      rw [Topic.writable, cat, Topic.pud, GoMap.getD, cached] at writable
      exact absurd writable (by decide)
  | me | fnd | grp | sys | slf => exact ⟨_, rfl⟩

theorem saveMessage_healthy (aligned : Aligned v.world) (writable : v.topic.writable r.asUid)
    (healthy : env.saveFaults v.saves = {})
    (linkable : Store.Linkable env.media {} v.world.store r.attachments) :
    ∃ saved, saveMessage env v r = .ok (saved, .ok ()) ∧ MessageSaved v r saved := by
  have storable : Storable env v r := by
    refine ⟨writable, ?_⟩
    rw [healthy]
    exact ⟨rfl, rfl, aligned.fresh⟩
  have safe : LinkSafe env v r := fun _ => by rwa [healthy]
  obtain ⟨name, known⟩ := original_of_writable writable
  obtain ⟨saved, res, ran⟩ := saveMessage_returns known safe
  obtain ⟨rfl, done⟩ := saveMessage_saved storable safe ran
  exact ⟨saved, ran, done⟩

/-- One request. A server that panics or does not return handles no further requests. -/
def step (fuel : Nat) (s : Option Server) (e : Env × PubRequest) : Option Server :=
  s.bind fun v => ((handlePubBroadcast e.1 fuel v e.2).toOption).map (·.1)

/-- What holds of a state: the counter is the largest number stored, no number is used twice, a
request answered with an error stores nothing, and on a store that works messages are accepted. -/
structure Sequenced (fuel : Nat) (v : Server) : Prop where
  largest : LargestSeqId v.world.store.messages v.topic.lastID
  distinct : (v.world.store.messages.map (·.seqId)).Nodup
  error : ∀ env r v' reply, Linked env v r → handlePubBroadcast env fuel v r = .ok (v', some reply) →
    isError reply → v'.world.store.messages = v.world.store.messages
  healthy : ∀ env r, v.topic.writable r.asUid → env.saveFaults v.saves = {} →
    Store.Linkable env.media {} v.world.store r.attachments →
    ∃ saved, saveMessage env v r = .ok (saved, .ok ()) ∧ MessageSaved v r saved

theorem Aligned.sequenced (aligned : Aligned v.world) : Sequenced fuel v where
  largest := aligned.largest
  distinct := aligned.distinct
  error _ _ _ _ linked ran failed :=
    (handlePubBroadcast_aligned aligned linked ran).2 failed
  healthy _ _ writable healthy linkable := saveMessage_healthy aligned writable healthy linkable

/-- In every run of requests whose messages can be linked to their attachments once they are stored,
the numbers stay in step with the stored messages. -/
theorem publish_keeps_sequence (fuel : Nat) (v : Server) (aligned : Aligned v.world)
    (requests : List (Env × PubRequest))
    (linked : Guarded (step fuel) (fun s e => ∀ v ∈ s, Linked e.1 v e.2) (some v) requests)
    (v' : Server) (reached : run (step fuel) (some v) requests = some v') : Sequenced fuel v' := by
  have preserved : ∀ (s : Option Server) (e : Env × PubRequest), (∀ v ∈ s, Aligned v.world) →
      (∀ v ∈ s, Linked e.1 v e.2) → ∀ v ∈ step fuel s e, Aligned v.world := by
    rintro (_ | v) e aligned linked v' stepped
    · cases stepped
    · obtain ⟨⟨v'', reply⟩, done, rfl⟩ := Option.map_eq_some_iff.mp stepped
      have returned : handlePubBroadcast e.1 fuel v e.2 = .ok (v'', reply) := by
        cases outcome : handlePubBroadcast e.1 fuel v e.2 with
        | error stop =>
          rw [outcome] at done
          cases done
        | ok result =>
          rw [outcome] at done
          cases done
          rfl
      exact (handlePubBroadcast_aligned (aligned v rfl) (linked v rfl) returned).1
  have kept := run_invariant preserved (s := some v) (by rintro v' ⟨rfl⟩; exact aligned) linked
  exact (kept v' reached).sequenced

/-- A group topic of user 1 in which nothing has been said. -/
def chat : Server :=
  { world :=
      { topic :=
          { cat := .grp
            owner := 1
            perUser := (∅ : GoMap Uid PerUserData).insert 1
              { modeWant := AccessMode.modeCFull, modeGiven := AccessMode.modeCFull } }
        store := { files := [8] } } }

/-- Every URL names the file `fid`. -/
def mediaFor (fid : FileId) : Env := { media := some fun _ => some fid }

def device : Session := { sid := "s1", proto := .websock, uid := 1 }

def plainText : PubRequest := { sess := device, id := "2", asUid := 1, content := .str "hello" }

def withFile : PubRequest := { plainText with id := "1", attachments := ["/v0/file/s/x.jpg"] }

/-- A message with a link to a file that does not exist is stored and answered with an error. After
it, no message is accepted. -/
theorem missing_file_blocks_topic :
    ∃ v', handlePubBroadcast (mediaFor 7) 1 chat withFile = .ok (v', some .errUnknown) ∧
      v'.topic.lastID = 0 ∧ v'.world.store.messages.map (·.seqId) = [1] ∧
      ∃ v'', handlePubBroadcast {} 1 v' plainText = .ok (v'', some .errUnknown) := by
  refine ⟨_, rfl, by decide, by decide, _, rfl⟩

theorem existing_file_keeps_sequence :
    ∃ v', run (step 1) (some chat) [(mediaFor 8, withFile)] = some v' ∧ Sequenced 1 v' := by
  have empty : Aligned chat.world := ⟨.inl ⟨rfl, rfl⟩, List.nodup_nil⟩
  have safe : ∀ v ∈ some chat, Linked (mediaFor 8) v withFile := by
    rintro v ⟨rfl⟩ - -
    decide
  refine ⟨_, rfl, publish_keeps_sequence 1 chat empty [(mediaFor 8, withFile)] ⟨safe, trivial⟩ _ rfl⟩

end LastochkaServer.Guarantees.MessageSequence

