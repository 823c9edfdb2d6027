import LastochkaServer.Source.Reactions

/-!
# Reactions in the history

`enrichMessagesWithReactions` (`server/reactions.go:200-232`) sets `head["reactions"]` of the
messages that have reactions and leaves the other messages as they are stored.
`saveAndBroadcastMessage` (`server/topic.go:1003-1041`) stores the header of the client, from which
only `sender` is taken out.

`fetch_exact_iff`: a fetch shows the recorded reactions just when no message without reactions has
been stored with such a header, and the query for the reactions fails only where there are none or
the stored header is right.

`history_exact`: after publishes whose headers have no `reactions`, every fetch whose queries
succeed is exact.

`forged_reactions`: one publish by a writer makes the history show a reaction that nobody made.
-/

namespace LastochkaServer.Guarantees.ReactionHistory

open Lib Source Wire

variable {seq : Int} {users : GoMap Uid String}

/-- The reaction that the result of the query has for a message and a user. -/
def found (result : GoMap Int (GoMap Uid String)) (key : Int × Uid) : Option String :=
  (result.lookup key.1).bind (·.lookup key.2)

/-- One row of the query. -/
def addRow (result : GoMap Int (GoMap Uid String)) (row : Sigma fun _ : Int × Uid => String) :
    GoMap Int (GoMap Uid String) :=
  result.insert row.1.1 (((result.lookup row.1.1).getD ∅).insert row.1.2 row.2)

theorem found_addRow (res : GoMap Int (GoMap Uid String)) (row : Sigma fun _ : Int × Uid => String)
    (key : Int × Uid) : found (addRow res row) key = if key = row.1 then some row.2
    else found res key := by
  obtain ⟨⟨seq, uid⟩, emoji⟩ := row
  obtain ⟨seq', uid'⟩ := key
  unfold found addRow
  by_cases sameSeq : seq' = seq
  · subst sameSeq
    rw [AList.lookup_insert, Option.bind_some]
    by_cases sameUid : uid' = uid
    · subst sameUid
      simp [AList.lookup_insert]
    · rw [AList.lookup_insert_ne sameUid, if_neg (by simp [sameUid])]
      cases res.lookup seq' <;> rfl
  · rw [AList.lookup_insert_ne sameSeq, if_neg (by simp [sameSeq])]

variable {rows : List (Sigma fun _ : Int × Uid => String)}

theorem found_addRows (distinct : rows.NodupKeys)
    (res : GoMap Int (GoMap Uid String)) (key : Int × Uid) :
    found (rows.foldl addRow res) key = (rows.dlookup key).or (found res key) := by
  induction rows generalizing res with
  | nil => rfl
  | cons row rest ih =>
    obtain ⟨fresh, distinct⟩ := List.nodupKeys_cons.mp distinct
    rw [List.foldl_cons, ih distinct, found_addRow]
    by_cases same : key = row.1
    · subst same
      rw [List.dlookup_eq_none.mpr fresh, if_pos rfl, List.dlookup_cons_eq]
      rfl
    · rw [if_neg same, List.dlookup_cons_ne _ _ same]

theorem addRows_nonempty {res : GoMap Int (GoMap Uid String)}
    (start : ∀ seq users, res.lookup seq = some users → 0 < users.len)
    (listed : (rows.foldl addRow res).lookup seq = some users) : 0 < users.len := by
  induction rows generalizing res with
  | nil => exact start seq users listed
  | cons row rest ih =>
    refine ih (fun seq' users' mem => ?_) listed
    rcases GoMap.lookup_insert_eq_some.mp mem with ⟨rfl, rfl⟩ | ⟨-, mem⟩
    · simp [GoMap.len, AList.entries_insert]
    · exact start seq' users' mem

section

variable {s : Store} {seqs : List Int}

theorem found_reactionsForMessages (asked : seq ∈ seqs) (uid : Uid) :
    found (reactionsForMessages s seqs) (seq, uid) = s.reactions.lookup (seq, uid) := by
  have distinct : (s.reactions.entries.filter fun e => seqs.contains e.1.1).NodupKeys :=
    s.reactions.nodupKeys.sublist List.filter_sublist
  refine (found_addRows distinct ∅ (seq, uid)).trans ?_
  have nothing : found ∅ (seq, uid) = none := rfl
  rw [nothing, Option.or_none]
  refine Option.ext fun emoji => ?_
  rw [← Option.mem_def, ← Option.mem_def, List.mem_dlookup_iff distinct, AList.mem_lookup_iff,
    List.mem_filter]
  exact and_iff_left (List.contains_iff_mem.mpr asked)

theorem listed_nonempty (listed : (reactionsForMessages s seqs).lookup seq = some users) :
    0 < users.len := by
  refine addRows_nonempty (fun seq' users' mem => ?_) listed
  cases mem

/-- Someone has reacted to the message. -/
def Recorded (s : Store) (seq : Int) : Prop := ∃ uid emoji, s.reactions.lookup (seq, uid) = some emoji

theorem listed_iff (asked : seq ∈ seqs) :
    (∃ users, (reactionsForMessages s seqs).lookup seq = some users) ↔ Recorded s seq := by
  constructor
  · rintro ⟨users, listed⟩
    have nonempty : 0 < users.len := listed_nonempty listed
    obtain ⟨⟨uid, emoji⟩, mem⟩ := List.exists_mem_of_length_pos nonempty
    refine ⟨uid, emoji, ?_⟩
    rw [← found_reactionsForMessages asked uid, found, listed]
    exact (GoMap.mem_entries_iff users uid emoji).mp mem
  · rintro ⟨uid, emoji, recorded⟩
    rw [← found_reactionsForMessages asked uid] at recorded
    obtain ⟨users, listed, -⟩ := Option.bind_eq_some_iff.mp recorded
    exact ⟨users, listed⟩

end

/-- The reactions that the header of a message shows. -/
def header (m : Message) : Option Any := m.head.bind (·.lookup "reactions")

section

variable (encode : (Uid → Option String) → String)

/-- The message shows exactly the recorded reactions. -/
structure Exact (s : Store) (m : Message) : Prop where
  reacted : Recorded s m.seqId → header m =
    some (.object none (encode fun uid => s.reactions.lookup (m.seqId, uid)))
  silent : ¬ Recorded s m.seqId → header m = none

/-- The body of the last loop of `enrichMessagesWithReactions`. -/
def enriched (bySeq : GoMap Int (GoMap Uid String)) (m : Message) : Message :=
  match bySeq.lookup m.seqId with
  | none => m
  | some users => if users.len > 0 then m.withReactions encode users else m

variable {s : Store} {seqs : List Int} {m : Message}

theorem enriched_recorded (asked : m.seqId ∈ seqs) (recorded : Recorded s m.seqId) :
    (enriched encode (reactionsForMessages s seqs) m).seqId = m.seqId ∧
      header (enriched encode (reactionsForMessages s seqs) m) =
        some (.object none (encode fun uid => s.reactions.lookup (m.seqId, uid))) := by
  obtain ⟨users, listed⟩ := (listed_iff asked).mpr recorded
  have nonempty : 0 < users.len := listed_nonempty listed
  have view : users.lookup = fun uid => s.reactions.lookup (m.seqId, uid) := by
    funext uid
    rw [← found_reactionsForMessages asked uid, found, listed]
    rfl
  unfold enriched
  rw [listed]
  dsimp only
  rw [if_pos nonempty, ← view]
  refine ⟨rfl, ?_⟩
  simp [header, Message.withReactions, AList.lookup_insert]

variable {encode}

theorem enriched_unrecorded (asked : m.seqId ∈ seqs) (unrecorded : ¬ Recorded s m.seqId) :
    enriched encode (reactionsForMessages s seqs) m = m := by
  have unlisted : (reactionsForMessages s seqs).lookup m.seqId = none :=
    Option.eq_none_iff_forall_not_mem.mpr fun users listed =>
      unrecorded ((listed_iff asked).mp ⟨users, listed⟩)
  unfold enriched
  rw [unlisted]

theorem enrichMessagesWithReactions_eq (messages : List Message) :
    enrichMessagesWithReactions encode s false messages =
      messages.map (enriched encode (reactionsForMessages s (messages.map (·.seqId)).dedup)) := by
  unfold enrichMessagesWithReactions
  dsimp only
  split
  · next empty =>
    rw [empty]
    rfl
  rw [if_neg (by decide)]
  split
  · next empty =>
    -- without rows the loop is not entered; it would change nothing
    have nothing : reactionsForMessages s (messages.map (·.seqId)).dedup = ∅ :=
      AList.ext (List.length_eq_zero_iff.mp empty)
    rw [nothing]
    exact (List.map_id messages).symm
  · rfl

/-- The loop makes a message exact if there are reactions, and leaves it as it is otherwise. -/
theorem enriched_exact_iff (asked : m.seqId ∈ seqs) :
    Exact encode s (enriched encode (reactionsForMessages s seqs) m) ↔ Recorded s m.seqId ∨
      Exact encode s m := by
  by_cases recorded : Recorded s m.seqId
  · obtain ⟨seqId, shown⟩ := enriched_recorded encode asked recorded
    refine iff_of_true ⟨fun _ => ?_, fun unrecorded => ?_⟩ (.inl recorded)
    · rw [shown, seqId]
    · rw [seqId] at unrecorded
      exact absurd recorded unrecorded
  · rw [enriched_unrecorded asked recorded]
    exact (or_iff_right recorded).symm

/-- The request is answered with messages. -/
def Served (w : World) (q : GetData) : Prop :=
  q.malformed = false ∧ (w.topic.pud q.asUid).mode.isReader ∧ q.getAllFails = false

theorem replyGetData_ok_iff {w : World} {q : GetData} {messages : List Message} :
    replyGetData encode w q = .ok messages ↔
      Served w q ∧ enrichMessagesWithReactions encode w.store q.reactionsFail (w.store.getAll q) =
        messages := by
  unfold replyGetData Served
  cases q.malformed <;> cases (w.topic.pud q.asUid).mode.isReader <;> cases q.getAllFails <;> simp

variable (encode)

/-- A fetch is exact just when the messages without reactions have no such header in the store, and
those with reactions get it from the query or have it already. -/
theorem fetch_exact_iff (w : World) (q : GetData) :
    (∀ messages, replyGetData encode w q = .ok messages → ∀ m ∈ messages, Exact encode w.store m) ↔
      (Served w q → ∀ m ∈ w.store.getAll q, (q.reactionsFail = false ∧ Recorded w.store m.seqId) ∨
        Exact encode w.store m) := by
  have shown : (∀ m ∈ enrichMessagesWithReactions encode w.store q.reactionsFail (w.store.getAll q),
      Exact encode w.store m) ↔
        ∀ m ∈ w.store.getAll q, (q.reactionsFail = false ∧ Recorded w.store m.seqId) ∨
        Exact encode w.store m := by
    cases q.reactionsFail with
    | true =>
      rw [enrichMessagesWithReactions, if_pos rfl, ite_self]
      simp
    | false =>
      rw [enrichMessagesWithReactions_eq, List.forall_mem_map]
      refine forall₂_congr fun m selected => ?_
      rw [enriched_exact_iff (List.mem_dedup.mpr (List.mem_map_of_mem selected))]
      simp
  rw [← shown]
  simp only [replyGetData_ok_iff]
  constructor
  · exact fun exact served => exact _ ⟨served, rfl⟩
  · rintro exact messages ⟨served, rfl⟩
    exact exact served

end

/-- No message has been stored with reactions in its header. -/
def Clean (s : Store) : Prop := ∀ m ∈ s.messages, header m = none

/-- The client has put no reactions into the header. -/
def Unforged (r : PubRequest) : Prop := r.head.bind (·.lookup "reactions") = none
  deriving Decidable

theorem signedHead_reactions (r : PubRequest) :
    r.signedHead.bind (·.lookup "reactions") = r.head.bind (·.lookup "reactions") := by
  have ne : "reactions" ≠ "sender" := by decide
  unfold PubRequest.signedHead
  split
  · rw [Option.bind_some, AList.lookup_insert_ne ne]
    cases r.head <;> rfl
  · cases r.head with
    | none => rfl
    | some head => exact AList.lookup_erase_ne ne

theorem fromCall_unforged {r : PubRequest} (fromCall : r.FromCall) : Unforged r := by
  obtain ⟨call, sess, state, duration, rfl⟩ := fromCall
  have plain : (call.messageHead state duration).lookup "reactions" = none := by
    unfold VideoCall.messageHead
    split_ifs <;> simp [AList.lookup, AList.singleton, List.dlookup]
  exact plain

section

variable {env : Env} {v v' : Server} {r : PubRequest}

theorem saveMessage_clean {res : Except Reply Unit} (clean : Clean v.world.store)
    (unforged : Unforged r)
    (ran : saveMessage env v r = .ok (v', res)) : Clean v'.world.store := by
  unfold Clean
  obtain ⟨-, kept | added⟩ := saveMessage_frame ran
  · rw [kept]
    exact clean
  · rw [added]
    intro m mem
    obtain old | new := List.mem_append.mp mem
    · exact clean m old
    · rw [List.mem_singleton.mp new]
      exact (signedHead_reactions r).trans unforged

theorem clean_invariant (env : Env) : BroadcastInvariant env fun v => Clean v.world.store where
  save _ _ _ _ fromCall clean ran := saveMessage_clean clean (fromCall_unforged fromCall) ran
  sent _ clean := clean
  emit _ _ clean := clean
  ended _ clean := clean
  leave v w _ _ clean left := by
    unfold Clean
    rw [(handleLeaveRequest_silent left).messages]
    exact clean

/-- A publish, without the reply. -/
def publish (env : Env) (fuel : Nat) (v : Server) (r : PubRequest) : Handler Server :=
  (·.1) <$> handlePubBroadcast env fuel v r

theorem publish_clean {fuel : Nat} (clean : Clean v.world.store) (unforged : Unforged r)
    (ran : publish env fuel v r = .ok v') : Clean v'.world.store := by
  obtain ⟨⟨v', reply⟩, handled, rfl⟩ := map_ok ran
  refine (clean_invariant env).handlePubBroadcast (fun _ _ => saveMessage_clean clean unforged) ?_
    (fun _ clean => clean)
    clean handled
  intro uid seq op emoji reacted stored
  obtain ⟨reactions, rfl⟩ := storeReaction_frame stored
  exact clean

/-- After publishes without forged headers every fetch shows exactly the reactions that are
recorded, whatever they are, if the query for them succeeds. -/
theorem history_exact (env : Env) (fuel : Nat) (requests : List PubRequest) (start reached : Server)
    (clean : Clean start.world.store) (unforged : ∀ r ∈ requests, Unforged r)
    (returned : requests.foldlM (publish env fuel) start = .ok reached)
    (encode : (Uid → Option String) → String) (reactions : GoMap (Int × Uid) String) (w : World)
    (read : w = { reached.world with store := { reached.world.store with reactions := reactions } })
    (q : GetData) (succeeds : q.reactionsFail = false) (messages : List Message)
    (fetched : replyGetData encode w q = .ok messages) : ∀ m ∈ messages, Exact encode w.store m := by
  have step : ∀ v, ∀ r ∈ requests, ∀ v', Clean v.world.store → publish env fuel v r = .ok v' →
      Clean v'.world.store :=
    fun v r member v' clean published => publish_clean clean (unforged r member) published
  have clean : Clean reached.world.store := foldlM_invariant_of_mem step clean returned
  subst read
  refine (fetch_exact_iff encode _ q).mpr (fun _ m selected => ?_) messages fetched
  have stored : m ∈ reached.world.store.messages :=
    List.mem_of_mem_filter (List.mem_reverse.mp (List.mem_of_mem_take selected))
  by_cases recorded : Recorded { reached.world.store with reactions := reactions } m.seqId
  · exact .inl ⟨succeeds, recorded⟩
  · exact .inr ⟨fun reacted => absurd reacted recorded, fun _ => clean m stored⟩

end

/-- A group topic without messages, and its only subscriber. -/
def writerOnly : Server :=
  let member : PerUserData :=
    { modeWant := AccessMode.modeCPublic, modeGiven := AccessMode.modeCPublic }
  { world := { topic := { cat := .grp, perUser := (∅ : GoMap Uid PerUserData).insert 1 member } } }

def writing (head : Head) : PubRequest :=
  { sess := { sid := "s", proto := .websock, uid := 1 }, asUid := 1, head := some head,
      content := .str "hi" }

/-- The header says that user 2 likes the message. -/
def forgery : Head := (∅ : Head).insert "reactions" (.object none "\x7b\"usrAgAAAAAAAAA\":\"👍\"\x7d")

theorem history_exact_once :
    ∃ reached messages, [writing ∅].foldlM (publish {} 1) writerOnly = .ok reached ∧
    replyGetData (fun _ => "") reached.world { asUid := 1 } = .ok messages ∧ messages.length = 1 ∧
      ∀ m ∈ messages, Exact (fun _ => "") reached.world.store m :=
  ⟨_, _, rfl, rfl, rfl, history_exact {} 1 [writing ∅] writerOnly _ nofun (by decide) rfl _ ∅ _ rfl
    { asUid := 1 } rfl _ rfl⟩

/-- Nobody has reacted, and the history shows a reaction. -/
theorem forged_reactions :
    ∃ reached messages, [writing forgery].foldlM (publish {} 1) writerOnly = .ok reached ∧
    replyGetData (fun _ => "") reached.world { asUid := 1 } = .ok messages ∧
      reached.world.store.reactions = ∅ ∧
      ∃ m ∈ messages, ¬ Exact (fun _ => "") reached.world.store m := by
  refine ⟨_, _, rfl, rfl, rfl, _, .head _, fun exact => ?_⟩
  have unshown := exact.silent (by rintro ⟨uid, emoji, ⟨⟩⟩)
  exact absurd unshown (by decide)

end LastochkaServer.Guarantees.ReactionHistory
