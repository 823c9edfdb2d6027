import LastochkaServer.Lib.Except
import LastochkaServer.Source.Hub

/-!
# Names of topics from clients

`GetTopicCat` panics on a name that is too short or has no prefix that it knows, and nothing
recovers from a panic. The names it is applied to come from clients. `{sub}` with an unknown name is
answered with `ErrTopicNotFound`, so that only recognised names are stored and only topics with a
recognised name run. Two other messages hand a name to the category function before anything has
been found under it: `{note what="call"}` in the session, and `{del what="topic"}` in the hub when
the topic is not loaded.
-/

namespace LastochkaServer.Guarantees.TopicNames

open Lib Lib.Run Source Wire

variable {h : Hub} {r : Routed} {s : ClientSession} {asUser topic : String} {q : HubQueue}
  {extra : Option MsgClientExtra} {t : Registered} {row : SubRow} {m : Wire.MsgClientDel}
  {keep : Bool}
  {env henv : HubEnv} {res : Hub × HubResult} {msg : ClientComMessage} {senv : SessionEnv}

/-- Names are recognised where something is stored or runs under them. -/
structure Named (h : Hub) : Prop where
  stored : ∀ row ∈ h.rows, recognised row.topic
  registered : ∀ t ∈ h.topics, initCat t.xoriginal ≠ none → recognised t.name
  running : ∀ t ∈ h.topics, t.running → recognised t.name

theorem initial_named : Named Hub.initial where
  stored := by simp [Hub.initial]
  registered := by decide
  running := by decide

section

variable (named : Named h)
include named

/-- Removing topics, and changing rows but not their names, leaves the names recognised. -/
theorem Named.mono {h' : Hub} (topics : ∀ t ∈ h'.topics, t ∈ h.topics)
    (rows : ∀ row' ∈ h'.rows, ∃ row ∈ h.rows, row.topic = row'.topic) : Named h' where
  stored row' mem := by
    obtain ⟨row, found, same⟩ := rows row' mem
    rw [← same]
    exact named.stored row found
  registered t mem := named.registered t (topics t mem)
  running t mem := named.running t (topics t mem)

theorem Named.topicDel (name : String) : Named (h.topicDel name) :=
  named.mono (fun _ mem => List.mem_of_mem_filter mem) fun row mem => ⟨row, mem, rfl⟩

theorem Named.update (f : SubRow → SubRow) (same : ∀ row, (f row).topic = row.topic) :
    Named { h with rows := h.rows.map f } := by
  refine named.mono (fun _ mem => mem) fun row' mem => ?_
  obtain ⟨row, found, rfl⟩ := List.mem_map.mp mem
  exact ⟨row, found, (same row).symm⟩

theorem Named.topicsDelete (topic : String) (isChan hard : Bool) :
    Named (h.topicsDelete topic isChan hard) := by
  unfold Hub.topicsDelete
  split
  · exact named.mono (fun _ mem => mem) fun row mem => ⟨row, List.mem_of_mem_filter mem, rfl⟩
  · exact named.update _ fun row => by split <;> rfl

theorem Named.subsDelete (topic : String) (user : Uid) : Named (h.subsDelete topic user) :=
  named.update _ fun row => by split <;> rfl

theorem Named.subsUpdateWant (topic : String) (user : Uid) (want : AccessMode) :
    Named (h.subsUpdateWant topic user want) :=
  named.update _ fun row => by split <;> rfl

omit named in
theorem topicGet_mem {name : String} (found : h.topicGet name = some t) :
    t ∈ h.topics := List.mem_of_find?_eq_some found

/-- A routed message carries the expansion of the name that the client gave. -/
structure Expands (r : Routed) : Prop where
  user : parseUserId r.asUser ≠ 0
  name : expandTopicName r.asUser r.original = .ok r.rcptTo

omit named in
theorem Expands.rcptTo_recognised (expands : Expands r) (known : recognised r.subName) :
    recognised r.rcptTo := by
  unfold Routed.subName at known
  split at known
  · next channel =>
    have named : categorised r.original := by
      rw [categorised, Bool.or_eq_true]
      exact .inr (recognised_of_hasPrefix (by decide) channel)
    exact expandTopicName_categorised expands.user named expands.name
  · exact known

theorem subsGet_recognised {user : Uid} (found : h.subsGet topic user keep = some row) :
    recognised topic := by
  have mem := List.mem_of_find?_eq_some found
  have same := List.find?_some found
  rw [decide_eq_true_iff] at same
  rw [← same.1]
  exact named.stored row mem

/-- What is found in the store has a category. -/
theorem getTopicCat_of_subsGet (expands : Expands r)
    (found : h.subsGet r.subName r.asUid keep = some row) :
    ∃ cat, getTopicCat r.rcptTo = .ok cat :=
  getTopicCat_ok_iff.mpr (expands.rcptTo_recognised (subsGet_recognised named found))

theorem replyOfflineTopicGetSub_returns (env : HubEnv) (expands : Expands r) (m : MsgClientGet) :
    ∃ reply, h.replyOfflineTopicGetSub env r m = .ok reply := by
  unfold Hub.replyOfflineTopicGetSub
  split
  · exact ⟨_, rfl⟩
  split
  · exact ⟨_, rfl⟩
  split
  · exact ⟨_, rfl⟩
  · next row found =>
    obtain ⟨cat, known⟩ := getTopicCat_of_subsGet named expands found
    rw [known]
    split <;> exact ⟨_, rfl⟩

theorem offlineWant_returns (env : HubEnv) (expands : Expands r)
    (found : h.subsGet r.subName r.asUid false = some row) (mode : String) :
    ∃ want, offlineWant env r row mode = .ok want := by
  obtain ⟨cat, known⟩ := getTopicCat_of_subsGet named expands found
  unfold offlineWant
  rw [known]
  split
  · exact ⟨_, rfl⟩
  · split <;> exact ⟨_, rfl⟩

theorem Named.storeOffline (env : HubEnv) (r : Routed) (row : SubRow) (setsPrivate : Bool)
    (want : AccessMode) :
    Named (h.storeOffline env r row setsPrivate want).1 := by
  unfold Hub.storeOffline
  split_ifs
  · exact named
  · exact named
  · exact named.subsUpdateWant _ _ _

theorem replyOfflineTopicSetSub_returns (env : HubEnv) (expands : Expands r) (m : MsgClientSet) :
    ∃ res, h.replyOfflineTopicSetSub env r m = .ok res ∧ Named res.1 := by
  unfold Hub.replyOfflineTopicSetSub
  dsimp only
  generalize (m.sub.map (·.mode)).getD "" = mode
  split
  · exact ⟨_, rfl, named⟩
  split
  · exact ⟨_, rfl, named⟩
  split
  · exact ⟨_, rfl, named⟩
  split
  · exact ⟨_, rfl, named⟩
  next row found =>
  by_cases blank : mode = ""
  · rw [if_pos blank]
    exact ⟨_, rfl, named.storeOffline _ _ _ _ _⟩
  · rw [if_neg blank]
    obtain ⟨want, done⟩ := offlineWant_returns named env expands found mode
    rw [done]
    cases want with
    | error refusal => exact ⟨_, rfl, named⟩
    | ok want => exact ⟨_, rfl, named.storeOffline _ _ _ _ _⟩

theorem Named.unregOnline (env : HubEnv) (r : Routed) (m : Wire.MsgClientDel) (t : Registered) :
    Named (h.unregOnline env r m t).1 := by
  unfold Hub.unregOnline
  split_ifs
  · exact named
  · exact (named.topicsDelete _ _ _).topicDel _
  · exact named

theorem Named.unregOwn (env : HubEnv) (r : Routed) (m : Wire.MsgClientDel) (tcat : TopicCat)
    (subs : List SubRow)
    (sub : SubRow) : Named (h.unregOwn env r m tcat subs sub).1 := by
  unfold Hub.unregOwn
  split_ifs
  · exact named
  · exact named.topicsDelete _ _ _
  · exact named
  · exact named.topicsDelete _ _ _
  · cases env.subsDelete with
    | notFound
    | failed => exact named
    | done => exact named.subsDelete _ _

theorem Named.unregStored (env : HubEnv) (r : Routed) (m : Wire.MsgClientDel) (tcat : TopicCat)
    (subs : List SubRow) :
    Named (h.unregStored env r m tcat subs).1 := by
  unfold Hub.unregStored
  split
  · dsimp only
    split
    · exact named.topicsDelete _ _ _
    · exact named
  · split
    · exact named
    · exact named.unregOwn _ _ _ _ _ _

omit named in
/-- A topic that is not loaded is deleted without a look at its name, if the store answers. -/
theorem topicUnreg_returns_iff (env : HubEnv) (r : Routed) (m : Wire.MsgClientDel) :
    (∃ res, h.topicUnreg env r m = .ok res) ↔
      h.topicGet r.rcptTo ≠ none ∨ env.getSubsFails ∨ recognised r.subName := by
  unfold Hub.topicUnreg
  cases h.topicGet r.rcptTo with
  | some t => simp
  | none =>
    dsimp only
    cases env.getSubsFails with
    | true => simp
    | false =>
      rw [← getTopicCat_ok_iff]
      cases getTopicCat r.subName with
      | error panic => simp [bind, Except.bind]
      | ok cat => simp [bind, Except.bind, pure, Except.pure]

theorem topicUnreg_named (ran : h.topicUnreg env r m = .ok res) : Named res.1 := by
  unfold Hub.topicUnreg at ran
  split at ran
  · cases ran
    exact named.unregOnline _ _ _ _
  · dsimp only at ran
    split at ran
    · cases ran
      exact named
    · obtain ⟨tcat, -, ran⟩ := bind_ok ran
      cases ran
      exact named.unregStored _ _ _ _ _

theorem join_named (env : HubEnv) (expanded : initCat r.original ≠ none → recognised r.rcptTo) :
    Named (h.join env r).1 := by
  unfold Hub.join
  split
  · refine ⟨named.stored, ?_, ?_⟩
    · intro t mem
      rcases List.mem_cons.mp mem with rfl | mem
      · exact expanded
      · exact named.registered t mem
    · intro t mem
      rcases List.mem_cons.mp mem with rfl | mem
      · exact fun running => Bool.noConfusion running
      · exact named.running t mem
  · exact named

theorem metaRequest_returns (env : HubEnv) (expands : Expands r) :
    ∃ res, h.metaRequest env r = .ok res ∧ Named res.1 := by
  unfold Hub.metaRequest
  split
  · next m _ =>
    split
    · exact ⟨_, rfl, named⟩
    · obtain ⟨reply, done⟩ := replyOfflineTopicGetSub_returns named env expands m
      rw [done]
      exact ⟨_, rfl, named⟩
  · next m _ =>
    obtain ⟨⟨h', reply⟩, done, named'⟩ := replyOfflineTopicSetSub_returns named env expands m
    rw [done]
    exact ⟨_, rfl, named'⟩
  · exact ⟨_, rfl, named⟩

/-- What a session may put into the queues of the hub. -/
inductive Sent : HubQueue → Routed → Prop
  | join (r : Routed) (expanded : initCat r.original ≠ none → recognised r.rcptTo) : Sent .join r
  | routeCli (r : Routed) : Sent .routeCli r
  | metaQueue (r : Routed) (expands : Expands r) : Sent .metaQueue r
  | unreg (r : Routed) : Sent .unreg r

theorem handle_named (sent : Sent q r) (ran : h.handle env q r = .ok res) : Named res.1 := by
  cases sent with
  | join _ expanded =>
    cases ran
    exact join_named named env expanded
  | routeCli =>
    cases ran
    exact named
  | metaQueue _ expands =>
    obtain ⟨result', done, named'⟩ := metaRequest_returns named env expands
    cases done.symm.trans ran
    exact named'
  | unreg =>
    unfold Hub.handle at ran
    dsimp only at ran
    split at ran
    · exact topicUnreg_named named ran
    · cases ran
      exact named

end

theorem offer_hub {env : SessionEnv} {sent : Dispatched} (offered : offer env sent = .hub q r) :
    sent = .hub q r := by
  unfold offer at offered
  split at offered
  · cases offered
  · exact offered

theorem checked_hub {handled : Dispatched} (passed : s.checked asUser handled = .hub q r) :
    asUser ≠ "" ∧ handled = .hub q r := by
  unfold ClientSession.checked at passed
  split_ifs at passed with _ blank
  exact ⟨blank, passed⟩

/-- `topicInit` has a case for a name with a category and for a request to create a topic. -/
theorem initCat_categorised {original : String} (loads : initCat original ≠ none)
    (old : (hasPrefix original "new" || hasPrefix original "nch") = false) :
    categorised original := by
  by_contra unknown
  apply loads
  rw [Bool.not_eq_true] at unknown
  simp only [categorised, recognised, List.any_cons, List.any_nil, Bool.or_eq_false_iff,
    beq_eq_false_iff_ne] at unknown
  obtain ⟨me, usr, p2p, grp, chn, fnd, sys, slf, -⟩ := unknown
  have notFnd : original ≠ "fnd" := by
    rintro rfl
    exact absurd fnd (by decide)
  have notSys : original ≠ "sys" := by
    rintro rfl
    exact absurd sys (by decide)
  have notSlf : original ≠ "slf" := by
    rintro rfl
    exact absurd slf (by decide)
  simp [initCat, me, usr, p2p, grp, chn, old, notFnd, notSys, notSlf]

section

variable {env : SessionEnv}

theorem subscribe_sent (someone : parseUserId asUser ≠ 0) {m : MsgClientSub}
    (sent : s.subscribe env asUser m = .hub q r) :
    q = .join ∧ (initCat r.original ≠ none → recognised r.rcptTo) := by
  have joined : ∀ {r'}, s.subscribeTo env r' = .hub q r → q = .join ∧ r' = r := by
    intro r' sent
    unfold ClientSession.subscribeTo at sent
    split at sent
    · cases sent
    · cases offer_hub sent
      exact ⟨rfl, rfl⟩
  unfold ClientSession.subscribe at sent
  split at sent
  · obtain ⟨rfl, rfl⟩ := joined sent
    exact ⟨rfl, fun _ => recognised_of_hasPrefix (by decide) (hasPrefix_append "grp" _)⟩
  next old =>
  split at sent
  · cases sent
  next rcptTo expanded =>
  obtain ⟨rfl, rfl⟩ := joined sent
  refine ⟨rfl, fun loads => ?_⟩
  have known := initCat_categorised loads (Bool.not_eq_true _ ▸ old)
  exact expandTopicName_categorised someone known expanded

theorem leave_not_sent {m : MsgClientLeave} : s.leave asUser m ≠ .hub q r := by
  intro sent
  unfold ClientSession.leave at sent
  split at sent
  · cases sent
  · split_ifs at sent

theorem publish_sent {m : MsgClientPub} (sent : s.publish env asUser m = .hub q r) :
    q = .routeCli := by
  unfold ClientSession.publish at sent
  split at sent
  · cases sent
  · dsimp only at sent
    split_ifs at sent
    · cases offer_hub sent
    · cases offer_hub sent
      rfl

theorem get_sent (someone : parseUserId asUser ≠ 0) {m : MsgClientGet}
    (sent : s.get env asUser m = .hub q r) : q = .metaQueue ∧ Expands r := by
  unfold ClientSession.get at sent
  split at sent
  · cases sent
  next rcptTo expanded =>
  dsimp only at sent
  split_ifs at sent
  · cases offer_hub sent
  · cases offer_hub sent
    exact ⟨rfl, someone, expanded⟩

theorem set_sent (someone : parseUserId asUser ≠ 0) {m : MsgClientSet}
    (sent : s.set env asUser m = .hub q r) : q = .metaQueue ∧ Expands r := by
  unfold ClientSession.set at sent
  split at sent
  · cases sent
  next rcptTo expanded =>
  dsimp only at sent
  split_ifs at sent
  · cases offer_hub sent
  · cases offer_hub sent
    exact ⟨rfl, someone, expanded⟩

theorem sendNote_sent {m : MsgClientNote} {r' : Routed} (sent : s.sendNote env m r' = .hub q r) :
    q = .routeCli := by
  unfold ClientSession.sendNote at sent
  split_ifs at sent
  · cases offer_hub sent
  · cases offer_hub sent
    rfl

/-- Only a request to delete a topic goes to the queue `unreg`, and only if the queue has room. -/
theorem del_sent (sent : s.del env asUser m = .hub q r) :
    q = .unreg ∧ parseMsgClientDel m.what = some .topic ∧ env.full = false ∧ r.body = .del m ∧
      r.original = m.topic ∧ expandTopicName asUser m.topic = .ok r.rcptTo := by
  unfold ClientSession.del at sent
  split at sent
  · cases sent
  split at sent
  · cases sent
  next rcptTo expanded =>
  split at sent
  · cases sent
  · next what =>
    unfold offer at sent
    split at sent
    · cases sent
    · next room =>
      cases sent
      exact ⟨rfl, what, Bool.not_eq_true _ ▸ room, rfl, rfl, expanded⟩
  · split at sent
    · cases offer_hub sent
    · cases sent

theorem handleBody_sent (acting : asUser = "" ∨ parseUserId asUser ≠ 0) {body : ClientBody}
    (sent : s.handleBody env asUser body = .ok (.hub q r)) :
    Sent q r ∧ (q = .unreg → ∃ m, body = .del m) := by
  have someone : asUser ≠ "" → parseUserId asUser ≠ 0 := acting.resolve_left
  cases body with
  | pub m =>
    obtain rfl := publish_sent (checked_hub (Except.ok.inj sent)).2
    exact ⟨.routeCli r, nofun⟩
  | sub m =>
    obtain ⟨blank, sent⟩ := checked_hub (Except.ok.inj sent)
    obtain ⟨rfl, expanded⟩ := subscribe_sent (someone blank) sent
    exact ⟨.join r expanded, nofun⟩
  | leave m => exact absurd (checked_hub (Except.ok.inj sent)).2 leave_not_sent
  | get m =>
    obtain ⟨blank, sent⟩ := checked_hub (Except.ok.inj sent)
    obtain ⟨rfl, expands⟩ := get_sent (someone blank) sent
    exact ⟨.metaQueue r expands, nofun⟩
  | set m =>
    obtain ⟨blank, sent⟩ := checked_hub (Except.ok.inj sent)
    obtain ⟨rfl, expands⟩ := set_sent (someone blank) sent
    exact ⟨.metaQueue r expands, nofun⟩
  | del m =>
    obtain ⟨rfl, -⟩ := del_sent (checked_hub (Except.ok.inj sent)).2
    exact ⟨.unreg r, fun _ => ⟨m, rfl⟩⟩
  | note m =>
    change s.note env asUser m = _ at sent
    unfold ClientSession.note at sent
    split at sent
    · cases sent
    split at sent
    · cases sent
    · obtain ⟨valid, -, sent⟩ := bind_ok sent
      cases valid with
      | false => cases sent
      | true =>
        obtain rfl := sendNote_sent (Except.ok.inj sent)
        exact ⟨.routeCli r, nofun⟩
  | hi
  | login
  | acc => cases sent

end

theorem actingUser_cases (acting : s.actingUser extra = .ok asUser) :
    asUser = userId s.uid ∨ parseUserId asUser ≠ 0 := by
  unfold ClientSession.actingUser at acting
  split at acting
  · cases acting
    exact .inl rfl
  · split_ifs at acting with _ _ zero
    · cases acting
      exact .inl rfl
    · cases acting
      exact .inr zero

theorem actingUser_acting (acting : s.actingUser extra = .ok asUser) :
    asUser = "" ∨ parseUserId asUser ≠ 0 := by
  rcases actingUser_cases acting with rfl | someone
  · by_cases nobody : s.uid = 0
    · exact .inl (by rw [userId, prefixId, if_pos nobody])
    · exact .inr (by rwa [parseUserId_userId nobody])
  · exact .inr someone

theorem actingUser_authenticated (authed : s.uid ≠ 0) (acting : s.actingUser extra = .ok asUser) :
    parseUserId asUser ≠ 0 := by
  rcases actingUser_cases acting with rfl | someone
  · rwa [parseUserId_userId authed]
  · exact someone

theorem dispatch_sent {env : SessionEnv} (sent : s.dispatch env msg = .ok (.hub q r)) : Sent q r := by
  unfold ClientSession.dispatch at sent
  split at sent
  · cases sent
  next asUser acting =>
  split at sent
  · cases sent
  · split at sent
    · cases sent
    · exact (handleBody_sent (actingUser_acting acting) sent).1

theorem serve_named {h' : Hub} (named : Named h) (served : h.serve senv henv s msg = .ok h') :
    Named h' := by
  obtain ⟨dispatched, done, served⟩ := bind_ok served
  cases dispatched with
  | hub q r =>
    obtain ⟨res, handled, rfl⟩ := map_ok served
    exact handle_named named (dispatch_sent done) handled
  | replied _ | ignored | topic _ | elsewhere =>
    cases served
    exact named

theorem topicInit_named (named : Named h) (mem : t ∈ h.topics) (loaded : Option Loaded) :
    Named (h.topicInit t loaded) := by
  unfold Hub.topicInit
  split
  · next cat l found =>
    have known : recognised t.name := named.registered t mem (by simp [found])
    refine ⟨?_, ?_, ?_⟩
    · intro row stored
      rcases List.mem_append.mp stored with old | new
      · exact named.stored row old
      · obtain ⟨_, -, rfl⟩ := List.mem_map.mp new
        exact known
    · intro t' member'
      rcases List.mem_cons.mp member' with rfl | member'
      · exact fun _ => known
      · exact (named.topicDel t.name).registered t' member'
    · intro t' member'
      rcases List.mem_cons.mp member' with rfl | member'
      · exact fun _ => known
      · exact (named.topicDel t.name).running t' member'
  · exact named.topicDel t.name

theorem subscribed_named (named : Named h) (known : recognised t.name) (asChan : Bool)
    (user : Uid) (want given : AccessMode) : Named (h.subscribed t asChan user want given) := by
  refine { named with stored := ?_ }
  intro row stored
  rcases List.mem_append.mp stored with old | new
  · exact named.stored row old
  · obtain rfl := List.mem_singleton.mp new
    split
    · next reader =>
      rw [grpNameToChn, if_pos reader.2]
      exact recognised_of_hasPrefix (by decide) (hasPrefix_append "chn" _)
    · exact known

theorem step_named (e : HubEvent) (named : Named h) : Named (h.step e) := by
  cases e with
  | client senv henv s msg =>
    dsimp [Hub.step]
    split
    · next h' served => exact serve_named named served
    · exact named
  | initialised name loaded =>
    dsimp [Hub.step]
    split
    · next t found =>
      split
      · exact named
      · exact topicInit_named named (topicGet_mem found) loaded
    · exact named
  | subscribed name asChan user want given =>
    dsimp [Hub.step]
    split
    · next t found =>
      split
      · next running =>
        exact subscribed_named named (named.running t (topicGet_mem found) running) _ _ _ _
      · exact named
    · exact named
  | unloaded name => exact named.topicDel name

theorem run_named (events : List HubEvent) : Named (run Hub.step Hub.initial events) :=
  run_preserves (fun _ e named => step_named e named) initial_named events

/-- The session does not refuse the message before it looks at its kind. -/
def Admitted (env : SessionEnv) (s : ClientSession) (msg : ClientComMessage) : Prop :=
  env.partitioned = false ∧ s.ver ≠ 0 ∧
    ∀ extra, msg.extra = some extra → (extra.asUser = "" ∧ extra.authLevel = "") ∨
      (s.authLvl = .root ∧ parseUserId extra.asUser ≠ 0)

/-- A name that is given, is not `me` and has none of the known prefixes. -/
def Unknown (topic : String) : Prop := topic ≠ "" ∧ categorised topic = false

/-- The kinds of messages that hand their name to the category function unchecked. -/
def AsksCategory (senv : SessionEnv) (henv : HubEnv) (h : Hub) : ClientBody → Prop
  | .note m => m.what = "call" ∧ Unknown m.topic
  | .del m =>
    m.what = "topic" ∧ Unknown m.topic ∧ senv.full = false ∧ h.topicGet m.topic = none ∧
      henv.getSubsFails = false
  | _ => False

/-- The message makes the server panic. -/
def Crashes (senv : SessionEnv) (henv : HubEnv) (h : Hub) (s : ClientSession)
    (msg : ClientComMessage) : Prop :=
  Admitted senv s msg ∧ ∃ body, selectBody msg = some body ∧ AsksCategory senv henv h body

theorem unknown_expands (asUser : String) (unknown : Unknown topic) :
    expandTopicName asUser topic = .ok topic ∧ recognised topic = false :=
  ⟨expandTopicName_uncategorised unknown.1 unknown.2, uncategorised_unrecognised unknown.2⟩

/-- An expanded name has a category unless the client gave an unknown name. -/
theorem expanded_recognised_iff {rcptTo : String} (someone : parseUserId asUser ≠ 0)
    (expanded : expandTopicName asUser topic = .ok rcptTo) : recognised rcptTo ↔ ¬ Unknown topic := by
  constructor
  · intro known unknown
    obtain ⟨same, plain⟩ := unknown_expands asUser unknown
    cases same.symm.trans expanded
    rw [plain] at known
    cases known
  · intro known
    have present : topic ≠ "" := by
      rintro rfl
      cases expanded
    refine expandTopicName_categorised someone ?_ expanded
    by_contra other
    exact known ⟨present, Bool.not_eq_true _ ▸ other⟩

theorem deliver_returns (named : Named h) {d : Dispatched}
    (sent : ∀ q r, d = .hub q r → Sent q r ∧ q ≠ .unreg) : ∃ h', h.deliver henv d = .ok h' := by
  cases d with
  | hub q r =>
    obtain ⟨sent, other⟩ := sent q r rfl
    cases sent with
    | join | routeCli => exact ⟨_, rfl⟩
    | metaQueue _ expands =>
      obtain ⟨res, done, -⟩ := metaRequest_returns named henv expands
      refine ⟨res.1, ?_⟩
      change Prod.fst <$> h.metaRequest henv r = _
      rw [done]
      rfl
    | unreg => exact absurd rfl other
  | replied _ | ignored | topic _ | elsewhere => exact ⟨_, rfl⟩

theorem noteValid_returns_iff (m : MsgClientNote) (rcptTo : String) :
    (∃ valid, noteValid m rcptTo = .ok valid) ↔ (m.what = "call" → recognised rcptTo) := by
  by_cases call : m.what = "call"
  · simp only [noteValid, call, forall_const]
    rw [← getTopicCat_ok_iff]
    cases getTopicCat rcptTo with
    | error panic => simp [bind, Except.bind]
    | ok cat => simp [bind, Except.bind, pure, Except.pure]
  · unfold noteValid
    split_ifs <;> exact iff_of_true ⟨_, rfl⟩ fun isCall => absurd isCall call

theorem note_returns_iff (named : Named h) (someone : parseUserId asUser ≠ 0) (greeted : s.ver ≠ 0)
    (m : MsgClientNote) :
    (∃ h', (s.note senv asUser m >>= h.deliver henv) = .ok h') ↔
    ¬ (m.what = "call" ∧ Unknown m.topic) := by
  have present : asUser ≠ "" := by
    rintro rfl
    exact someone (by decide)
  unfold ClientSession.note
  rw [if_neg (not_or.mpr ⟨greeted, present⟩)]
  cases expanded : expandTopicName asUser m.topic with
  | error refusal =>
    refine iff_of_true ⟨h, rfl⟩ fun ⟨_, unknown⟩ => ?_
    cases (unknown_expands asUser unknown).1.symm.trans expanded
  | ok rcptTo =>
    rw [not_and, ← expanded_recognised_iff someone expanded, ← noteValid_returns_iff]
    dsimp only
    constructor
    · rintro ⟨h', ran⟩
      obtain ⟨d, ran, -⟩ := bind_ok ran
      obtain ⟨valid, done, -⟩ := bind_ok ran
      exact ⟨valid, done⟩
    · rintro ⟨valid, done⟩
      rw [done]
      refine deliver_returns named fun q r sent => ?_
      cases valid with
      | false => cases sent
      | true =>
        obtain rfl := sendNote_sent sent
        exact ⟨.routeCli r, by decide⟩

theorem parseMsgClientDel_topic {what : String} :
    parseMsgClientDel what = some .topic ↔ what = "topic" := by
  constructor
  · intro parsed
    unfold parseMsgClientDel at parsed
    split_ifs at parsed with _ topic <;> first | exact topic | cases parsed
  · rintro rfl
    decide

/-- The hub looks at the category of a name that it is to delete if no topic is loaded under it. -/
theorem deliver_unreg_returns_iff (someone : parseUserId asUser ≠ 0) (body : r.body = .del m)
    (original : r.original = m.topic) (expanded : expandTopicName asUser m.topic = .ok r.rcptTo) :
    (∃ h', h.deliver henv (.hub .unreg r) = .ok h') ↔
      ¬ (Unknown m.topic ∧ h.topicGet m.topic = none ∧ henv.getSubsFails = false) := by
  have handled : h.deliver henv (.hub .unreg r) = Prod.fst <$> h.topicUnreg henv r m := by
    simp [Hub.deliver, Hub.handle, body]
  have ran : (∃ h', h.deliver henv (.hub .unreg r) = .ok h') ↔
      ∃ res, h.topicUnreg henv r m = .ok res := by
    rw [handled]
    constructor
    · rintro ⟨h', done⟩
      obtain ⟨res, done, -⟩ := map_ok done
      exact ⟨res, done⟩
    · rintro ⟨res, done⟩
      rw [done]
      exact ⟨_, rfl⟩
  rw [ran, topicUnreg_returns_iff]
  by_cases unknown : Unknown m.topic
  · obtain ⟨same, plain⟩ := unknown_expands asUser unknown
    have name : r.rcptTo = m.topic := (Except.ok.inj (same.symm.trans expanded)).symm
    have subName : r.subName = m.topic := by
      unfold Routed.subName
      rw [name, original, ite_self]
    rw [name, subName, plain]
    simp only [ne_eq, Bool.false_eq_true, or_false, unknown, true_and, not_and_or, Bool.not_eq_false]
  · refine iff_of_true (.inr (.inr ?_)) fun bad => unknown bad.1
    unfold Routed.subName
    split
    · next channel => exact recognised_of_hasPrefix (by decide) channel
    · exact (expanded_recognised_iff someone expanded).mpr unknown

theorem del_returns_iff (someone : parseUserId asUser ≠ 0) (m : Wire.MsgClientDel) :
    (∃ h', h.deliver henv (s.del senv asUser m) = .ok h') ↔ ¬ AsksCategory senv henv h (.del m) := by
  cases d : s.del senv asUser m with
  | hub q r =>
    obtain ⟨rfl, what, room, body, original, expanded⟩ := del_sent d
    rw [deliver_unreg_returns_iff someone body original expanded]
    simp [AsksCategory, parseMsgClientDel_topic.mp what, room]
  | replied _ | ignored | topic _ | elsewhere =>
    -- A request to delete a topic with an unknown name is sent to the hub.
    refine iff_of_true ⟨h, rfl⟩ fun ⟨what, unknown, room, _⟩ => ?_
    rw [ClientSession.del, parseMsgClientDel_topic.mpr what, if_neg (by decide),
      (unknown_expands asUser unknown).1] at d
    simp [offer, room] at d

theorem handleBody_returns_iff (named : Named h) (someone : parseUserId asUser ≠ 0)
    (greeted : s.ver ≠ 0)
    (body : ClientBody) :
    (∃ h', (s.handleBody senv asUser body >>= h.deliver henv) = .ok h') ↔
    ¬ AsksCategory senv henv h body := by
  have present : asUser ≠ "" := by
    rintro rfl
    exact someone (by decide)
  have sends (q r) (sent : s.handleBody senv asUser body = .ok (.hub q r)) :=
    handleBody_sent (.inr someone) sent
  cases body with
  | note m => exact note_returns_iff named someone greeted m
  | del m =>
    change (∃ h', h.deliver henv (s.checked asUser (s.del senv asUser m)) = .ok h') ↔ _
    rw [ClientSession.checked, if_neg greeted, if_neg present]
    exact del_returns_iff someone m
  | pub m | sub m | leave m | get m | set m =>
    refine iff_of_true (deliver_returns named fun q r sent => ?_) not_false
    obtain ⟨sent, only⟩ := sends q r (congrArg Except.ok sent)
    refine ⟨sent, fun unreg => ?_⟩
    obtain ⟨m, other⟩ := only unreg
    cases other
  | hi | login | acc => exact iff_of_true ⟨h, rfl⟩ not_false

theorem handleBody_ungreeted (ungreeted : s.ver = 0) (body : ClientBody) :
    ∃ h', (s.handleBody senv asUser body >>= h.deliver henv) = .ok h' := by
  cases body with
  | note m =>
    refine ⟨h, ?_⟩
    change (s.note senv asUser m >>= h.deliver henv) = _
    rw [ClientSession.note, if_pos (.inl ungreeted)]
    rfl
  | pub m | sub m | leave m | get m | set m | del m =>
    refine ⟨h, ?_⟩
    simp only [ClientSession.handleBody, ClientSession.checked, if_pos ungreeted]
    rfl
  | hi | login | acc => exact ⟨h, rfl⟩

theorem actingUser_returns_iff :
    (∃ asUser, s.actingUser extra = .ok asUser) ↔
      ∀ e, extra = some e → (e.asUser = "" ∧ e.authLevel = "") ∨
        (s.authLvl = .root ∧ parseUserId e.asUser ≠ 0) := by
  cases extra with
  | none => simp [ClientSession.actingUser]
  | some e =>
    simp only [ClientSession.actingUser, Option.some.injEq, forall_eq']
    split_ifs with blank root zero <;> simp_all

/-- In every state of the hub, a message of an authenticated session is handled without a panic
unless it is one of the two kinds with an unknown name. What runs and what is stored has a
category. -/
theorem message_returns_iff (events : List HubEvent) (senv : SessionEnv) (henv : HubEnv)
    (s : ClientSession)
    (msg : ClientComMessage) (authenticated : s.uid ≠ 0) :
    let h := run Hub.step Hub.initial events
    ((∃ h', h.serve senv henv s msg = .ok h') ↔ ¬ Crashes senv henv h s msg) ∧
      (∀ t ∈ h.topics, t.running → ∃ cat, getTopicCat t.name = .ok cat) ∧
      ∀ row ∈ h.rows, ∃ cat, getTopicCat row.topic = .ok cat := by
  intro h
  have named : Named h := run_named events
  refine ⟨?_, fun t member running => getTopicCat_ok_iff.mpr (named.running t member running),
    fun row stored => getTopicCat_ok_iff.mpr (named.stored row stored)⟩
  unfold Hub.serve ClientSession.dispatch
  cases acting : s.actingUser msg.extra with
  | error refusal =>
    refine iff_of_true ⟨h, rfl⟩ fun crashes => ?_
    obtain ⟨asUser, done⟩ := actingUser_returns_iff.mpr crashes.1.2.2
    cases acting.symm.trans done
  | ok asUser =>
    have someone : parseUserId asUser ≠ 0 := actingUser_authenticated authenticated acting
    have allowed := actingUser_returns_iff.mp ⟨asUser, acting⟩
    cases selected : selectBody msg with
    | none =>
      refine iff_of_true ⟨h, rfl⟩ fun ⟨_, body, found, _⟩ => ?_
      cases selected.symm.trans found
    | some body =>
      dsimp only
      cases partitioned : senv.partitioned with
      | true =>
        refine iff_of_true ⟨h, rfl⟩ fun crashes => ?_
        cases partitioned.symm.trans crashes.1.1
      | false =>
        by_cases greeted : s.ver = 0
        · refine iff_of_true ?_ fun crashes => crashes.1.2.1 greeted
          exact handleBody_ungreeted greeted body
        · rw [if_neg (by decide), handleBody_returns_iff named someone greeted]
          refine not_congr ⟨fun asks => ⟨⟨partitioned, greeted, allowed⟩, body, selected, asks⟩, ?_⟩
          rintro ⟨-, body', found, asks⟩
          cases selected.symm.trans found
          exact asks

/-- A request to join a topic with an unknown name is handled. -/
theorem unknown_sub_returns :
    (1 : Uid) ≠ 0 ∧
      ∃ h', (run Hub.step Hub.initial []).serve {} {} { ver := 15, uid := 1, authLvl := .auth }
        { sub := some { topic := "xyz" } } = .ok h' := by
  have someone : (1 : Uid) ≠ 0 := by decide
  refine ⟨someone, ?_⟩
  refine (message_returns_iff [] {} {} { ver := 15, uid := 1, authLvl := .auth }
    { sub := some { topic := "xyz" } } someone).1.mpr ?_
  rintro ⟨-, body, selected, asks⟩
  cases selected
  exact asks

/-- The session panics on a call to an unknown topic, the hub on the deletion of one. -/
theorem unknown_call_and_deletion_panic :
    (run Hub.step Hub.initial []).serve {} {} { ver := 15, uid := 1, authLvl := .auth }
        { note := some { topic := "xyz", what := "call", seqId := 1 } } =
        .error (.invalidTopicType "xyz") ∧
      (run Hub.step Hub.initial []).serve {} {} { ver := 15, uid := 1, authLvl := .auth }
        { del := some { topic := "ab", what := "topic" } } = .error .sliceBounds := by
  constructor <;> rfl

end LastochkaServer.Guarantees.TopicNames
