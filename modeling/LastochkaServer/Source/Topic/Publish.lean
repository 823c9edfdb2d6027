import LastochkaServer.Source.Topic.Save

/-!
# Publishing

The part of `saveAndBroadcastMessage` and `handlePubBroadcast` (`server/topic.go:1003-1146`) that
comes before the broadcast, and the recognition of reactions sent as messages
(`server/reactions.go:78-145`).

A handler depends on things that the topic does not control: which store calls fail, which sessions
do not take a message, in which order a map is visited. `Env` supplies them; calls that can happen
several times in one handler are numbered.
-/

namespace LastochkaServer.Source

open Lib AccessMode

structure Env where
  /-- Calls are enabled: `len(globals.iceServers) > 0`. -/
  iceServers : Bool := true
  media : Option MediaHandler := none
  /-- The failures of the `n`-th `Save`. -/
  saveFaults : Nat → SaveFaults := fun _ => {}
  reactionFails : Bool := false
  /-- The failures of the store when a user unsubscribes. -/
  leaveFaults : Faults := fun _ => false
  /-- The queue of the session does not take the `n`-th broadcast. -/
  refuses : Nat → SessionKey → Bool := fun _ _ => false
  /-- The order in which the `n`-th broadcast visits the sessions. -/
  order : Nat → List SessionKey → List SessionKey := fun _ sessions => sessions
  order_perm : ∀ n sessions, (order n sessions).Perm sessions := by exact fun _ _ => .refl _
  /-- `s.background` of the sessions at this node. -/
  background : SessionKey → Bool := fun _ => false
  /-- Milliseconds since the call was accepted, at the `n`-th `Save`. -/
  callDuration : Nat → Nat := fun _ => 0

/-- The topic and the numbers of saved messages and of broadcasts so far. -/
structure Server where
  world : World
  saves : Nat := 0
  casts : Nat := 0

namespace Server

def topic (v : Server) : Topic := v.world.topic

def setTopic (v : Server) (topic : Topic) : Server :=
  { v with world := { v.world with topic := topic } }

def emit (v : Server) (e : Effect) : Server := { v with world := v.world.emit e }

section

variable (v : Server)

@[simp] theorem setTopic_topic (t : Topic) : (v.setTopic t).topic = t := rfl
@[simp] theorem setTopic_store (t : Topic) :
    (v.setTopic t).world.store = v.world.store := rfl

end

end Server

/-- `{pub}`, and the arguments of `saveAndBroadcastMessage`. -/
structure PubRequest where
  sess : Session
  id : String := ""
  asUid : Uid
  noEcho : Bool := false
  attachments : List String := []
  head : Option Head := none
  content : Any := .null

/-- Anyone may post to `sys`; other topics require the `W` permission. -/
def Topic.writable (t : Topic) (uid : Uid) : Bool := t.cat == .sys || (t.pud uid).mode.isWriter

/-- The header names the user who has sent the message on behalf of another one, and nobody else. -/
def PubRequest.signedHead (r : PubRequest) : Option Head :=
  if r.sess.uid ≠ r.asUid then some ((r.head.getD ∅).insert "sender" (.user r.sess.uid))
  else r.head.map (·.erase "sender")

def PubRequest.message (r : PubRequest) (t : Topic) : Message :=
  { seqId := t.lastID + 1, sender := r.asUid, head := r.signedHead, content := r.content }

/-- The topic after a message by `uid` has been saved. -/
def Topic.countMessage (t : Topic) (uid : Uid) : Topic :=
  let lastID := t.lastID + 1
  let t := { t with lastID := lastID }
  match t.perUser.lookup uid with
  | some pud => t.setPud uid { pud with readID := lastID, recvID := lastID }
  | none => t

/-- `saveAndBroadcastMessage` up to the broadcast; the result is the reply to the sender where the
message is refused. -/
def saveMessage (env : Env) (v : Server) (r : PubRequest) : Exec (Server × Except Reply Unit) :=
  let t := v.topic
  let refuse (v : Server) (reply : Reply) : Exec (Server × Except Reply Unit) := do
    let _ ← t.original r.asUid
    return (v.emit (.queueOut r.sess.sid reply), .error reply)
  if !t.writable r.asUid then refuse v .errPermissionDenied
  else do
    let (store, saved) ← v.world.store.save env.media (env.saveFaults v.saves) (r.message t)
      r.attachments (t.pud r.asUid).mode.isReader
    let v := { v with world := { v.world with store := store }, saves := v.saves + 1 }
    if saved.isNone then refuse v .errUnknown
    else
      let v := v.setTopic (t.countMessage r.asUid)
      if r.id = "" then return (v, .ok ())
      else
        let _ ← v.topic.original r.asUid
        return (v.emit (.queueOut r.sess.sid (.noErrAccepted v.topic.lastID)), .ok ())

/-- `{pub head={webrtc: …}}` starts a call. -/
def PubRequest.isCall (r : PubRequest) : Bool :=
  ((r.head.bind (·.lookup "webrtc")).getD .null) != .null

/-- The checks of `handlePubBroadcast`: the reply to a request that is refused. -/
def pubRefusal (env : Env) (t : Topic) (r : PubRequest) : Exec (Option Reply) :=
  if t.inactive then (fun _ => some .errLocked) <$> t.original r.asUid
  else if t.readOnly then (fun _ => some .errPermissionDenied) <$> t.original r.asUid
  else if r.isCall then
    if !env.iceServers then .ok (some .errNotImplemented)
    else if t.cat ≠ .p2p then .ok (some .errPermissionDenied)
    else if t.currentCall.isSome then .ok (some .errCallBusy)
    else .ok none
  else .ok none

inductive ReactionOp
  | add | remove
  deriving DecidableEq, Repr

def atoi (text : List Char) : Option Int :=
  let (negative, digits) :=
    match text with
    | '-' :: rest => (true, rest)
    | '+' :: rest => (false, rest)
    | _ => (false, text)
  if digits.isEmpty || !digits.all Char.isDigit then none
  else
    let n : Nat := digits.foldl (fun n c => 10 * n + (c.toNat - '0'.toNat)) 0
    if negative then if n ≤ 2 ^ 63 then some (-n) else none
    else if n < 2 ^ 63 then some n else none

/-- The string under a key of the header, empty where it is missing or not a string. -/
def headString (head : Head) (key : String) : String :=
  match head.lookup key with
  | some (.str text) => text
  | _ => ""

def parseReactionCarrier (r : PubRequest) : Option (Int × ReactionOp) :=
  match r.head with
  | none => none
  | some head =>
    match (headString head "react").toList with
    | ':' :: digits =>
      match atoi digits with
      | none => none
      | some seq =>
        if seq ≤ 0 then none
        else if headString head "react-op" = "" ∨ headString head "react-op" = "add" then
          some (seq, .add)
        else if headString head "react-op" = "remove" then some (seq, .remove)
        else none
    | _ => none

def isSpace (c : Char) : Bool :=
  let n := c.toNat
  (9 ≤ n && n ≤ 13) || n == 0x20 || n == 0x85 || n == 0xA0 || n == 0x1680 ||
    (0x2000 ≤ n && n ≤ 0x200A) || n == 0x2028 || n == 0x2029 || n == 0x202F || n == 0x205F ||
    n == 0x3000

def trimSpace (text : String) : String :=
  String.ofList ((((text.toList.dropWhile isSpace).reverse).dropWhile isSpace).reverse)

def reactionEmojiFromContent : Any → String
  | .str text => trimSpace text
  | .object (some txt) _ => trimSpace txt
  | _ => ""

def isValidReactionEmoji (emoji : String) : Bool :=
  emoji != "" && decide (emoji.toList.length ≤ 16)

/-- The part of `applyReaction` before the broadcast; `none` when the reaction is dropped. -/
def storeReaction (env : Env) (v : Server) (uid : Uid) (seq : Int) (op : ReactionOp)
    (emoji : String) : Option Server :=
  match v.topic.perUser.lookup uid with
  | none => none
  | some pud =>
    if pud.deleted || !pud.mode.isReader then none
    else if seq ≤ 0 ∨ seq > v.topic.lastID then none
    else if env.reactionFails then none
    else
      let store := v.world.store
      let reactions :=
        match op with
        | .add => store.reactions.insert (seq, uid) emoji
        | .remove => store.reactions.erase (seq, uid)
      some { v with world := { v.world with store := { store with reactions := reactions } } }

variable {env : Env} {v : Server} {uid : Uid}

theorem storeReaction_frame {v' : Server} {seq : Int} {op : ReactionOp} {emoji : String}
    (stored : storeReaction env v uid seq op emoji = some v') : ∃ reactions,
      v' = { v with
        world := { v.world with store := { v.world.store with reactions := reactions } } } := by
  unfold storeReaction at stored
  split at stored
  · cases stored
  split_ifs at stored
  cases stored
  exact ⟨_, rfl⟩

@[simp] theorem Topic.countMessage_lastID (t : Topic) (uid : Uid) :
    (t.countMessage uid).lastID = t.lastID + 1 := by
  unfold countMessage
  dsimp only
  split <;> rfl

/-- Apart from the counter only the marks of the sender change. -/
theorem Topic.countMessage_frame (t : Topic) (uid : Uid) :
    t.countMessage uid =
      { t with lastID := t.lastID + 1, perUser := (t.countMessage uid).perUser } := by
  unfold countMessage
  dsimp only
  split <;> rfl

theorem Topic.countMessage_lookup (t : Topic) (uid v : Uid) :
    (t.countMessage uid).perUser.lookup v =
      (t.perUser.lookup v).map fun pud =>
        if v = uid then { pud with readID := t.lastID + 1, recvID := t.lastID + 1 } else pud := by
  unfold countMessage
  dsimp only
  cases cached : t.perUser.lookup uid with
  | none =>
    cases other : t.perUser.lookup v with
    | none => simp
    | some pud =>
      have ne : v ≠ uid := by
        rintro rfl
        rw [cached] at other
        cases other
      simp [ne]
  | some pud =>
    by_cases same : v = uid
    · subst same
      simp [setPud, AList.lookup_insert, cached]
    · simp only [setPud, AList.lookup_insert_ne same, same, if_false]
      cases t.perUser.lookup v <;> rfl

theorem Topic.countMessage_original {t : Topic} {v : Uid} {name : String}
    (known : t.original v = .ok name) : ∃ name, (t.countMessage uid).original v = .ok name := by
  have cat : (t.countMessage uid).cat = t.cat := (congrArg Topic.cat (t.countMessage_frame uid) :)
  unfold Topic.original at known ⊢
  rw [cat]
  cases kind : t.cat with
  | p2p =>
    rw [kind] at known
    rw [countMessage_lookup]
    cases cached : t.perUser.lookup v with
    | some pud => exact ⟨_, rfl⟩
    | none =>
      rw [cached] at known
      cases known
  | me | fnd | grp | sys | slf => exact ⟨_, rfl⟩

/-- The user may write and the message can be stored. -/
def Storable (env : Env) (v : Server) (r : PubRequest) : Prop :=
  v.topic.writable r.asUid ∧
    v.world.store.Insertable (env.saveFaults v.saves) (v.topic.lastID + 1)
  deriving Decidable

/-- A message that is stored can be linked to its attachments. -/
def LinkSafe (env : Env) (v : Server) (r : PubRequest) : Prop :=
  Storable env v r →
    Store.Linkable env.media (env.saveFaults v.saves) v.world.store r.attachments
  deriving Decidable

theorem linkSafe_nil {r : PubRequest} (noFiles : r.attachments = []) : LinkSafe env v r :=
  fun _ => .inl noFiles

section saveMessage

variable {v' : Server} {r : PubRequest} {res : Except Reply Unit}

/-- The state after a message has been accepted, up to what is sent and marked as read. -/
structure MessageSaved (v : Server) (r : PubRequest) (v' : Server) : Prop where
  topic : v'.topic = v.topic.countMessage r.asUid
  messages : v'.world.store.messages = v.world.store.messages ++ [r.message v.topic]
  casts : v'.casts = v.casts

/-- The state after a message has been refused, up to the reply. -/
structure MessageRefused (v v' : Server) : Prop where
  topic : v'.topic = v.topic
  messages : v'.world.store.messages = v.world.store.messages
  casts : v'.casts = v.casts

theorem saveMessage_rejected (rejected : ¬ Storable env v r) :
    ∃ (seqId : Int) (saves : Nat) (reply : Reply),
    saveMessage env v r = (fun _ => (Server.emit { v with
      world := { v.world with store := { v.world.store with seqId := seqId } }, saves := saves }
      (.queueOut r.sess.sid reply), .error reply)) <$> v.topic.original r.asUid := by
  unfold saveMessage
  dsimp only
  split
  · refine ⟨v.world.store.seqId, v.saves, .errPermissionDenied, ?_⟩
    cases v.topic.original r.asUid <;> rfl
  next writable =>
  have writable : v.topic.writable r.asUid := by simpa using writable
  obtain ⟨seqId, failed⟩ := Store.save_rejected (m := r.message v.topic) env.media r.attachments
    (v.topic.pud r.asUid).mode.isReader fun insertable => rejected ⟨writable, insertable⟩
  rw [failed]
  refine ⟨seqId, v.saves + 1, .errUnknown, ?_⟩
  cases v.topic.original r.asUid <;> rfl

theorem saveMessage_refused (rejected : ¬ Storable env v r)
    (ran : saveMessage env v r = .ok (v', res)) :
    (∃ reply, res = .error reply) ∧ MessageRefused v v' := by
  obtain ⟨seqId, saves, reply, same⟩ := saveMessage_rejected rejected
  rw [same] at ran
  obtain ⟨name, -, outcome⟩ := map_ok ran
  cases outcome
  exact ⟨⟨_, rfl⟩, rfl, rfl, rfl⟩

theorem saveMessage_saved (storable : Storable env v r) (safe : LinkSafe env v r)
    (ran : saveMessage env v r = .ok (v', res)) : res = .ok () ∧ MessageSaved v r v' := by
  obtain ⟨store, marked, saved, messages⟩ := Store.save_ok (m := r.message v.topic)
    (v.topic.pud r.asUid).mode.isReader storable.2 (safe storable)
  unfold saveMessage at ran
  rw [if_neg (by simp [storable.1])] at ran
  obtain ⟨written, stored, ran⟩ := bind_ok ran
  rw [saved] at stored
  cases stored
  simp only [Option.isNone_some, Bool.false_eq_true, if_false] at ran
  split at ran
  · cases ran
    exact ⟨rfl, rfl, messages, rfl⟩
  · obtain ⟨name, -, ran⟩ := bind_ok ran
    cases ran
    exact ⟨rfl, rfl, messages, rfl⟩

theorem saveMessage_frame (ran : saveMessage env v r = .ok (v', res)) :
    (v'.topic = v.topic ∨ v'.topic = v.topic.countMessage r.asUid) ∧
      (v'.world.store.messages = v.world.store.messages ∨
        v'.world.store.messages = v.world.store.messages ++ [r.message v.topic]) := by
  unfold saveMessage at ran
  dsimp only at ran
  split at ran
  · obtain ⟨name, -, ran⟩ := bind_ok ran
    cases ran
    exact ⟨.inl rfl, .inl rfl⟩
  obtain ⟨⟨store, saved⟩, stored, ran⟩ := bind_ok ran
  have kept := Store.save_messages stored
  split at ran
  · obtain ⟨name, -, ran⟩ := bind_ok ran
    cases ran
    exact ⟨.inl rfl, kept⟩
  split at ran
  · cases ran
    exact ⟨.inr rfl, kept⟩
  · obtain ⟨name, -, ran⟩ := bind_ok ran
    cases ran
    exact ⟨.inr rfl, kept⟩

theorem saveMessage_returns {name : String} (known : v.topic.original r.asUid = .ok name)
    (safe : LinkSafe env v r) : ∃ v' res, saveMessage env v r = .ok (v', res) := by
  by_cases storable : Storable env v r
  · obtain ⟨store, marked, stored, -⟩ := Store.save_ok (m := r.message v.topic)
      (v.topic.pud r.asUid).mode.isReader storable.2 (safe storable)
    obtain ⟨name', known'⟩ : ∃ name, (v.topic.countMessage r.asUid).original r.asUid = .ok name :=
      Topic.countMessage_original known
    unfold saveMessage
    rw [if_neg (by simp [storable.1]), stored]
    simp only [bind, Except.bind, Option.isNone_some, Bool.false_eq_true, if_false,
      Server.setTopic_topic, known']
    split_ifs <;> exact ⟨_, _, rfl⟩
  · obtain ⟨seqId, saves, reply, same⟩ := saveMessage_rejected storable
    rw [same, known]
    exact ⟨_, _, rfl⟩

end saveMessage

end LastochkaServer.Source
