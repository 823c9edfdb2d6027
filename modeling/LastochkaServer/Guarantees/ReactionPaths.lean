import LastochkaServer.Source.Reactions

/-!
# Two ways to send a reaction

`server/reactions.go` documents `{note what="react"}` as the way to send a reaction and processes a
`{pub}` that carries one "exactly like" it, for clients that cannot send such a note. The topic has
a handler for both. The session has none for the first: the `switch` of `note` knows no `react` and
drops the message.

`paths_agree_iff`: the two ways have the same outcome just when the carrier is rejected too.
-/

namespace LastochkaServer.Guarantees.ReactionPaths

open Lib Source

variable {r : PubRequest} {msg : Broadcast} {op : ReactionOp} {emoji : String}

variable (c : Sender)

theorem note_dropped (x : Reaction) (payload : Wire.Raw) :
    c.passes (.note (x.note payload)) = false := by
  unfold Sender.passes ClientSession.handleBody ClientSession.note
  dsimp only
  split_ifs
  · rfl
  · cases expandTopicName c.asUser (x.note payload).topic with
    | error refusal => rfl
    | ok rcptTo =>
      rfl

theorem sendNote_ignored (env : Env) (fuel : Nat) (v : Server) (x : Reaction) (payload : Wire.Raw) :
    c.sendNote env fuel v x payload = .ok v := by
  unfold Sender.sendNote
  rw [note_dropped]
  rfl

/-- The client has said `{hi}` and logged in, the name is that of a topic its session is attached
to, or of `sys`, and the queue has room. -/
def Attached (c : Sender) (topic : String) : Prop :=
  c.client.ver ≠ 0 ∧ c.asUser ≠ "" ∧ c.around.full = false ∧
    ∃ rcptTo, expandTopicName c.asUser topic = .ok rcptTo ∧ (rcptTo ∈ c.client.subs ∨ rcptTo = "sys")

theorem pub_passes_iff (x : Reaction) (id : String) (drafty : Option String) :
    c.passes (.pub (x.pub id drafty)) ↔ Attached c x.topic := by
  have topic : (x.pub id drafty).topic = x.topic := rfl
  simp only [Sender.passes, ClientSession.handleBody, ClientSession.checked, Attached]
  by_cases greeted : c.client.ver = 0
  · simp [greeted, Dispatched.passed]
  by_cases user : c.asUser = ""
  · simp [greeted, user, Dispatched.passed]
  rw [if_neg greeted, if_neg user]
  unfold ClientSession.publish
  rw [topic]
  cases named : expandTopicName c.asUser x.topic with
  | error refusal => simp [Dispatched.passed]
  | ok rcptTo =>
    cases full : c.around.full <;> by_cases subscribed : rcptTo ∈ c.client.subs <;>
      by_cases sys : rcptTo = "sys" <;>
      simp_all [offer, Dispatched.passed]

theorem atoi_digits {c : Char} {rest : List Char} (digits : (c :: rest).all Char.isDigit) :
    atoi (c :: rest) = if Nat.ofDigitChars 10 (c :: rest) 0 <
      2 ^ 63 then some (Nat.ofDigitChars 10 (c :: rest) 0 : Int)
      else none := by
  unfold atoi
  split
  next negative text signed =>
  split at signed
  · next given => cases given; contradiction
  · next given => cases given; contradiction
  · cases signed
    rw [digits]
    rfl

theorem digits_shape (n : Nat) :
    ∃ c rest, Nat.toDigits 10 n = c :: rest ∧ (c :: rest).all Char.isDigit ∧
    Nat.ofDigitChars 10 (c :: rest) 0 = n := by
  have all : (Nat.toDigits 10 n).all Char.isDigit :=
    List.all_eq_true.mpr fun c mem => Nat.isDigit_of_mem_toDigits (by decide) (by decide) mem
  have value : Nat.ofDigitChars 10 (Nat.toDigits 10 n) 0 = n :=
    Nat.ofDigitChars_toDigits (by decide) (by decide)
  cases digits : Nat.toDigits 10 n with
  | nil => exact absurd digits Nat.toDigits_ne_nil
  | cons c rest =>
    rw [digits] at all value
    exact ⟨c, rest, rfl, all, value⟩

theorem atoi_toString (n : Int) (lower : -2 ^ 63 ≤ n) (upper : n < 2 ^ 63) :
    atoi (toString n).toList = some n := by
  cases n with
  | ofNat n =>
    obtain ⟨c, rest, digits, all, value⟩ := digits_shape n
    have printed : (toString (Int.ofNat n)).toList = c :: rest := by
      change (Nat.repr n).toList = _
      rw [Nat.repr_eq_ofList_toDigits, digits, String.toList_ofList]
    have bound : n < 2 ^ 63 := by
      have : (Int.ofNat n : Int) = n := rfl
      omega
    rw [printed, atoi_digits all, value, if_pos bound]
    rfl
  | negSucc n =>
    obtain ⟨c, rest, digits, all, value⟩ := digits_shape (n + 1)
    have printed : (toString (Int.negSucc n)).toList = '-' :: c :: rest := by
      change ("-" ++ Nat.repr (n + 1)).toList = _
      simp [Nat.repr_eq_ofList_toDigits, digits, String.toList_append]
    have bound : n + 1 ≤ 2 ^ 63 := by omega
    have read : atoi ('-' :: c :: rest) =
        if (c :: rest).isEmpty || !(c :: rest).all Char.isDigit then none
        else if Nat.ofDigitChars 10 (c :: rest) 0 ≤ 2 ^ 63 then
          some (-(Nat.ofDigitChars 10 (c :: rest) 0 : Int))
        else none := rfl
    rw [printed, read, all, value, if_neg (by simp), if_pos bound]
    rfl

theorem carrier_parsed (x : Reaction) (sess : Session) (uid : Uid) (id : String)
    (drafty : Option String) :
    parseReactionCarrier (x.carrier sess uid id drafty) = if 0 < x.seq then some (x.seq, x.op)
      else none := by
  have react : headString x.head "react" = ":" ++ toString x.seq := by
    unfold headString Reaction.head
    rw [AList.lookup_insert_ne (by decide), AList.lookup_insert]
  have op : headString x.head "react-op" = x.op.text := by simp [headString, Reaction.head]
  have text : (":" ++ toString x.seq).toList = ':' :: (toString x.seq).toList := by
    simp [String.toList_append]
  unfold parseReactionCarrier Reaction.carrier
  dsimp only
  rw [react, text]
  simp only [atoi_toString x.seq x.lower x.upper, op]
  by_cases pos : 0 < x.seq
  · rw [if_neg (by omega), if_pos pos]
    cases x.op <;> rfl
  · rw [if_pos (by omega), if_neg pos]

theorem carrier_isCall (x : Reaction) (sess : Session) (uid : Uid) (id : String)
    (drafty : Option String) :
    (x.carrier sess uid id drafty).isCall = false := by
  have absent : x.head.lookup "webrtc" = none := by
    unfold Reaction.head
    rw [AList.lookup_insert_ne (by decide), AList.lookup_insert_ne (by decide), AList.lookup_empty]
  simp [PubRequest.isCall, Reaction.carrier, absent]

/-- What has been broadcast, and to whom. -/
def broadcasts (w : World) : List (Broadcast × List SessionKey) :=
  w.out.filterMap fun
    | .broadcast msg recipients => some (msg, recipients)
    | _ => none

/-- A request that is accepted is broadcast, so the number of broadcasts says whether it is. -/
structure SameOutcome (v₁ v₂ : Server) : Prop where
  accepted : v₁.casts = v₂.casts
  reactions : v₁.world.store.reactions = v₂.world.store.reactions
  broadcasts : broadcasts v₁.world = broadcasts v₂.world

theorem SameOutcome.refl (v : Server) : SameOutcome v v := ⟨rfl, rfl, rfl⟩

theorem SameOutcome.replied (v : Server) (sid : String) (reply : Reply) :
    SameOutcome v (v.emit (.queueOut sid reply)) :=
  ⟨rfl, rfl, by simp [ReactionPaths.broadcasts, Server.emit, World.emit]⟩

theorem casts_invariant (env : Env) (n : Nat) : BroadcastInvariant env fun v => n ≤ v.casts where
  save v v' r res fromCall counted ran := by
    have same : v'.casts = v.casts := by
      by_cases storable : Storable env v r
      · exact (saveMessage_saved storable (linkSafe_nil fromCall.noFiles) ran).2.casts
      · exact (saveMessage_refused storable ran).2.casts
    omega
  sent v counted := by
    change n ≤ v.casts + 1
    omega
  emit _ _ counted := counted
  ended _ counted := counted
  leave _ _ _ _ counted _ := counted

theorem cast_counts {env : Env} {fuel : Nat} {v v' : Server}
    (ran : broadcastToSessions env fuel msg v = .ok v') : v.casts < v'.casts := by
  cases fuel with
  | zero => cases ran
  | succ fuel =>
    have rule := casts_invariant env (v.casts + 1)
    have preserves := rule.broadcastToSessions fuel
    have start : v.casts + 1 ≤ ({ v with casts := v.casts + 1 } : Server).casts := Nat.le_refl _
    exact foldlM_invariant (fun _ _ _ counted step => rule.dropSession preserves counted step)
      (rule.emit _ _ start) ran

/-- The topic can name the user; outside P2P topics it always can. -/
def Known (t : Topic) (uid : Uid) : Prop := ∃ name, t.original uid = .ok name

/-- The user is subscribed and may read. -/
def Reader (t : Topic) (uid : Uid) : Prop :=
  ∃ pud, t.perUser.lookup uid = some pud ∧ pud.deleted = false ∧ pud.mode.isReader

/-- The topic takes no reaction like this: there is no emoji to add, the user may not read, there is
no such message, or the store fails. -/
def Unfit (env : Env) (t : Topic) (uid : Uid) (x : Reaction) : Prop :=
  (x.op = .add ∧ isValidReactionEmoji (trimSpace x.emoji) = false) ∨ ¬ Reader t uid ∨
    x.seq > t.lastID ∨
    env.reactionFails

/-- The topic rejects the carrier. A carrier whose number is not positive is taken for a message. -/
def Rejected (env : Env) (v : Server) (r : PubRequest) (x : Reaction) : Prop :=
  if v.topic.inactive ∨ v.topic.readOnly then Known v.topic r.asUid
  else if 0 < x.seq then Unfit env v.topic r.asUid x
  else Known v.topic r.asUid ∧ ¬ Storable env v r

section

variable {env : Env} {fuel : Nat} {v v' : Server} {x : Reaction} {uid : Uid}

theorem storeReaction_none_iff (pos : 0 < x.seq) :
    storeReaction env v uid x.seq op emoji = none ↔
      ¬ Reader v.topic uid ∨ x.seq > v.topic.lastID ∨ env.reactionFails := by
  have inRange : (x.seq ≤ 0 ∨ x.seq > v.topic.lastID) ↔ x.seq > v.topic.lastID := by omega
  unfold storeReaction Reader
  cases cached : v.topic.perUser.lookup uid with
  | none => simp
  | some pud =>
    simp only [inRange, Option.some.injEq]
    cases deleted : pud.deleted <;> cases reads : pud.mode.isReader <;> simp [deleted, reads]
    by_cases late : v.topic.lastID < x.seq <;> cases fails : env.reactionFails <;> simp [late]

theorem storeReaction_casts {seq : Int} (stored : storeReaction env v uid seq op emoji = some v') :
    v'.casts = v.casts := by
  obtain ⟨reactions, rfl⟩ := storeReaction_frame stored
  rfl

theorem broadcast_differs {start : Server} (same : start.casts = v.casts)
    (sent : broadcastToSessions env fuel msg start = .ok v') : ¬ v.casts = v'.casts := by
  have counted := cast_counts sent
  omega

theorem carrier_rejected_iff {sess : Session} {id : String} {drafty : Option String}
    (pos : 0 < x.seq) :
    (∃ out, handleReactionCarrier env (broadcastToSessions env fuel) v
        (x.carrier sess uid id drafty) x.seq x.op =
        .ok out ∧ SameOutcome v out.1) ↔ Unfit env v.topic uid x := by
  have text :
      reactionEmojiFromContent (x.carrier sess uid id drafty).content = trimSpace x.emoji := by
    cases drafty <;> rfl
  unfold handleReactionCarrier
  dsimp only
  rw [text]
  generalize made : (if x.op = .add then trimSpace x.emoji else "") = emoji
  have emojiOf (adds : x.op = .add) : trimSpace x.emoji = emoji := by rw [← made, if_pos adds]
  split
  · next invalid =>
    refine iff_of_true ⟨_, rfl, .replied v _ .errMalformed⟩ (.inl ⟨invalid.1, ?_⟩)
    rw [emojiOf invalid.1]
    simpa using invalid.2
  next valid =>
  have valid : ¬ (x.op = .add ∧ isValidReactionEmoji (trimSpace x.emoji) = false) := by
    rintro ⟨adds, invalid⟩
    rw [emojiOf adds] at invalid
    exact valid ⟨adds, by simp [invalid]⟩
  have unfit : Unfit env v.topic uid x ↔ storeReaction env v uid x.seq x.op emoji = none := by
    rw [storeReaction_none_iff pos]
    exact or_iff_right valid
  rw [unfit]
  have actor : (x.carrier sess uid id drafty).asUid = uid := rfl
  rw [actor]
  cases stored : storeReaction env v uid x.seq x.op emoji with
  | none => exact iff_of_true ⟨_, rfl, .refl v⟩ rfl
  | some reacted =>
    refine iff_of_false ?_ nofun
    rintro ⟨⟨v', reply⟩, ran, same⟩
    obtain ⟨name, -, ran⟩ := bind_ok ran
    obtain ⟨sent, broadcast, ran⟩ := bind_ok ran
    cases ran
    exact broadcast_differs (storeReaction_casts stored) broadcast same.accepted

theorem saveMessage_turned (rejected : ¬ Storable env v r) : ∃ turned reply,
    saveMessage env v r = (fun _ => (turned, .error reply)) <$> v.topic.original r.asUid ∧
      SameOutcome v turned := by
  obtain ⟨seqId, saves, reply, same⟩ := saveMessage_rejected rejected
  obtain ⟨accepted, reactions, broadcasts⟩ := SameOutcome.replied { v with
    world := { v.world with store := { v.world.store with seqId := seqId } }, saves :=
      saves } r.sess.sid reply
  exact ⟨_, reply, same, accepted, reactions, broadcasts⟩

theorem message_rejected_iff (fuel : Nat) (noFiles : r.attachments = []) :
    (∃ out, saveAndBroadcastMessage env (broadcastToSessions env fuel) v r = .ok out ∧
      SameOutcome v out.1) ↔ Known v.topic r.asUid ∧ ¬ Storable env v r := by
  unfold saveAndBroadcastMessage
  by_cases storable : Storable env v r
  · refine iff_of_false ?_ fun rejected => rejected.2 storable
    rintro ⟨⟨v', res⟩, ran, same⟩
    obtain ⟨⟨saved, outcome⟩, done, ran⟩ := bind_ok ran
    obtain ⟨rfl, effect⟩ := saveMessage_saved storable (linkSafe_nil noFiles) (Exec.run_ok.mp done)
    obtain ⟨sent, broadcast, ran⟩ := bind_ok ran
    cases ran
    exact broadcast_differs effect.casts broadcast same.accepted
  · obtain ⟨turned, reply, done, same⟩ := saveMessage_turned storable
    rw [done]
    cases named : v.topic.original r.asUid with
    | error p =>
      refine iff_of_false ?_ ?_
      · rintro ⟨out, ⟨⟩, -⟩
      · rintro ⟨⟨name, known⟩, -⟩
        rw [named] at known
        cases known
    | ok name => exact iff_of_true ⟨(turned, .error reply), rfl, same⟩ ⟨⟨name, named⟩, storable⟩

theorem closed_rejected_iff (closed : v.topic.inactive ∨ v.topic.readOnly) :
    (∃ out, handlePubBroadcast env fuel v r = .ok out ∧ SameOutcome v out.1) ↔
    Known v.topic r.asUid := by
  have refusal :
      ∃ reply, pubRefusal env v.topic r = (fun _ => some reply) <$> v.topic.original r.asUid := by
    unfold pubRefusal
    split
    · exact ⟨_, rfl⟩
    next active =>
    rw [if_pos (closed.resolve_left active)]
    exact ⟨_, rfl⟩
  obtain ⟨reply, refusal⟩ := refusal
  unfold handlePubBroadcast
  rw [refusal]
  cases named : v.topic.original r.asUid with
  | error p =>
    refine iff_of_false ?_ ?_
    · rintro ⟨out, ⟨⟩, -⟩
    · rintro ⟨name, known⟩
      rw [named] at known
      cases known
  | ok name => exact iff_of_true ⟨_, rfl, .replied v _ _⟩ ⟨name, named⟩

theorem pub_rejected_iff (fuel : Nat) (sess : Session) (id : String) (drafty : Option String) :
    (∃ out, handlePubBroadcast env fuel v (x.carrier sess uid id drafty) = .ok out ∧
      SameOutcome v out.1) ↔ Rejected env v (x.carrier sess uid id drafty) x := by
  unfold Rejected
  by_cases closed : v.topic.inactive ∨ v.topic.readOnly
  · rw [if_pos closed]
    exact closed_rejected_iff closed
  rw [if_neg closed]
  have accepted : pubRefusal env v.topic (x.carrier sess uid id drafty) = .ok none := by
    simp [pubRefusal, not_or.mp closed, carrier_isCall]
  have step {α : Type} (next : Option Reply → Handler α) :
      (Exec.run (.ok none) >>= next) = next none := rfl
  unfold handlePubBroadcast
  rw [accepted, step, carrier_parsed]
  by_cases pos : 0 < x.seq
  · rw [if_pos pos, if_pos pos]
    exact carrier_rejected_iff pos
  · rw [if_neg pos, if_neg pos, ← message_rejected_iff fuel rfl]
    refine exists_bind_iff fun out => ?_
    obtain ⟨saved, res⟩ := out
    cases res with
    | error reply => exact ⟨_, rfl, .rfl⟩
    | ok _ =>
      refine ⟨_, rfl, ?_⟩
      exact .rfl

end

/-- The two ways have the same outcome. -/
def Agree (first second : Handler Server) : Prop := ∃ v₁ v₂, first = .ok v₁ ∧ second = .ok v₂ ∧
    SameOutcome v₁ v₂

/-- A reaction sent as a note and as a `{pub}` has the same outcome just when the `{pub}` does not
get to the topic or is rejected there. -/
theorem paths_agree_iff (c : Sender) (env : Env) (fuel : Nat) (v : Server) (x : Reaction)
    (payload : Wire.Raw)
    (id : String) (drafty : Option String) :
    Agree (c.sendNote env fuel v x payload) (c.sendPub env fuel v x id drafty) ↔
      ¬ Attached c x.topic ∨ Rejected env v (x.carrier c.sess c.asUid id drafty) x := by
  rw [sendNote_ignored, ← pub_passes_iff c x id drafty]
  unfold Sender.sendPub
  cases passes : c.passes (.pub (x.pub id drafty)) with
  | false => exact iff_of_true ⟨v, v, rfl, rfl, .refl v⟩ (.inl nofun)
  | true =>
    rw [if_pos rfl, ← pub_rejected_iff fuel]
    constructor
    · rintro ⟨_, v', ⟨⟩, returned, same⟩
      obtain ⟨out, handled, rfl⟩ := map_ok returned
      exact .inr ⟨out, handled, same⟩
    · rintro (unattached | ⟨out, handled, same⟩)
      · exact absurd rfl unattached
      exact ⟨v, out.1, rfl, by rw [handled]; rfl, same⟩

/-- A reader who is attached to a group topic with one message, and the reaction to it. -/
def reader : Sender :=
  { client := { ver := 1, uid := 1, authLvl := .auth, subs := ["grpA"] }, around := {},
    sess := { sid := "s", proto := .websock, uid := 1 }, asUser := userId 1 }

def oneMessage : Server :=
  let member : PerUserData :=
    { modeWant := AccessMode.modeCPublic, modeGiven := AccessMode.modeCPublic }
  { world :=
      { topic :=
          { cat := .grp, lastID := 1, perUser := (∅ : GoMap Uid PerUserData).insert 1 member } } }

def thumbUp : Reaction := { topic := "grpA", seq := 1, op := .add, emoji := "👍" }

/-- The reaction is stored when it comes as a `{pub}`, and lost when it comes as a note. -/
theorem note_loses_reaction :
    ¬ Agree (reader.sendNote {} 1 oneMessage thumbUp [])
      (reader.sendPub {} 1 oneMessage thumbUp "1" none) := by
  have sent : Server.casts <$> reader.sendPub {} 1 oneMessage thumbUp "1" none = .ok 1 := by rfl
  rintro ⟨v₁, v₂, ⟨⟩, pub, same⟩
  rw [pub] at sent
  have counted : v₂.casts = 1 := Except.ok.inj sent
  have unsent : oneMessage.casts = v₂.casts := same.accepted
  rw [counted] at unsent
  exact absurd unsent (by decide)

end LastochkaServer.Guarantees.ReactionPaths
