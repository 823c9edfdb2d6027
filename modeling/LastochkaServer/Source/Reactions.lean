import LastochkaServer.Source.Dispatch
import LastochkaServer.Source.Topic.Calls

/-!
# Reactions

The two ways in which a client sends a reaction, from the session to the topic: `{note
what="react"}` (`server/reactions.go:45-79`, `server/session.go:1250-1322`,
`server/topic.go:1150-1193`) and a `{pub}` that carries it (`server/reactions.go:81-140`,
`server/topic.go:1100-1130`), and the reactions in the history of a topic
(`server/reactions.go:200-232`, `server/topic.go:2817-2879`,
`server/db/postgres/adapter.go:2677-2742, 2956-3013`).

The JSON of a payload is taken as decoded, and that of a header is made by `encode`, a parameter.
Left out of the history: timestamps, and the sender's name, which channel readers do not get.
-/

namespace LastochkaServer.Source

open Lib Wire AccessMode

def applyReaction (env : Env) (cast : Cast) (v : Server) (uid : Uid) (seq : Int) (op : ReactionOp)
    (emoji : String) :
    Handler Server :=
  match storeReaction env v uid seq op emoji with
  | none => .ok v
  | some v => do
    let _ ← Exec.run (v.topic.original uid)
    cast (.react seq uid) v

/-- `{note what=react}`. -/
structure ReactNote where
  sess : Session
  asUid : Uid
  original : Addressing := .topic
  seqId : Int
  event : String := ""
  /-- The emoji, empty where there is no payload, and `none` where it does not parse. -/
  payload : Option String := some ""

/-- The event of a reaction; an empty one stands for `add`. -/
def reactionEvent (event : String) : Option ReactionOp :=
  if event = "" ∨ event = "add" then some .add
  else if event = "remove" then some .remove
  else none

def handleReactionEvent (env : Env) (cast : Cast) (v : Server) (r : ReactNote) : Handler Server :=
  if r.asUid = 0 then .ok v
  else
    match reactionEvent r.event with
    | none => .ok v
    | some .remove => applyReaction env cast v r.asUid r.seqId .remove ""
    | some .add =>
      match r.payload with
      | none => .ok v
      | some emoji =>
        if !isValidReactionEmoji emoji then .ok v
        else applyReaction env cast v r.asUid r.seqId .add emoji

/-- The part of `handleNoteBroadcast` that concerns reactions. -/
def handleReactNote (env : Env) (cast : Cast) (v : Server) (r : ReactNote) : Handler Server :=
  if v.topic.inactive ∨ r.seqId > v.topic.lastID then .ok v
  else
    match v.topic.verifyChannelAccess r.original with
    | .error _ => .ok v
    | .ok _ => handleReactionEvent env cast v r

def ReactionOp.text : ReactionOp → String
  | .add => "add"
  | .remove => "remove"

/-- A reaction as a client means it; the number of the message is an `int`. -/
structure Reaction where
  topic : String
  seq : Int
  op : ReactionOp
  emoji : String
  lower : -2 ^ 63 ≤ seq := by decide
  upper : seq < 2 ^ 63 := by decide

namespace Reaction

/-- `{note what="react"}`; `payload` is the JSON of the emoji. -/
def note (x : Reaction) (payload : Raw) : MsgClientNote :=
  { topic := x.topic, what := "react", seqId := x.seq, event := x.op.text, payload := payload }

/-- `{"react": ":<seq>", "react-op": "add"|"remove"}` -/
def head (x : Reaction) : Head :=
  ((∅ : Head).insert "react" (.str (":" ++ toString x.seq))).insert "react-op" (.str x.op.text)

/-- The content of the carrier: a plain text, or Drafty with some JSON. -/
def content (x : Reaction) : Option String → Any
  | none => .str x.emoji
  | some json => .object (some x.emoji) json

/-- The `{pub}` that carries the reaction, as the session gets it. -/
def pub (x : Reaction) (id : String) (drafty : Option String) : MsgClientPub :=
  { id := id, topic := x.topic, head := x.head, content := x.content drafty }

/-- The carrier, as the topic gets it. -/
def carrier (x : Reaction) (sess : Session) (asUid : Uid) (id : String) (drafty : Option String) :
    PubRequest :=
  { sess := sess, id := id, asUid := asUid, head := some x.head, content := x.content drafty }

end Reaction

/-- The message gets to the topic: through the queue of the topic or through the hub. -/
def Dispatched.passed : Dispatched → Bool
  | .topic _ | .hub .routeCli _ => true
  | _ => false

/-- The session of a client, with what it and its topic find around them. -/
structure Sender where
  client : ClientSession
  around : SessionEnv
  sess : Session
  asUser : String
  original : Addressing := .topic

namespace Sender

/-- The session passes the message on to the topic. -/
def passes (c : Sender) (body : ClientBody) : Bool :=
  match c.client.handleBody c.around c.asUser body with
  | .ok sent => sent.passed
  | .error _ => false

def asUid (c : Sender) : Uid := parseUserId c.asUser

/-- Send a reaction as `{note what="react"}`. -/
def sendNote (c : Sender) (env : Env) (fuel : Nat) (v : Server) (x : Reaction) (payload : Raw) :
    Handler Server :=
  if c.passes (.note (x.note payload)) then
    handleReactNote env (broadcastToSessions env fuel) v
      { sess := c.sess, asUid := c.asUid, original := c.original, seqId := x.seq, event := x.op.text,
        payload := some x.emoji }
  else .ok v

/-- Send a reaction as a `{pub}`. -/
def sendPub (c : Sender) (env : Env) (fuel : Nat) (v : Server) (x : Reaction) (id : String)
    (drafty : Option String) : Handler Server :=
  if c.passes (.pub (x.pub id drafty)) then
    (·.1) <$> handlePubBroadcast env fuel v (x.carrier c.sess c.asUid id drafty)
  else .ok v

end Sender

/-- `ReactionsForMessages`, by message and user. -/
def reactionsForMessages (s : Store) (seqs : List Int) : GoMap Int (GoMap Uid String) :=
  (s.reactions.entries.filter fun e => seqs.contains e.1.1).foldl (fun result e =>
    result.insert e.1.1 (((result.lookup e.1.1).getD ∅).insert e.1.2 e.2)) ∅

section

variable (encode : (Uid → Option String) → String)

/-- `head["reactions"] = users` -/
def Message.withReactions (m : Message) (users : GoMap Uid String) : Message :=
  { m with head := some ((m.head.getD ∅).insert "reactions" (.object none (encode users.lookup))) }

/-- `enrichMessagesWithReactions`; `fails` says whether the query fails. -/
def enrichMessagesWithReactions (s : Store) (fails : Bool) (messages : List Message) : List Message :=
  if messages = [] then messages
  else if fails then messages
  else
    let bySeq := reactionsForMessages s (messages.map (·.seqId)).dedup
    if bySeq.len = 0 then messages
    else messages.map fun m =>
      match bySeq.lookup m.seqId with
      | none => m
      | some users => if users.len > 0 then m.withReactions encode users else m

/-- What `replyGetData` reads of the request, and the part of the `WHERE` clause that selects
messages. -/
structure GetData where
  asUid : Uid
  /-- The query has fields that make no sense here. -/
  malformed : Bool := false
  select : Message → Bool := fun _ => true
  limit : Nat := 24
  getAllFails : Bool := false
  reactionsFail : Bool := false

/-- `Messages.GetAll`: the last messages first. -/
def Store.getAll (s : Store) (r : GetData) : List Message :=
  ((s.messages.filter r.select).reverse).take r.limit

/-- `replyGetData`: the messages sent to the client, or the reply to a request that is refused. -/
def replyGetData (w : World) (r : GetData) : Except Reply (List Message) :=
  if r.malformed then .error .errMalformed
  else if !(w.topic.pud r.asUid).mode.isReader then .error .errPermissionDenied
  else if r.getAllFails then .error .errUnknown
  else .ok (enrichMessagesWithReactions encode w.store r.reactionsFail (w.store.getAll r))

end

end LastochkaServer.Source
