import LastochkaServer.Source.TopicName
import LastochkaServer.Source.Wire.Messages

/-!
# Dispatch of client messages

What a session does with a message about a topic (`server/session.go:465-740, 1104-1320`): it finds
out on whose behalf the message is, expands the name of the topic, validates the message and either
answers it or puts it into the queue of a topic or of the hub.

A message is put into one queue at most, so one flag says whether that queue is full. Left out: what
a plug-in may put in the place of a message, the header of a published message, user agents,
counters, and the messages that are not about a topic, `{hi}`, `{login}`, `{acc}` and `{del
what="user"}`. An empty list or map stands for nil.
-/

namespace LastochkaServer.Source

open Lib Wire

/-- The replies of the session and of the hub. -/
inductive Response
  | noErr | noErrParams | noErrAccepted
  | infoNoAction | infoNotModified | infoNotJoined | infoAlreadySubscribed
  | errMalformed | errPermissionDenied | errNotFound | errTopicNotFound | errAttachFirst | errLocked
  | errUnknown | errCommandOutOfSequence | errAuthRequired | errClusterUnreachable
  | errServiceUnavailable | metaReply
  deriving DecidableEq, Repr

structure ClientSession where
  /-- Zero before `{hi}`. -/
  ver : Int
  uid : Uid
  authLvl : AuthLevel
  /-- The topics the session is attached to. -/
  subs : List String := []

/-- What the session finds around it when it handles a message. -/
structure SessionEnv where
  /-- `globals.cluster.isPartitioned()` -/
  partitioned : Bool := false
  /-- The queue that the message goes to is full. -/
  full : Bool := false
  /-- The next number of the generator of unique ids. -/
  fresh : Uid := 1

/-- `strings.SplitN(s, " ", n)`; `word` is read backwards. -/
def splitN (n : Nat) (word : List Char) : List Char → List (List Char)
  | [] => [word.reverse]
  | c :: rest =>
    if c = ' ' ∧ 1 < n then word.reverse :: splitN (n - 1) [] rest
    else splitN n (c :: word) rest

def constMsgMetaDesc : Nat := 1
def constMsgMetaSub : Nat := 2
def constMsgMetaData : Nat := 4
def constMsgMetaTags : Nat := 8
def constMsgMetaDel : Nat := 16
def constMsgMetaCred : Nat := 32
def constMsgMetaAux : Nat := 64

def parseMsgClientMeta (params : String) : Nat :=
  (splitN 8 [] params.toList).foldl (fun bits part =>
    if part = "desc".toList then bits ||| constMsgMetaDesc
    else if part = "sub".toList then bits ||| constMsgMetaSub
    else if part = "data".toList then bits ||| constMsgMetaData
    else if part = "tags".toList then bits ||| constMsgMetaTags
    else if part = "del".toList then bits ||| constMsgMetaDel
    else if part = "cred".toList then bits ||| constMsgMetaCred
    else if part = "aux".toList then bits ||| constMsgMetaAux
    else bits) 0

inductive DelWhat
  | topic | msg | sub | user | cred
  deriving DecidableEq, Repr

def parseMsgClientDel (params : String) : Option DelWhat :=
  if params = "" ∨ params = "msg" then some .msg
  else if params = "topic" then some .topic
  else if params = "sub" then some .sub
  else if params = "user" then some .user
  else if params = "cred" then some .cred
  else none

/-- The bits that `set` collects from the parts of the message that are present. -/
def setMetaWhat (m : MsgClientSet) : Nat :=
  (if m.desc.isSome then constMsgMetaDesc else 0) |||
    (if m.sub.isSome then constMsgMetaSub else 0) |||
    (if m.tags ≠ [] then constMsgMetaTags else 0) |||
    (if m.cred.isSome then constMsgMetaCred else 0) |||
    (if m.aux.keys ≠ [] then constMsgMetaAux else 0)

/-- The message that the switch of `dispatch` selects. -/
inductive ClientBody
  | pub (m : MsgClientPub)
  | sub (m : MsgClientSub)
  | leave (m : MsgClientLeave)
  | hi | login | acc
  | get (m : MsgClientGet)
  | set (m : MsgClientSet)
  | del (m : Wire.MsgClientDel)
  | note (m : MsgClientNote)

/-- A message on its way, with the fields that the session fills in. -/
structure Routed where
  original : String
  rcptTo : String
  asUser : String
  metaWhat : Nat := 0
  body : ClientBody

inductive HubQueue
  | join | routeCli | metaQueue | unreg
  deriving DecidableEq, Repr

/-- What becomes of a message. -/
inductive Dispatched
  | replied (r : Response)
  | ignored
  /-- Into a queue of the topic that the session is attached to. -/
  | topic (r : Routed)
  | hub (q : HubQueue) (r : Routed)
  /-- The message is not about a topic. -/
  | elsewhere

def NameRefusal.response : NameRefusal → Response
  | .malformed => .errMalformed
  | .permissionDenied => .errPermissionDenied

/-- A send that does not wait. -/
def offer (env : SessionEnv) (sent : Dispatched) : Dispatched :=
  if env.full then .replied .errServiceUnavailable else sent

def genTopicName (fresh : Uid) : String := "grp" ++ uidText fresh

section

variable (s : ClientSession) (env : SessionEnv)

/-- `subscribe`, for the name that the request is routed to. -/
def ClientSession.subscribeTo (r : Routed) : Dispatched :=
  if r.rcptTo ∈ s.subs then .replied .infoAlreadySubscribed else offer env (.hub .join r)

def ClientSession.subscribe (asUser : String) (m : MsgClientSub) : Dispatched :=
  if hasPrefix m.topic "new" || hasPrefix m.topic "nch" then
    s.subscribeTo env
      { original := m.topic, rcptTo := genTopicName env.fresh, asUser, body := .sub m }
  else
    match expandTopicName asUser m.topic with
    | .error refusal => .replied refusal.response
    | .ok rcptTo => s.subscribeTo env { original := m.topic, rcptTo, asUser, body := .sub m }

def ClientSession.leave (asUser : String) (m : MsgClientLeave) : Dispatched :=
  match expandTopicName asUser m.topic with
  | .error refusal => .replied refusal.response
  | .ok rcptTo =>
    if rcptTo ∈ s.subs then
      if (m.topic = "me" ∨ m.topic = "fnd") ∧ m.unsub then .replied .errPermissionDenied
      else .topic { original := m.topic, rcptTo, asUser, body := .leave m }
    else if m.unsub then .replied .errAttachFirst
    else .replied .infoNotJoined

def ClientSession.publish (asUser : String) (m : MsgClientPub) : Dispatched :=
  match expandTopicName asUser m.topic with
  | .error refusal => .replied refusal.response
  | .ok rcptTo =>
    let r : Routed := { original := m.topic, rcptTo, asUser, body := .pub m }
    if rcptTo ∈ s.subs then offer env (.topic r)
    else if rcptTo = "sys" then offer env (.hub .routeCli r)
    else .replied .errAttachFirst

def ClientSession.get (asUser : String) (m : MsgClientGet) : Dispatched :=
  match expandTopicName asUser m.topic with
  | .error refusal => .replied refusal.response
  | .ok rcptTo =>
    let metaWhat := parseMsgClientMeta m.what
    let r : Routed := { original := m.topic, rcptTo, asUser, metaWhat, body := .get m }
    if metaWhat = 0 then .replied .errMalformed
    else if rcptTo ∈ s.subs then offer env (.topic r)
    else if metaWhat &&& (constMsgMetaDesc ||| constMsgMetaSub) ≠ 0 then offer env (.hub .metaQueue r)
    else .replied .errPermissionDenied

def ClientSession.set (asUser : String) (m : MsgClientSet) : Dispatched :=
  match expandTopicName asUser m.topic with
  | .error refusal => .replied refusal.response
  | .ok rcptTo =>
    let metaWhat := setMetaWhat m
    let r : Routed := { original := m.topic, rcptTo, asUser, metaWhat, body := .set m }
    if metaWhat = 0 then .replied .errMalformed
    else if rcptTo ∈ s.subs then offer env (.topic r)
    else if metaWhat &&& (constMsgMetaTags ||| constMsgMetaCred ||| constMsgMetaAux) ≠ 0 then
      .replied .errPermissionDenied
    else offer env (.hub .metaQueue r)

def ClientSession.del (asUser : String) (m : Wire.MsgClientDel) : Dispatched :=
  if parseMsgClientDel m.what = some .user then .elsewhere
  else
    match expandTopicName asUser m.topic with
    | .error refusal => .replied refusal.response
    | .ok rcptTo =>
      let r : Routed := { original := m.topic, rcptTo, asUser, body := .del m }
      match parseMsgClientDel m.what with
      | none => .replied .errMalformed
      | some .topic => offer env (.hub .unreg r)
      | some _ => if rcptTo ∈ s.subs then offer env (.topic r) else .replied .errAttachFirst

/-- The `switch` of `note`: whether the notification is passed on. -/
def noteValid (m : MsgClientNote) (rcptTo : String) : Except NamePanic Bool :=
  if m.what = "data" then .ok (m.payload ≠ [])
  else if m.what = "kp" ∨ m.what = "kpa" ∨ m.what = "kpv" then .ok (m.seqId = 0)
  else if m.what = "call" then do
    -- Calls are only available in P2P topics; the case falls through to the next.
    let cat ← getTopicCat rcptTo
    return cat = .p2p ∧ 0 < m.seqId
  else if m.what = "read" ∨ m.what = "recv" then .ok (0 < m.seqId)
  else .ok false

/-- `note`, for a valid notification. -/
def ClientSession.sendNote (m : MsgClientNote) (r : Routed) : Dispatched :=
  if r.rcptTo ∈ s.subs then offer env (.topic r)
  else if m.what = "recv" ∨
      (m.what = "call" ∧ (m.event = "ringing" ∨ m.event = "hang-up" ∨ m.event = "accept")) then
    offer env (.hub .routeCli r)
  else .replied .errAttachFirst

def ClientSession.note (asUser : String) (m : MsgClientNote) : Except NamePanic Dispatched :=
  if s.ver = 0 ∨ asUser = "" then .ok .ignored
  else
    match expandTopicName asUser m.topic with
    | .error _ => .ok .ignored
    | .ok rcptTo => do
      let valid ← noteValid m rcptTo
      return if valid then s.sendNote env m { original := m.topic, rcptTo, asUser, body := .note m }
        else .ignored

/-- On whose behalf the message is, or the reply that refuses it. -/
def ClientSession.actingUser (extra : Option MsgClientExtra) : Except Response String :=
  match extra with
  | none => .ok (userId s.uid)
  | some extra =>
    if extra.asUser = "" ∧ extra.authLevel = "" then .ok (userId s.uid)
    else if s.authLvl ≠ .root then .error .errPermissionDenied
    else if parseUserId extra.asUser = 0 then .error .errMalformed
    else .ok extra.asUser

/-- The cases of the switch of `dispatch`, in its order. -/
def selectBody (msg : ClientComMessage) : Option ClientBody :=
  match msg with
  | { pub := some m, .. } => some (.pub m)
  | { sub := some m, .. } => some (.sub m)
  | { leave := some m, .. } => some (.leave m)
  | { hi := some _, .. } => some .hi
  | { login := some _, .. } => some .login
  | { get := some m, .. } => some (.get m)
  | { set := some m, .. } => some (.set m)
  | { del := some m, .. } => some (.del m)
  | { acc := some _, .. } => some .acc
  | { note := some m, .. } => some (.note m)
  | _ => none

/-- `checkVers` and `checkUser` around a handler. -/
def ClientSession.checked (asUser : String) (handled : Dispatched) : Dispatched :=
  if s.ver = 0 then .replied .errCommandOutOfSequence
  else if asUser = "" then .replied .errAuthRequired
  else handled

/-- The handler of a message. -/
def ClientSession.handleBody (asUser : String) : ClientBody → Except NamePanic Dispatched
  | .pub m => .ok (s.checked asUser (s.publish env asUser m))
  | .sub m => .ok (s.checked asUser (s.subscribe env asUser m))
  | .leave m => .ok (s.checked asUser (s.leave asUser m))
  | .get m => .ok (s.checked asUser (s.get env asUser m))
  | .set m => .ok (s.checked asUser (s.set env asUser m))
  | .del m => .ok (s.checked asUser (s.del env asUser m))
  | .note m => s.note env asUser m
  | .hi | .login | .acc => .ok .elsewhere

def ClientSession.dispatch (msg : ClientComMessage) : Except NamePanic Dispatched :=
  match s.actingUser msg.extra with
  | .error refusal => .ok (.replied refusal)
  | .ok asUser =>
    match selectBody msg with
    | none => .ok (.replied .errMalformed)
    | some body =>
      if env.partitioned then .ok (.replied .errClusterUnreachable)
      else s.handleBody env asUser body

end

end LastochkaServer.Source
