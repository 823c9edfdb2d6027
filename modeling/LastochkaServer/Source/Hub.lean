import LastochkaServer.Lib.Run
import LastochkaServer.Source.Dispatch

/-!
# The hub

The hub (`server/hub.go:150-250, 392-560, 735-880`) keeps the topics that are loaded and serves
requests for the others from the store. A `{sub}` makes it register a topic before anything is known
about the name; `topicInit` of `server/init_topic.go:20-130` then loads or creates the topic, or
takes it out again.

A failed store call is reported with the same reply whatever the error. Left out: presence and push
notifications, plug-ins, the cluster, `replyOfflineTopicGetDesc`, which reads the store and never
asks for a category, and the values that are read from the rows of subscriptions.
-/

namespace LastochkaServer.Source

open Lib Wire AccessMode

/-- A topic in `Hub.topics`; `cat` and `owner` have their zero values until it is initialised. -/
structure Registered where
  name : String
  xoriginal : String
  cat : TopicCat := .me
  owner : Uid := 0
  isChan : Bool := false
  subsCount : Nat := 0
  /-- The topic is initialised and its goroutine is running. -/
  running : Bool := false
  deriving DecidableEq, Repr

/-- A row of the table of subscriptions. -/
structure SubRow where
  topic : String
  user : Uid
  modeWant : AccessMode
  modeGiven : AccessMode
  deleted : Bool := false
  deriving DecidableEq, Repr

structure Hub where
  topics : List Registered
  rows : List SubRow
  deriving DecidableEq, Repr

/-- The hub starts with a request for the topic `sys`. -/
def Hub.initial : Hub := { topics := [{ name := "sys", xoriginal := "sys" }], rows := [] }

inductive SubsDelete
  | done | notFound | failed
  deriving DecidableEq, Repr

/-- What the hub finds around it when it handles a message. -/
structure HubEnv where
  typesModeCP2P : AccessMode := modeCP2P
  /-- `store.Topics.GetSubs` fails. -/
  getSubsFails : Bool := false
  topicsDeleteFails : Bool := false
  subsDelete : SubsDelete := .done
  subsGetFails : Bool := false
  subsUpdateFails : Bool := false
  /-- `mergeInterfaces` finds a change in the private value. -/
  privateChanged : Bool := true
  /-- The queue of the topic is full. -/
  full : Bool := false

inductive HubResult
  | replied (r : Response)
  | ignored
  /-- Into a queue of the topic. -/
  | topic (name : String)
  deriving DecidableEq, Repr

section

variable (h : Hub)

def Hub.topicGet (name : String) : Option Registered := h.topics.find? (·.name = name)

def Hub.topicDel (name : String) : Hub := { h with topics := h.topics.filter (·.name ≠ name) }

def Hub.getSubs (topic : String) (user : Option Uid) : List SubRow :=
  h.rows.filter fun row => row.topic = topic ∧ row.deleted = false ∧ (user.all (· = row.user))

/-- `store.Subs.Get`. -/
def Hub.subsGet (topic : String) (user : Uid) (keepDeleted : Bool) : Option SubRow :=
  h.rows.find? fun row => row.topic = topic ∧ row.user = user ∧ (keepDeleted ∨ row.deleted = false)

/-- `types.GrpToChn` of a name for a query. -/
def grpNameToChn (name : String) : String :=
  if hasPrefix name "grp" then "chn" ++ String.ofList (name.toList.drop 3)
  else if hasPrefix name "chn" then name
  else ""

/-- `store.Topics.Delete`. -/
def Hub.topicsDelete (topic : String) (isChan hard : Bool) : Hub :=
  let affected : SubRow → Bool := fun row =>
    row.topic = topic || (isChan && row.topic = grpNameToChn topic)
  if hard then { h with rows := h.rows.filter fun row => !affected row }
  else
    { h with
      rows := h.rows.map fun row => if affected row then { row with deleted := true } else row }

/-- `store.Subs.Delete`. -/
def Hub.subsDelete (topic : String) (user : Uid) : Hub :=
  { h with
    rows := h.rows.map fun row =>
      if row.topic = topic ∧ row.user = user then { row with deleted := true } else row }

/-- `store.Subs.Update` of the requested mode. -/
def Hub.subsUpdateWant (topic : String) (user : Uid) (want : AccessMode) : Hub :=
  { h with
    rows := h.rows.map fun row =>
      if row.topic = topic ∧ row.user = user then { row with modeWant := want } else row }

/-- The name under which the requester's subscription is stored. -/
def Routed.subName (r : Routed) : String := if isChannelName r.original then r.original else r.rcptTo

def Routed.asUid (r : Routed) : Uid := parseUserId r.asUser

def Hub.replyOfflineTopicGetSub (env : HubEnv) (r : Routed) (m : MsgClientGet) :
    Except NamePanic Response :=
  if m.sub.any fun opts => opts.user ≠ "" ∧ opts.user ≠ r.asUser then .ok .errPermissionDenied
  else if env.subsGetFails then .ok .errUnknown
  else
    match h.subsGet r.subName r.asUid true with
    | none => .ok .errNotFound
    | some row =>
      if row.deleted then .ok .metaReply
      else do
        -- The private value is left out of the reply of a `fnd` topic.
        let _ ← getTopicCat r.rcptTo
        return .metaReply

/-- The requested mode that `replyOfflineTopicSetSub` stores, or the reply that refuses it. -/
def offlineWant (env : HubEnv) (r : Routed) (row : SubRow) (mode : String) :
    Except NamePanic (Except Response AccessMode) :=
  match unmarshalText 0 mode with
  | .error _ => .ok (.error .errUnknown)
  | .ok want =>
    if want.isOwner ≠ row.modeWant.isOwner then .ok (.error .errPermissionDenied)
    else do
      let cat ← getTopicCat r.rcptTo
      return .ok (if cat = .p2p then want &&& env.typesModeCP2P ||| modeApprove else want)

/-- The end of `replyOfflineTopicSetSub`. -/
def Hub.storeOffline (env : HubEnv) (r : Routed) (row : SubRow) (setsPrivate : Bool)
    (want : AccessMode) :
    Hub × Response :=
  if setsPrivate = false ∧ want = row.modeWant then (h, .infoNotModified)
  else if env.subsUpdateFails then (h, .errUnknown)
  else (h.subsUpdateWant r.subName r.asUid want, .noErrParams)

def Hub.replyOfflineTopicSetSub (env : HubEnv) (r : Routed) (m : MsgClientSet) :
    Except NamePanic (Hub × Response) :=
  let setsPrivate : Bool := m.desc.any (·.priv ≠ .null)
  let mode := (m.sub.map (·.mode)).getD ""
  if !setsPrivate ∧ mode = "" then .ok (h, .infoNotModified)
  else if m.sub.any fun sub => sub.user ≠ "" ∧ sub.user ≠ r.asUser then .ok (h, .errPermissionDenied)
  else if env.subsGetFails then .ok (h, .errUnknown)
  else
    match h.subsGet r.subName r.asUid false with
    | none => .ok (h, .errNotFound)
    | some row =>
      if mode = "" then
        .ok (h.storeOffline env r row (setsPrivate && env.privateChanged) row.modeWant)
      else do
        match ← offlineWant env r row mode with
        | .error refusal => return (h, refusal)
        | .ok want => return h.storeOffline env r row (setsPrivate && env.privateChanged) want

/-- `topicUnreg` for a topic that is loaded. -/
def Hub.unregOnline (env : HubEnv) (r : Routed) (m : Wire.MsgClientDel) (t : Registered) :
    Hub × HubResult :=
  if (r.asUid ≠ 0 ∧ t.owner = r.asUid) ∨ (t.cat = .p2p ∧ t.subsCount < 2) then
    if env.topicsDeleteFails then (h, .replied .errUnknown)
    else
      ((h.topicsDelete r.rcptTo t.isChan (m.hard || t.cat = .p2p)).topicDel r.rcptTo, .replied .noErr)
  else (h, .topic r.rcptTo)

/-- The rest of `topicUnreg` for a topic that is not loaded, with the requester's own
subscription. -/
def Hub.unregOwn (env : HubEnv) (r : Routed) (m : Wire.MsgClientDel) (tcat : TopicCat)
    (subs : List SubRow)
    (sub : SubRow) : Hub × HubResult :=
  if (sub.modeGiven &&& sub.modeWant).isOwner then
    if env.topicsDeleteFails then (h, .replied .errUnknown)
    else (h.topicsDelete r.subName true m.hard, .replied .noErr)
  else if tcat = .p2p ∧ subs.length < 2 then
    if env.topicsDeleteFails then (h, .replied .errUnknown)
    else (h.topicsDelete r.subName false m.hard, .replied .noErr)
  else
    match env.subsDelete with
    | .notFound => (h, .replied .infoNoAction)
    | .failed => (h, .replied .errUnknown)
    | .done => (h.subsDelete r.subName r.asUid, .replied .noErr)

/-- `topicUnreg` for a topic that is not loaded, with the subscriptions that the store has. -/
def Hub.unregStored (env : HubEnv) (r : Routed) (m : Wire.MsgClientDel) (tcat : TopicCat)
    (subs : List SubRow) :
    Hub × HubResult :=
  if subs.isEmpty then
    (if tcat = .p2p ∧ !env.topicsDeleteFails then h.topicsDelete r.subName false true else h,
      .replied .infoNoAction)
  else
    match subs.find? (·.user = r.asUid) with
    | none => (h, .replied .infoNoAction)
    | some sub => h.unregOwn env r m tcat subs sub

/-- `topicUnreg` for `{del what="topic"}`. -/
def Hub.topicUnreg (env : HubEnv) (r : Routed) (m : Wire.MsgClientDel) :
    Except NamePanic (Hub × HubResult) :=
  match h.topicGet r.rcptTo with
  | some t => .ok (h.unregOnline env r m t)
  | none =>
    -- A reader of a channel deletes the own subscription, stored under the name of the channel.
    let user := if isChannelName r.original then some r.asUid else none
    let subs := h.getSubs r.subName user
    if env.getSubsFails then .ok (h, .replied .errUnknown)
    else do
      let tcat ← getTopicCat r.subName
      return h.unregStored env r m tcat subs

def Hub.join (env : HubEnv) (r : Routed) : Hub × HubResult :=
  match h.topicGet r.rcptTo with
  | none => ({ h with topics := { name := r.rcptTo, xoriginal := r.original } :: h.topics }, .ignored)
  | some t =>
    (h, if !t.running then .replied .errLocked
        else if env.full then .replied .errServiceUnavailable
        else .topic t.name)

def Hub.routeCli (env : HubEnv) (r : Routed) : HubResult :=
  match h.topicGet r.rcptTo, r.body with
  | some t, _ => if env.full then .ignored else .topic t.name
  | none, .note _ => .ignored
  | none, _ => .replied .noErrAccepted

def Hub.metaRequest (env : HubEnv) (r : Routed) : Except NamePanic (Hub × HubResult) :=
  match r.body with
  | .get m =>
    if r.metaWhat = constMsgMetaDesc then .ok (h, .replied .metaReply)
    else do
      let reply ← h.replyOfflineTopicGetSub env r m
      return (h, .replied reply)
  | .set m => do
    let (h', reply) ← h.replyOfflineTopicSetSub env r m
    return (h', .replied reply)
  | _ => .ok (h, .ignored)

/-- One message from a queue of the hub. -/
def Hub.handle (env : HubEnv) (q : HubQueue) (r : Routed) : Except NamePanic (Hub × HubResult) :=
  match q with
  | .join => .ok (h.join env r)
  | .routeCli => .ok (h, h.routeCli env r)
  | .metaQueue => h.metaRequest env r
  | .unreg =>
    match r.body with
    | .del m => h.topicUnreg env r m
    | _ => .ok (h, .ignored)

/-- The switch of `topicInit`: the category of the topic that is loaded or created, if any. -/
def initCat (xoriginal : String) : Option TopicCat :=
  if xoriginal = "me" then some .me
  else if xoriginal = "fnd" then some .fnd
  else if hasPrefix xoriginal "usr" || hasPrefix xoriginal "p2p" then some .p2p
  else if hasPrefix xoriginal "new" || hasPrefix xoriginal "nch" then some .grp
  else if hasPrefix xoriginal "grp" || hasPrefix xoriginal "chn" then some .grp
  else if xoriginal = "sys" then some .sys
  else if xoriginal = "slf" then some .slf
  else none

/-- What a successful `topicInit` has loaded or created. -/
structure Loaded where
  owner : Uid := 0
  isChan : Bool := false
  /-- The subscriptions that were created with the topic. -/
  created : List (Uid × AccessMode × AccessMode) := []
  subsCount : Nat := 0

/-- `topicInit`; `none` if the store has no such topic or fails. An unrecognised name is
`ErrTopicNotFound`, and the topic is taken out of the hub. -/
def Hub.topicInit (t : Registered) (loaded : Option Loaded) : Hub :=
  match initCat t.xoriginal, loaded with
  | some cat, some l =>
    let t' : Registered :=
      { t with cat, owner := l.owner, isChan := l.isChan, subsCount := l.subsCount, running := true }
    { topics := t' :: (h.topicDel t.name).topics
      rows := h.rows ++ l.created.map fun (user, want, given) =>
        { topic := t.name, user, modeWant := want, modeGiven := given } }
  | _, _ => h.topicDel t.name

/-- A running topic stores a subscription; that of a reader is stored under the name of the
channel. -/
def Hub.subscribed (t : Registered) (asChan : Bool) (user : Uid) (want given : AccessMode) : Hub :=
  { h with
    rows := h.rows ++
      [{ topic := if asChan ∧ hasPrefix t.name "grp" then grpNameToChn t.name else t.name
         user, modeWant := want, modeGiven := given }] }

/-- The hub's part in a message that a session has dispatched. -/
def Hub.deliver (env : HubEnv) : Dispatched → Except NamePanic Hub
  | .hub q r => Prod.fst <$> h.handle env q r
  | _ => .ok h

/-- A client message from the session to the reply, or to the queue of a topic. -/
def Hub.serve (senv : SessionEnv) (henv : HubEnv) (s : ClientSession) (msg : ClientComMessage) :
    Except NamePanic Hub := do
  let dispatched ← s.dispatch senv msg
  h.deliver henv dispatched

inductive HubEvent
  | client (senv : SessionEnv) (henv : HubEnv) (s : ClientSession) (msg : ClientComMessage)
  /-- `topicInit` ends for the topic registered under the name. -/
  | initialised (name : String) (loaded : Option Loaded)
  | subscribed (name : String) (asChan : Bool) (user : Uid) (want given : AccessMode)
  /-- The topic is unloaded. -/
  | unloaded (name : String)

/-- The state after an event. A panic stops the server, so nothing follows it. -/
def Hub.step : HubEvent → Hub
  | .client senv henv s msg =>
    match h.serve senv henv s msg with
    | .ok h' => h'
    | .error _ => h
  | .initialised name loaded =>
    match h.topicGet name with
    | some t => if t.running then h else h.topicInit t loaded
    | none => h
  | .subscribed name asChan user want given =>
    match h.topicGet name with
    | some t => if t.running then h.subscribed t asChan user want given else h
    | none => h
  | .unloaded name => h.topicDel name

end

end LastochkaServer.Source
