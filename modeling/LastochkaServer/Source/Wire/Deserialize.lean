import LastochkaServer.Source.Wire.Messages

/-!
# Decoders of protocol buffers

The `…Deserialize` functions of `server/pbconverter.go` and their use for messages of clients
(`server/hdl_grpc.go:38-74`) and for the answers of plug-ins (`server/plugins.go:355-475`).

`json` stands for `json.Unmarshal`; it gives `null` for text that is not JSON. A pointer that the
source dereferences without a check is dereferenced here by `deref`.
-/

namespace LastochkaServer.Source.Wire

open Lib

/-- `*p`. -/
def deref {α : Type} : Option α → Exec α
  | some a => .ok a
  | none => .error .nilDereference

def bytesToInterface (json : Raw → Any) (raw : Raw) : Any := if raw = [] then .null else json raw

def byteMapToInterfaceMap (json : Raw → Any) (raw : GoMap String Raw) : GoMap String Any :=
  raw.entries.foldl
    (fun out e =>
      let val := bytesToInterface json e.2
      if val ≠ .null then out.insert e.1 val else out)
    ∅

/-- `int64ToTime`, which takes the milliseconds for nanoseconds. -/
def int64ToTime (ts : Int64) : Option Timestamp :=
  if 0 < ts.toInt then some (ts.toInt / 1000 * 1000000000 + ts.toInt % 1000) else none

def pbDelQueryDeserialize (ranges : List Pbx.SeqRange) : List MsgRange :=
  ranges.map fun sr => { lowId := sr.low.toInt, hiId := sr.hi.toInt }

def pbGetQueryDeserialize (query : Option Pbx.GetQuery) : Option MsgGetQuery :=
  query.map fun q =>
    { what := q.what
      desc := q.desc.map fun desc =>
        { ifModifiedSince := int64ToTime desc.ifModifiedSince, limit := desc.limit.toInt }
      sub := q.sub.map fun sub =>
        { ifModifiedSince := int64ToTime sub.ifModifiedSince, limit := sub.limit.toInt }
      data := q.data.map fun data =>
        { beforeId := data.beforeId.toInt
          sinceId := data.sinceId.toInt
          limit := data.limit.toInt
          idRanges := pbDelQueryDeserialize data.ranges } }

def pbDefaultAcsDeserialize (defacs : Option Pbx.DefaultAcsMode) : Option MsgDefaultAcsMode :=
  defacs.bind fun d =>
    if d.auth ≠ "" ∨ d.anon ≠ "" then some { auth := d.auth, anon := d.anon } else none

def pbAccessModeDeserialize (acs : Option Pbx.AccessMode) : Option MsgAccessMode :=
  acs.map fun a => { want := a.want, given := a.given }

section

variable (json : Raw → Any)

def pbSetDescDeserialize (desc : Option Pbx.SetDesc) : Option MsgSetDesc :=
  desc.bind fun d =>
    let defacs := pbDefaultAcsDeserialize d.defaultAcs
    if defacs.isSome ∨ d.pub.isSome ∨ d.priv.isSome ∨ d.trusted.isSome then
      some
        { defaultAcs := defacs
          pub := bytesToInterface json (d.pub.getD [])
          trusted := bytesToInterface json (d.trusted.getD [])
          priv := bytesToInterface json (d.priv.getD []) }
    else none

def pbClientCredDeserialize (cred : Option Pbx.ClientCred) : Option MsgCredClient :=
  cred.map fun c =>
    { method := c.method
      value := c.value
      response := c.response
      params := byteMapToInterfaceMap json c.params }

def pbClientCredsDeserialize (creds : List Pbx.ClientCred) : Exec (List MsgCredClient) :=
  creds.mapM fun cr => deref (pbClientCredDeserialize json (some cr))

/-- `pbSetQueryDeserialize`; the result stays nil until a part of the query is found. The auxiliary
data are not decoded. -/
def pbSetQueryDeserialize (query : Option Pbx.SetQuery) : Option MsgSetQuery :=
  query.bind fun q =>
    let msg : Option MsgSetQuery :=
      q.desc.map fun desc => { desc := pbSetDescDeserialize json (some desc) }
    let msg :=
      match q.sub with
      | none => msg
      | some sub =>
        if sub.userId ≠ "" ∨ sub.mode ≠ "" then
          some { msg.getD {} with sub := some { user := sub.userId, mode := sub.mode } }
        else msg
    let msg := if q.tags ≠ [] then some { msg.getD {} with tags := q.tags } else msg
    match q.cred with
    | none => msg
    | some cred => some { msg.getD {} with cred := pbClientCredDeserialize json (some cred) }

end

def pbInfoNoteWhatDeserialize : Pbx.InfoNote → String
  | .kp => "kp"
  | .read => "read"
  | .recv => "recv"
  | .call => "call"
  | .other _ => ""

def pbCallEventDeserialize : Pbx.CallEvent → String
  | .accept => "accept"
  | .answer => "answer"
  | .hangUp => "hang-up"
  | .iceCandidate => "ice-candidate"
  | .invite => "invite"
  | .offer => "offer"
  | .ringing => "ringing"
  | .other _ => ""

def delWhatText : Pbx.DelWhat → String
  | .msg => "msg"
  | .topic => "topic"
  | .sub => "sub"
  | .user => "user"
  | .cred => "cred"
  | .other _ => ""

section

variable (json : Raw → Any)

def decodeBody : Pbx.ClientBody → Exec ClientComMessage
  | .hi hi => .ok
      { hi := some
          { id := hi.id, userAgent := hi.userAgent, version := hi.ver, deviceID := hi.deviceId
            platform := hi.platform, lang := hi.lang, background := hi.background } }
  | .acc acc => do
    let cred ← pbClientCredsDeserialize json acc.cred
    let msg : MsgClientAcc :=
      { id := acc.id, user := acc.userId, state := acc.state, tmpScheme := acc.tmpScheme
        tmpSecret := acc.tmpSecret, authLevel := acc.authLevel.text, scheme := acc.scheme
        secret := acc.secret, login := acc.login, tags := acc.tags
        desc := pbSetDescDeserialize json acc.desc, cred }
    return { acc := some msg }
  | .login login => do
    let cred ← pbClientCredsDeserialize json login.cred
    return { login := some { id := login.id, scheme := login.scheme, secret := login.secret, cred } }
  | .sub sub => .ok
      { sub := some
          { id := sub.id, topic := sub.topic, get := pbGetQueryDeserialize sub.getQuery
            set := pbSetQueryDeserialize json sub.setQuery } }
  | .leave leave =>
    .ok { leave := some { id := leave.id, topic := leave.topic, unsub := leave.unsub } }
  | .pub pub => .ok
      { pub := some
          { id := pub.id, topic := pub.topic, noEcho := pub.noEcho
            head := byteMapToInterfaceMap json pub.head, content :=
              bytesToInterface json pub.content } }
  | .get get =>
    match get.query with
    | none => .ok { get := some { id := get.id, topic := get.topic } }
    | some gq => do
      let query ← deref (pbGetQueryDeserialize (some gq))
      return { get := some { query with id := get.id, topic := get.topic } }
  | .set set =>
    match set.query with
    | none => .ok { set := some { id := set.id, topic := set.topic } }
    | some sq => do
      let query ← deref (pbSetQueryDeserialize json (some sq))
      return { set := some { query with id := set.id, topic := set.topic } }
  | .del del => .ok
      { del := some
          { id := del.id, topic := del.topic, what := delWhatText del.what
            delSeq := pbDelQueryDeserialize del.delSeq, user := del.userId
            cred := pbClientCredDeserialize json del.cred, hard := del.hard } }
  | .note note => .ok
      { note := some
          { topic := note.topic, seqId := note.seqId.toInt,
            what := pbInfoNoteWhatDeserialize note.what
            unread := note.unread.toInt, event := pbCallEventDeserialize note.event
            payload := note.payload } }

/-- `pbCliDeserialize`, which takes nil for an empty message. -/
def pbCliDeserialize (pkt : Option Pbx.ClientMsg) : Exec ClientComMessage := do
  let pkt := pkt.getD {}
  let msg ←
    match pkt.message with
    | none => pure {}
    | some body => decodeBody json body
  return { msg with
    extra := pkt.extra.map fun extra =>
      { attachments := extra.attachments, asUser := extra.onBehalfOf
        authLevel := extra.authLevel.text } }

omit json in
def lastSeenOf (seenAt : Int64) (userAgent : String) : Option MsgLastSeenInfo :=
  if 0 < seenAt.toInt then some { seenAt := int64ToTime seenAt, userAgent } else none

def pbTopicDescDeserialize (desc : Option Pbx.TopicDesc) : Option MsgTopicDesc :=
  desc.map fun d =>
    { createdAt := int64ToTime d.createdAt
      updatedAt := int64ToTime d.updatedAt
      touchedAt := int64ToTime d.touchedAt
      state := d.state
      online := d.online
      isChan := d.isChan
      defaultAcs := pbDefaultAcsDeserialize d.defacs
      acs := pbAccessModeDeserialize d.acs
      seqId := d.seqId.toInt
      readSeqId := d.readId.toInt
      recvSeqId := d.recvId.toInt
      delId := d.delId.toInt
      pub := bytesToInterface json d.pub
      trusted := bytesToInterface json d.trusted
      priv := bytesToInterface json d.priv
      lastSeen := lastSeenOf d.lastSeenTime d.lastSeenUserAgent }

def pbTopicSubDeserialize (sub : Pbx.TopicSub) : Exec MsgTopicSub := do
  let acs ←
    match sub.acs with
    | none => pure {}
    | some acs => deref (pbAccessModeDeserialize (some acs))
  return { updatedAt := int64ToTime sub.updatedAt
           deletedAt := int64ToTime sub.deletedAt
           online := sub.online
           acs
           readSeqId := sub.readId.toInt
           recvSeqId := sub.recvId.toInt
           pub := bytesToInterface json sub.pub
           trusted := bytesToInterface json sub.trusted
           priv := bytesToInterface json sub.priv
           user := sub.userId
           topic := sub.topic
           touchedAt := int64ToTime sub.touchedAt
           seqId := sub.seqId.toInt
           delId := sub.delId.toInt
           lastSeen := lastSeenOf sub.lastSeenTime sub.lastSeenUserAgent }

def pbTopicSubSliceDeserialize (subs : List Pbx.TopicSub) : Exec (List MsgTopicSub) :=
  subs.mapM (pbTopicSubDeserialize json)

def pbDelValuesDeserialize (del : Option Pbx.DelValues) : Option MsgDelValues :=
  del.map fun d => { delId := d.delId.toInt, delSeq := pbDelQueryDeserialize d.delSeq }

def pbServerCredsDeserialize (creds : List Pbx.ServerCred) : List MsgCredServer :=
  creds.map fun cr => { method := cr.method, value := cr.value, done := cr.done }

def presWhatText : Pbx.PresWhat → String
  | .on => "on"
  | .off => "off"
  | .ua => "ua"
  | .upd => "upd"
  | .gone => "gone"
  | .acs => "acs"
  | .term => "term"
  | .msg => "msg"
  | .read => "read"
  | .recv => "recv"
  | .del => "del"
  | .tags => "tags"
  | .aux => "aux"
  | .other _ => ""

/-- `pbServDeserialize`, which takes nil for an empty message. -/
def pbServDeserialize (pkt : Option Pbx.ServerMsg) : Exec ServerComMessage :=
  match (pkt.getD {}).message with
  | none => .ok {}
  | some (.ctrl ctrl) => .ok
      { ctrl := some
          { id := ctrl.id, topic := ctrl.topic, code := ctrl.code.toInt, text := ctrl.text
            params := some (.fields (byteMapToInterfaceMap json ctrl.params)) } }
  | some (.data data) => .ok
      { data := some
          { topic := data.topic, sender := data.fromUserId, timestamp := int64ToTime data.timestamp
            deletedAt := int64ToTime data.deletedAt, seqId := data.seqId.toInt
            head := byteMapToInterfaceMap json data.head, content := .bytes data.content } }
  | some (.pres pres) => .ok
      { pres := some
          { topic := pres.topic, src := pres.src, what := presWhatText pres.what
            userAgent := pres.userAgent, seqId := pres.seqId.toInt, delId := pres.delId.toInt
            delSeq := pbDelQueryDeserialize pres.delSeq, acsTarget := pres.targetUserId
            acsActor := pres.actorUserId, acs := pbAccessModeDeserialize pres.acs } }
  | some (.info info) => .ok
      { info := some
          { topic := info.topic, src := info.src, sender := info.fromUserId
            what := pbInfoNoteWhatDeserialize info.what, seqId := info.seqId.toInt
            event := pbCallEventDeserialize info.event, payload := info.payload } }
  | some (.metaMsg m) => do
    let sub ← pbTopicSubSliceDeserialize json m.sub
    let msg : MsgServerMeta :=
      { id := m.id, topic := m.topic, desc := pbTopicDescDeserialize json m.desc, sub
        del := pbDelValuesDeserialize m.del, tags := m.tags
        cred := pbServerCredsDeserialize m.cred, aux := byteMapToInterfaceMap json m.aux }
    return { metaMsg := some msg }

/-- The body of the loop of `pbSubSliceDeserialize`. An invalid mode is ignored. -/
def pbSubDeserialize (sub : Pbx.TopicSub) : Exec FoundSub := do
  let updatedAt ← deref (int64ToTime sub.updatedAt)
  let mode (text : Pbx.AccessMode → String) : AccessMode :=
    match sub.acs with
    | none => 0
    | some acs => ((AccessMode.unmarshalText 0 (text acs)).toOption).getD 0
  return { updatedAt
           deletedAt := int64ToTime sub.deletedAt
           user := sub.userId
           topic := sub.topic
           delId := sub.delId.toInt
           priv := bytesToInterface json sub.priv
           pub := bytesToInterface json sub.pub
           trusted := bytesToInterface json sub.trusted
           modeGiven := mode (·.given)
           modeWant := mode (·.want)
           lastSeen := lastSeenOf sub.lastSeenTime sub.lastSeenUserAgent }

def pbSubSliceDeserialize (subs : List Pbx.TopicSub) : Exec (List FoundSub) :=
  subs.mapM (pbSubDeserialize json)

/-- What becomes of the message of a client. -/
inductive FireHoseOutcome
  | unchanged
  | dropped
  | replaced (msg : ClientComMessage)
  | answered (msg : ServerComMessage)

/-- The part of `pluginFireHose` that handles an answer. -/
def fireHoseAnswer (resp : Pbx.ServerResp) : Exec FireHoseOutcome :=
  match resp.status with
  | .continue_ => .ok .unchanged
  | .drop => .ok .dropped
  | .replace => .replaced <$> pbCliDeserialize json resp.clmsg
  | .respond | .other _ => .answered <$> pbServDeserialize json resp.srvmsg

inductive FindOutcome
  | unchanged
  | dropped
  | query (text : String)
  | found (subs : List FoundSub)

/-- The part of `pluginFind` that handles an answer. -/
def findAnswer (resp : Pbx.SearchFound) : Exec FindOutcome :=
  match resp.status with
  | .continue_ => .ok .unchanged
  | .drop => .ok .dropped
  | .replace => .ok (.query resp.query)
  | .respond | .other _ => .found <$> pbSubSliceDeserialize json resp.result

end

end LastochkaServer.Source.Wire
