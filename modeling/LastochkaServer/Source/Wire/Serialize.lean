import LastochkaServer.Source.Wire.Messages

/-!
# Encoders of protocol buffers

The `…Serialize` functions of `server/pbconverter.go`. A packet is modelled as its receiver finds
it: a list or a map without elements is absent.

`marshal` stands for `json.Marshal`, which does not fail for values that came out of JSON.
-/

namespace LastochkaServer.Source.Wire

open Lib

def interfaceMapToByteMap (marshal : Any → Raw) (values : GoMap String Any) : GoMap String Raw :=
  values.entries.foldl
    (fun out e => if e.2 ≠ .null then out.insert e.1 (marshal e.2) else out)
    ∅

/-- `interfaceToBytes`; absent for nil. -/
def interfaceToBytes (marshal : Any → Raw) (value : Any) : Option Raw :=
  if value ≠ .null then some (marshal value) else none

/-- The zero `time.Time`, the first second of the year 1. -/
def zeroTime : Timestamp := -62135596800000000000

/-- `timeToInt64`. `UnixNano` wraps around outside of the years 1678 to 2262. -/
def timeToInt64 (ts : Option Timestamp) : Int64 :=
  match ts with
  | some ts => Int64.ofInt ts / 1000000
  | none => 0

def pbDelQuerySerialize (ranges : List MsgRange) : List Pbx.SeqRange :=
  ranges.map fun dq => { low := Int32.ofInt dq.lowId, hi := Int32.ofInt dq.hiId }

/-- The options of `desc` and `sub`. -/
def getOptsSerialize (opts : MsgGetOpts) : Pbx.GetOpts :=
  { ifModifiedSince := timeToInt64 opts.ifModifiedSince
    user := opts.user
    topic := opts.topic
    limit := Int32.ofInt opts.limit }

/-- `pbGetQuerySerialize`. There is no place for the options of `del`. -/
def pbGetQuerySerialize (query : Option MsgGetQuery) : Option Pbx.GetQuery :=
  query.map fun q =>
    { what := q.what
      desc := q.desc.map getOptsSerialize
      sub := q.sub.map getOptsSerialize
      data := q.data.map fun data =>
        { beforeId := Int32.ofInt data.beforeId
          sinceId := Int32.ofInt data.sinceId
          limit := Int32.ofInt data.limit
          ranges := pbDelQuerySerialize data.idRanges } }

def pbDefaultAcsSerialize (defacs : Option MsgDefaultAcsMode) : Option Pbx.DefaultAcsMode :=
  defacs.map fun d => { auth := d.auth, anon := d.anon }

def pbAccessModeSerialize (acs : Option MsgAccessMode) : Option Pbx.AccessMode :=
  acs.map fun a => { want := a.want, given := a.given }

section

variable (marshal : Any → Raw)

def pbSetDescSerialize (desc : Option MsgSetDesc) : Option Pbx.SetDesc :=
  desc.bind fun d =>
    if d.defaultAcs.isSome ∨ d.pub ≠ .null ∨ d.trusted ≠ .null ∨ d.priv ≠ .null then
      some
        { defaultAcs := pbDefaultAcsSerialize d.defaultAcs
          pub := interfaceToBytes marshal d.pub
          trusted := interfaceToBytes marshal d.trusted
          priv := interfaceToBytes marshal d.priv }
    else none

def credSerialize (c : MsgCredClient) : Pbx.ClientCred :=
  { method := c.method
    value := c.value
    response := c.response
    params := interfaceMapToByteMap marshal c.params }

def pbClientCredSerialize (cred : Option MsgCredClient) : Option Pbx.ClientCred :=
  cred.map (credSerialize marshal)

def pbClientCredsSerialize (creds : List MsgCredClient) : List Pbx.ClientCred :=
  creds.map (credSerialize marshal)

/-- `pbSetQuerySerialize`. The auxiliary data are not encoded. -/
def pbSetQuerySerialize (query : Option MsgSetQuery) : Option Pbx.SetQuery :=
  query.map fun q =>
    { desc := pbSetDescSerialize marshal q.desc
      sub := q.sub.map fun sub => { userId := sub.user, mode := sub.mode }
      tags := q.tags
      cred := pbClientCredSerialize marshal q.cred }

end

def pbInfoNoteWhatSerialize : String → Pbx.InfoNote
  | "kp" => .kp
  | "read" => .read
  | "recv" => .recv
  | "call" => .call
  | _ => .other 0

def pbCallEventSerialize : String → Pbx.CallEvent
  | "accept" => .accept
  | "answer" => .answer
  | "hang-up" => .hangUp
  | "ice-candidate" => .iceCandidate
  | "invite" => .invite
  | "offer" => .offer
  | "ringing" => .ringing
  | _ => .other 0

def delWhatSerialize : String → Pbx.DelWhat
  | "msg" => .msg
  | "topic" => .topic
  | "sub" => .sub
  | "user" => .user
  | "cred" => .cred
  | _ => .other 0

/-- The level of an `{acc}` message. -/
def accLevelSerialize : String → Pbx.AuthLevel
  | "NONE" | "none" | "" => .none
  | "ANON" | "anon" => .anon
  | "AUTH" | "auth" => .auth
  -- No support for ROOT here.
  | "ROOT" | "root" => .none
  | _ => .none

/-- `pbx.AuthLevel(n)`. -/
def Pbx.AuthLevel.ofInt (n : Int) : Pbx.AuthLevel :=
  let n := Int32.ofInt n
  if n = 0 then .none
  else if n = 10 then .anon
  else if n = 20 then .auth
  else if n = 30 then .root
  else .other n

/-- A section of a message with its content. -/
inductive ClientSection
  | hi (m : MsgClientHi)
  | acc (m : MsgClientAcc)
  | login (m : MsgClientLogin)
  | sub (m : MsgClientSub)
  | leave (m : MsgClientLeave)
  | pub (m : MsgClientPub)
  | get (m : MsgClientGet)
  | set (m : MsgClientSet)
  | del (m : MsgClientDel)
  | note (m : MsgClientNote)

/-- The cases of the switch of `pbCliSerialize`, in its order. -/
def ClientComMessage.selectSection (msg : ClientComMessage) : Option ClientSection :=
  match msg with
  | { hi := some m, .. } => some (.hi m)
  | { acc := some m, .. } => some (.acc m)
  | { login := some m, .. } => some (.login m)
  | { sub := some m, .. } => some (.sub m)
  | { leave := some m, .. } => some (.leave m)
  | { pub := some m, .. } => some (.pub m)
  | { get := some m, .. } => some (.get m)
  | { set := some m, .. } => some (.set m)
  | { del := some m, .. } => some (.del m)
  | { note := some m, .. } => some (.note m)
  | _ => none

section

variable (marshal : Any → Raw)

/-- The bodies of the cases. -/
def encodeSection : ClientSection → Pbx.ClientBody
  | .hi hi => .hi
      { id := hi.id, userAgent := hi.userAgent, ver := hi.version, deviceId := hi.deviceID
        platform := hi.platform, lang := hi.lang, background := hi.background }
  | .acc acc => .acc
      { id := acc.id, userId := acc.user, state := acc.state, tmpScheme := acc.tmpScheme
        tmpSecret := acc.tmpSecret, authLevel := accLevelSerialize acc.authLevel, scheme := acc.scheme
        secret := acc.secret, login := acc.login, tags := acc.tags
        cred := pbClientCredsSerialize marshal acc.cred, desc := pbSetDescSerialize marshal acc.desc }
  | .login login => .login
      { id := login.id, scheme := login.scheme, secret := login.secret
        cred := pbClientCredsSerialize marshal login.cred }
  | .sub sub => .sub
      { id := sub.id, topic := sub.topic, setQuery := pbSetQuerySerialize marshal sub.set
        getQuery := pbGetQuerySerialize sub.get }
  | .leave leave => .leave { id := leave.id, topic := leave.topic, unsub := leave.unsub }
  | .pub pub => .pub
      { id := pub.id, topic := pub.topic, noEcho := pub.noEcho
        head := interfaceMapToByteMap marshal pub.head
        content := (interfaceToBytes marshal pub.content).getD [] }
  | .get get => .get
      { id := get.id, topic := get.topic, query := pbGetQuerySerialize (some get.toMsgGetQuery) }
  | .set set => .set
      { id := set.id, topic := set.topic,
        query := pbSetQuerySerialize marshal (some set.toMsgSetQuery) }
  | .del del => .del
      { id := del.id, topic := del.topic, what := delWhatSerialize del.what
        delSeq := pbDelQuerySerialize del.delSeq, userId := del.user
        cred := pbClientCredSerialize marshal del.cred, hard := del.hard }
  | .note note => .note
      { topic := note.topic, what := pbInfoNoteWhatSerialize note.what,
        seqId := Int32.ofInt note.seqId
        unread := Int32.ofInt note.unread, event := pbCallEventSerialize note.event
        payload := note.payload }

/-- `pbCliSerialize`, nil for a message without a section. The level of the extra data is that of
the sender, not the one they hold. -/
def pbCliSerialize (msg : ClientComMessage) : Option Pbx.ClientMsg :=
  msg.selectSection.map fun section_ =>
    { message := some (encodeSection marshal section_)
      extra := msg.extra.map fun extra =>
        { attachments := extra.attachments, onBehalfOf := extra.asUser
          authLevel := .ofInt msg.authLvl } }

def pbTopicDescSerialize (desc : Option MsgTopicDesc) : Option Pbx.TopicDesc :=
  desc.map fun d =>
    { createdAt := timeToInt64 d.createdAt
      updatedAt := timeToInt64 d.updatedAt
      touchedAt := timeToInt64 d.touchedAt
      state := d.state
      online := d.online
      isChan := d.isChan
      defacs := pbDefaultAcsSerialize d.defaultAcs
      acs := pbAccessModeSerialize d.acs
      seqId := Int32.ofInt d.seqId
      readId := Int32.ofInt d.readSeqId
      recvId := Int32.ofInt d.recvSeqId
      delId := Int32.ofInt d.delId
      pub := (interfaceToBytes marshal d.pub).getD []
      trusted := (interfaceToBytes marshal d.trusted).getD []
      priv := (interfaceToBytes marshal d.priv).getD []
      lastSeenTime := timeToInt64 (d.lastSeen.bind (·.seenAt))
      lastSeenUserAgent := d.lastSeen.elim "" (·.userAgent) }

def pbTopicSubSerialize (sub : MsgTopicSub) : Pbx.TopicSub :=
  { updatedAt := timeToInt64 sub.updatedAt
    deletedAt := timeToInt64 sub.deletedAt
    online := sub.online
    acs := pbAccessModeSerialize (some sub.acs)
    readId := Int32.ofInt sub.readSeqId
    recvId := Int32.ofInt sub.recvSeqId
    pub := (interfaceToBytes marshal sub.pub).getD []
    trusted := (interfaceToBytes marshal sub.trusted).getD []
    priv := (interfaceToBytes marshal sub.priv).getD []
    userId := sub.user
    topic := sub.topic
    touchedAt := timeToInt64 sub.touchedAt
    seqId := Int32.ofInt sub.seqId
    delId := Int32.ofInt sub.delId
    lastSeenTime := timeToInt64 (sub.lastSeen.bind (·.seenAt))
    lastSeenUserAgent := sub.lastSeen.elim "" (·.userAgent) }

def pbTopicSubSliceSerialize (subs : List MsgTopicSub) : List Pbx.TopicSub :=
  subs.map (pbTopicSubSerialize marshal)

def pbDelValuesSerialize (del : Option MsgDelValues) : Option Pbx.DelValues :=
  del.map fun d => { delId := Int32.ofInt d.delId, delSeq := pbDelQuerySerialize d.delSeq }

/-- `pbServerCredsSerialize`. Whether the credential is validated is not encoded. -/
def pbServerCredsSerialize (creds : List MsgCredServer) : List Pbx.ServerCred :=
  creds.map fun cr => { method := cr.method, value := cr.value }

omit marshal in
def presWhatSerialize : String → Pbx.PresWhat
  | "on" => .on
  | "off" => .off
  | "ua" => .ua
  | "upd" => .upd
  | "gone" => .gone
  | "acs" => .acs
  | "term" => .term
  | "msg" => .msg
  | "read" => .read
  | "recv" => .recv
  | "del" => .del
  | "tags" => .tags
  | "aux" => .aux
  | _ => .other 0

/-- `pbServCtrlSerializeBasic`. Only a `map[string]any` is encoded. -/
def pbServCtrlSerialize (ctrl : MsgServerCtrl) : Pbx.ServerCtrl :=
  { id := ctrl.id
    topic := ctrl.topic
    code := Int32.ofInt ctrl.code
    text := ctrl.text
    params :=
      match ctrl.params with
      | some (.fields values) => interfaceMapToByteMap marshal values
      | some (.other _) | none => ∅ }

/-- `interfaceToBytes` of the content; `blob` stands for `json.Marshal` of a `[]byte`. -/
def contentToBytes (blob : Raw → Raw) : DataContent → Raw
  | .value v => (interfaceToBytes marshal v).getD []
  | .bytes raw => blob raw

def pbServDataSerialize (blob : Raw → Raw) (data : MsgServerData) : Pbx.ServerData :=
  { topic := data.topic
    fromUserId := data.sender
    timestamp := timeToInt64 (some (data.timestamp.getD zeroTime))
    deletedAt := timeToInt64 data.deletedAt
    seqId := Int32.ofInt data.seqId
    head := interfaceMapToByteMap marshal data.head
    content := contentToBytes marshal blob data.content }

def pbServPresSerialize (pres : MsgServerPres) : Pbx.ServerPres :=
  { topic := pres.topic
    src := pres.src
    what := presWhatSerialize pres.what
    userAgent := pres.userAgent
    seqId := Int32.ofInt pres.seqId
    delId := Int32.ofInt pres.delId
    delSeq := pbDelQuerySerialize pres.delSeq
    targetUserId := pres.acsTarget
    actorUserId := pres.acsActor
    acs := pbAccessModeSerialize pres.acs }

def pbServInfoSerialize (info : MsgServerInfo) : Pbx.ServerInfo :=
  { topic := info.topic
    fromUserId := info.sender
    src := info.src
    what := pbInfoNoteWhatSerialize info.what
    seqId := Int32.ofInt info.seqId
    event := pbCallEventSerialize info.event
    payload := info.payload }

def pbServMetaSerialize (m : MsgServerMeta) : Pbx.ServerMeta :=
  { id := m.id
    topic := m.topic
    desc := pbTopicDescSerialize marshal m.desc
    sub := pbTopicSubSliceSerialize marshal m.sub
    del := pbDelValuesSerialize m.del
    tags := m.tags
    cred := pbServerCredsSerialize m.cred
    aux := interfaceMapToByteMap marshal m.aux }

def pbServSerialize (blob : Raw → Raw) (msg : ServerComMessage) : Pbx.ServerMsg :=
  { message :=
      match msg with
      | { ctrl := some ctrl, .. } => some (.ctrl (pbServCtrlSerialize marshal ctrl))
      | { data := some data, .. } => some (.data (pbServDataSerialize marshal blob data))
      | { pres := some pres, .. } => some (.pres (pbServPresSerialize pres))
      | { info := some info, .. } => some (.info (pbServInfoSerialize info))
      | { metaMsg := some m, .. } => some (.metaMsg (pbServMetaSerialize marshal m))
      | _ => none }

end

end LastochkaServer.Source.Wire
