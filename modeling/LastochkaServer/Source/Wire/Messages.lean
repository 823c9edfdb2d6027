import LastochkaServer.Source.Topic.State

/-!
# Messages

The protocol buffers of `pbx/model.proto` and the structures of `server/datamodel.go` they are
decoded to. A sub-message that may be absent and a pointer that may be nil are options. Elements of
repeated fields and values of maps are never absent in a message that has been received. An
enumeration of a protocol buffer may hold a number without a name.

Left out: fields that the converters do not read and JSON does not expose, and the fields of
`ClientComMessage` that the server fills in later, except for the level of the sender. A nil slice
and an empty one are one value here, though `Session.set` and `pbSetQueryDeserialize` tell them
apart: a received protocol buffer has only nil ones.
-/

namespace LastochkaServer.Source.Wire

open Lib

/-- Nanoseconds since the epoch. -/
abbrev Timestamp := Int

abbrev Raw := List UInt8

namespace Pbx

inductive AuthLevel
  | none | anon | auth | root
  | other (n : Int32)

/-- `AuthLevel.String`. -/
def AuthLevel.text : AuthLevel → String
  | .none => "NONE"
  | .anon => "ANON"
  | .auth => "AUTH"
  | .root => "ROOT"
  | .other n => toString n

structure DefaultAcsMode where
  auth : String := ""
  anon : String := ""

structure AccessMode where
  want : String := ""
  given : String := ""

structure SetSub where
  userId : String := ""
  mode : String := ""

structure ClientCred where
  method : String := ""
  value : String := ""
  response : String := ""
  params : GoMap String Raw := ∅

structure SetDesc where
  defaultAcs : Option DefaultAcsMode := none
  pub : Option Raw := none
  priv : Option Raw := none
  trusted : Option Raw := none

structure SeqRange where
  low : Int32 := 0
  hi : Int32 := 0

structure GetOpts where
  ifModifiedSince : Int64 := 0
  user : String := ""
  topic : String := ""
  sinceId : Int32 := 0
  beforeId : Int32 := 0
  limit : Int32 := 0
  ranges : List SeqRange := []

structure GetQuery where
  what : String := ""
  desc : Option GetOpts := none
  sub : Option GetOpts := none
  data : Option GetOpts := none

structure SetQuery where
  desc : Option SetDesc := none
  sub : Option SetSub := none
  tags : List String := []
  cred : Option ClientCred := none
  aux : GoMap String Raw := ∅

structure ClientHi where
  id : String := ""
  userAgent : String := ""
  ver : String := ""
  deviceId : String := ""
  lang : String := ""
  platform : String := ""
  background : Bool := false

structure ClientAcc where
  id : String := ""
  userId : String := ""
  scheme : String := ""
  secret : Raw := []
  login : Bool := false
  tags : List String := []
  desc : Option SetDesc := none
  cred : List ClientCred := []
  state : String := ""
  authLevel : AuthLevel := .none
  tmpScheme : String := ""
  tmpSecret : Raw := []

structure ClientLogin where
  id : String := ""
  scheme : String := ""
  secret : Raw := []
  cred : List ClientCred := []

structure ClientSub where
  id : String := ""
  topic : String := ""
  setQuery : Option SetQuery := none
  getQuery : Option GetQuery := none

structure ClientLeave where
  id : String := ""
  topic : String := ""
  unsub : Bool := false

structure ClientPub where
  id : String := ""
  topic : String := ""
  noEcho : Bool := false
  head : GoMap String Raw := ∅
  content : Raw := []

structure ClientGet where
  id : String := ""
  topic : String := ""
  query : Option GetQuery := none

structure ClientSet where
  id : String := ""
  topic : String := ""
  query : Option SetQuery := none

inductive DelWhat
  | msg | topic | sub | user | cred
  | other (n : Int32)

structure ClientDel where
  id : String := ""
  topic : String := ""
  what : DelWhat := .other 0
  delSeq : List SeqRange := []
  userId : String := ""
  cred : Option ClientCred := none
  hard : Bool := false

inductive InfoNote
  | read | recv | kp | call
  | other (n : Int32)

inductive CallEvent
  | accept | answer | hangUp | iceCandidate | invite | offer | ringing
  | other (n : Int32)

structure ClientNote where
  topic : String := ""
  what : InfoNote := .other 0
  seqId : Int32 := 0
  unread : Int32 := 0
  event : CallEvent := .other 0
  payload : Raw := []

structure ClientExtra where
  attachments : List String := []
  onBehalfOf : String := ""
  authLevel : AuthLevel := .none

/-- `oneof Message`. -/
inductive ClientBody
  | hi (m : ClientHi)
  | acc (m : ClientAcc)
  | login (m : ClientLogin)
  | sub (m : ClientSub)
  | leave (m : ClientLeave)
  | pub (m : ClientPub)
  | get (m : ClientGet)
  | set (m : ClientSet)
  | del (m : ClientDel)
  | note (m : ClientNote)

structure ClientMsg where
  message : Option ClientBody := none
  extra : Option ClientExtra := none

structure ServerCred where
  method : String := ""
  value : String := ""
  done : Bool := false

structure TopicDesc where
  createdAt : Int64 := 0
  updatedAt : Int64 := 0
  touchedAt : Int64 := 0
  defacs : Option DefaultAcsMode := none
  acs : Option AccessMode := none
  seqId : Int32 := 0
  readId : Int32 := 0
  recvId : Int32 := 0
  delId : Int32 := 0
  pub : Raw := []
  priv : Raw := []
  state : String := ""
  trusted : Raw := []
  isChan : Bool := false
  online : Bool := false
  lastSeenTime : Int64 := 0
  lastSeenUserAgent : String := ""

structure TopicSub where
  updatedAt : Int64 := 0
  deletedAt : Int64 := 0
  online : Bool := false
  acs : Option AccessMode := none
  readId : Int32 := 0
  recvId : Int32 := 0
  pub : Raw := []
  trusted : Raw := []
  priv : Raw := []
  userId : String := ""
  topic : String := ""
  touchedAt : Int64 := 0
  seqId : Int32 := 0
  delId : Int32 := 0
  lastSeenTime : Int64 := 0
  lastSeenUserAgent : String := ""

structure DelValues where
  delId : Int32 := 0
  delSeq : List SeqRange := []

structure ServerCtrl where
  id : String := ""
  topic : String := ""
  code : Int32 := 0
  text : String := ""
  params : GoMap String Raw := ∅

structure ServerData where
  topic : String := ""
  fromUserId : String := ""
  timestamp : Int64 := 0
  deletedAt : Int64 := 0
  seqId : Int32 := 0
  head : GoMap String Raw := ∅
  content : Raw := []

inductive PresWhat
  | on | off | ua | upd | gone | acs | term | msg | read | recv | del | tags | aux
  | other (n : Int32)

structure ServerPres where
  topic : String := ""
  src : String := ""
  what : PresWhat := .other 0
  userAgent : String := ""
  seqId : Int32 := 0
  delId : Int32 := 0
  delSeq : List SeqRange := []
  targetUserId : String := ""
  actorUserId : String := ""
  acs : Option AccessMode := none

structure ServerMeta where
  id : String := ""
  topic : String := ""
  desc : Option TopicDesc := none
  sub : List TopicSub := []
  del : Option DelValues := none
  tags : List String := []
  cred : List ServerCred := []
  aux : GoMap String Raw := ∅

structure ServerInfo where
  topic : String := ""
  fromUserId : String := ""
  what : InfoNote := .other 0
  seqId : Int32 := 0
  src : String := ""
  event : CallEvent := .other 0
  payload : Raw := []

inductive ServerBody
  | ctrl (m : ServerCtrl)
  | data (m : ServerData)
  | pres (m : ServerPres)
  | metaMsg (m : ServerMeta)
  | info (m : ServerInfo)

structure ServerMsg where
  message : Option ServerBody := none

inductive RespCode
  | continue_ | drop | respond | replace
  | other (n : Int32)

/-- The answer of a plug-in to `FireHose`. -/
structure ServerResp where
  status : RespCode := .continue_
  srvmsg : Option ServerMsg := none
  clmsg : Option ClientMsg := none

/-- The answer of a plug-in to `Find`. -/
structure SearchFound where
  status : RespCode := .continue_
  query : String := ""
  result : List TopicSub := []

end Pbx

structure MsgDefaultAcsMode where
  auth : String := ""
  anon : String := ""

structure MsgAccessMode where
  want : String := ""
  given : String := ""
  mode : String := ""

structure MsgGetOpts where
  user : String := ""
  topic : String := ""
  ifModifiedSince : Option Timestamp := none
  sinceId : Int := 0
  beforeId : Int := 0
  limit : Int := 0
  idRanges : List MsgRange := []

structure MsgGetQuery where
  what : String := ""
  desc : Option MsgGetOpts := none
  sub : Option MsgGetOpts := none
  data : Option MsgGetOpts := none
  del : Option MsgGetOpts := none

structure MsgSetSub where
  user : String := ""
  mode : String := ""

structure MsgSetDesc where
  defaultAcs : Option MsgDefaultAcsMode := none
  pub : Any := .null
  trusted : Any := .null
  priv : Any := .null

structure MsgCredClient where
  method : String := ""
  value : String := ""
  response : String := ""
  params : GoMap String Any := ∅

structure MsgSetQuery where
  desc : Option MsgSetDesc := none
  sub : Option MsgSetSub := none
  tags : List String := []
  cred : Option MsgCredClient := none
  aux : GoMap String Any := ∅

structure MsgClientHi where
  id : String := ""
  userAgent : String := ""
  version : String := ""
  deviceID : String := ""
  lang : String := ""
  platform : String := ""
  background : Bool := false

structure MsgClientAcc where
  id : String := ""
  user : String := ""
  tmpScheme : String := ""
  tmpSecret : Raw := []
  state : String := ""
  authLevel : String := ""
  scheme : String := ""
  secret : Raw := []
  login : Bool := false
  tags : List String := []
  desc : Option MsgSetDesc := none
  cred : List MsgCredClient := []

structure MsgClientLogin where
  id : String := ""
  scheme : String := ""
  secret : Raw := []
  cred : List MsgCredClient := []

structure MsgClientSub where
  id : String := ""
  topic : String := ""
  set : Option MsgSetQuery := none
  get : Option MsgGetQuery := none

structure MsgClientLeave where
  id : String := ""
  topic : String := ""
  unsub : Bool := false

structure MsgClientPub where
  id : String := ""
  topic : String := ""
  noEcho : Bool := false
  head : Head := ∅
  content : Any := .null

structure MsgClientGet extends MsgGetQuery where
  id : String := ""
  topic : String := ""

structure MsgClientSet extends MsgSetQuery where
  id : String := ""
  topic : String := ""

structure MsgClientDel where
  id : String := ""
  topic : String := ""
  what : String := ""
  delSeq : List MsgRange := []
  user : String := ""
  cred : Option MsgCredClient := none
  hard : Bool := false

structure MsgClientNote where
  topic : String := ""
  what : String := ""
  seqId : Int := 0
  unread : Int := 0
  event : String := ""
  payload : Raw := []

structure MsgClientExtra where
  attachments : List String := []
  asUser : String := ""
  authLevel : String := ""

structure ClientComMessage where
  hi : Option MsgClientHi := none
  acc : Option MsgClientAcc := none
  login : Option MsgClientLogin := none
  sub : Option MsgClientSub := none
  leave : Option MsgClientLeave := none
  pub : Option MsgClientPub := none
  get : Option MsgClientGet := none
  set : Option MsgClientSet := none
  del : Option MsgClientDel := none
  note : Option MsgClientNote := none
  extra : Option MsgClientExtra := none
  /-- The number of the sender's authentication level, which `dispatch` fills in. -/
  authLvl : Int := 0

structure MsgLastSeenInfo where
  seenAt : Option Timestamp := none
  userAgent : String := ""

structure MsgCredServer where
  method : String := ""
  value : String := ""
  done : Bool := false

structure MsgTopicDesc where
  createdAt : Option Timestamp := none
  updatedAt : Option Timestamp := none
  touchedAt : Option Timestamp := none
  state : String := ""
  online : Bool := false
  isChan : Bool := false
  lastSeen : Option MsgLastSeenInfo := none
  defaultAcs : Option MsgDefaultAcsMode := none
  acs : Option MsgAccessMode := none
  seqId : Int := 0
  readSeqId : Int := 0
  recvSeqId : Int := 0
  delId : Int := 0
  subCnt : Int := 0
  pub : Any := .null
  trusted : Any := .null
  priv : Any := .null

structure MsgTopicSub where
  updatedAt : Option Timestamp := none
  deletedAt : Option Timestamp := none
  online : Bool := false
  acs : MsgAccessMode := {}
  readSeqId : Int := 0
  recvSeqId : Int := 0
  pub : Any := .null
  trusted : Any := .null
  priv : Any := .null
  user : String := ""
  topic : String := ""
  touchedAt : Option Timestamp := none
  seqId : Int := 0
  delId : Int := 0
  subCnt : Int := 0
  lastSeen : Option MsgLastSeenInfo := none

structure MsgDelValues where
  delId : Int := 0
  delSeq : List MsgRange := []

/-- `MsgServerCtrl.Params`, of any type. -/
inductive CtrlParams
  | fields (values : GoMap String Any)
  /-- A map or a structure that is not a `map[string]any`, by its fields. -/
  | other (values : GoMap String Any)

structure MsgServerCtrl where
  id : String := ""
  topic : String := ""
  params : Option CtrlParams := none
  code : Int := 0
  text : String := ""
  /-- Absent for the zero time. -/
  timestamp : Option Timestamp := none

/-- `MsgServerData.Content`, of any type. -/
inductive DataContent
  | value (v : Any)
  /-- A `[]byte`. -/
  | bytes (raw : Raw)

structure MsgServerData where
  topic : String := ""
  sender : String := ""
  /-- Absent for the zero time. -/
  timestamp : Option Timestamp := none
  deletedAt : Option Timestamp := none
  seqId : Int := 0
  head : Head := ∅
  content : DataContent := .value .null

structure MsgServerPres where
  topic : String := ""
  src : String := ""
  what : String := ""
  userAgent : String := ""
  seqId : Int := 0
  delId : Int := 0
  delSeq : List MsgRange := []
  acsTarget : String := ""
  acsActor : String := ""
  acs : Option MsgAccessMode := none

structure MsgServerInfo where
  topic : String := ""
  src : String := ""
  sender : String := ""
  what : String := ""
  seqId : Int := 0
  event : String := ""
  payload : Raw := []

structure MsgServerMeta where
  id : String := ""
  topic : String := ""
  timestamp : Option Timestamp := none
  desc : Option MsgTopicDesc := none
  sub : List MsgTopicSub := []
  del : Option MsgDelValues := none
  tags : List String := []
  cred : List MsgCredServer := []
  aux : GoMap String Any := ∅

structure ServerComMessage where
  ctrl : Option MsgServerCtrl := none
  data : Option MsgServerData := none
  pres : Option MsgServerPres := none
  info : Option MsgServerInfo := none
  metaMsg : Option MsgServerMeta := none

/-- `types.Subscription`, as a search returns it. -/
structure FoundSub where
  updatedAt : Timestamp
  deletedAt : Option Timestamp := none
  user : String := ""
  topic : String := ""
  delId : Int := 0
  priv : Any := .null
  pub : Any := .null
  trusted : Any := .null
  modeGiven : AccessMode := 0
  modeWant : AccessMode := 0
  lastSeen : Option MsgLastSeenInfo := none

end LastochkaServer.Source.Wire
