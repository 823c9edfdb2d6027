import LastochkaServer.Lib.GoMap
import LastochkaServer.Source.AccessMode
import LastochkaServer.Source.Range

/-!
# Topic state

The part of `Topic` (`server/topic.go:24-194`) that the access-control, session and message
handlers read and write, together with the rows of the store that belong to the topic. A topic is
served by one goroutine, so every handler is a function from one `World` to the next.

Left out: discovery tags, auxiliary data, public and trusted values, timestamps, user agents and
timers. None of the modelled handlers branches on them.
-/

namespace LastochkaServer.Source

open Lib

/-- `types.Uid`; zero stands for no user. -/
abbrev Uid := UInt64

inductive TopicCat
  | me | fnd | p2p | grp | sys | slf
  deriving DecidableEq, Repr

/-- `auth.Level`. -/
inductive AuthLevel
  | none | anon | auth | root
  deriving DecidableEq, Repr

/-- The two names of a group topic: `grpXXX`, and `chnXXX` for channel readers. A request
addresses the topic by one of them (`msg.Original`), and a subscription row is stored under one. -/
inductive Addressing
  | topic | channel
  deriving DecidableEq, Repr

/-- A run-time panic of the topic's goroutine. -/
inductive Panic
  | invalidP2PTopic
  | notValidP2PTopic
  | unknownTopicCategory
  | zeroUid
  | cannotDetermineUid
  | nilDereference
  deriving DecidableEq, Repr

abbrev Exec := Except Panic

inductive SessionProto
  | none | websock | lpoll | grpc | proxy | multiplex
  deriving DecidableEq, Repr

/-- What identifies a session: a `*Session` pointer with the fields fixed at its creation. -/
structure SessionKey where
  sid : String
  proto : SessionProto
  deriving DecidableEq, Repr

def SessionKey.isMultiplex (s : SessionKey) : Bool := s.proto == .multiplex
def SessionKey.isProxy (s : SessionKey) : Bool := s.proto == .proxy
def SessionKey.isCluster (s : SessionKey) : Bool := s.isProxy || s.isMultiplex

theorem SessionKey.none_multiplex : ∀ s ∈ (none : Option SessionKey), s.isMultiplex := nofun

theorem SessionProto.websock_direct :
    (Option.none : Option SessionKey).isSome = (SessionProto.websock == .proxy) := rfl

/-- The session a request arrives on. `multi` is set exactly for the short-lived proxies of
sessions at other cluster nodes and is then a multiplexing session. -/
structure Session extends SessionKey where
  multi : Option SessionKey := .none
  uid : Uid := 0
  background : Bool := false
  multi_iff_proxy : multi.isSome = (proto == .proxy) := by
    first | exact SessionProto.websock_direct | decide
  multi_multiplex : ∀ s ∈ multi, s.isMultiplex := by
    first | exact SessionKey.none_multiplex | decide

/-- `s := sess; if sess.multi != nil { s = s.multi }`: the key under which the topic knows the
session. -/
def Session.attached (sess : Session) : SessionKey :=
  sess.multi.getD sess.toSessionKey

structure PerSessionData where
  uid : Uid := 0
  isChanSub : Bool := false
  muids : List Uid := []
  deriving DecidableEq, Repr

/-- A client-supplied `any`, of which only presence and the delete marker matter. -/
abbrev Value := Option String

/-- `isNullValue`: the Unicode DEL symbol asks for the value to be deleted. -/
def isNullValue (v : Value) : Bool := v == some "␡"

structure PerUserData where
  online : Int := 0
  recvID : Int := 0
  readID : Int := 0
  delID : Int := 0
  privateData : Value := none
  modeWant : AccessMode := 0
  modeGiven : AccessMode := 0
  topicName : String := ""
  deleted : Bool := false
  isChan : Bool := false
  deriving DecidableEq

/-- The permissions in force. -/
def PerUserData.mode (pud : PerUserData) : AccessMode :=
  pud.modeGiven &&& pud.modeWant

/-- A value of the dynamic type `any`. Of an object only the text of its field `txt` is read. -/
inductive Any
  | null
  | str (text : String)
  | num (n : Int)
  | bool (b : Bool)
  /-- The text `uid.UserId()`. -/
  | user (uid : Uid)
  | object (txt : Option String) (json : String)
  deriving DecidableEq, Repr

/-- The header of a message. -/
abbrev Head := GoMap String Any

/-- A row of `messages` of this topic; `sender` is the column `from`. -/
structure Message where
  seqId : Int
  sender : Uid
  head : Option Head
  content : Any

/-- `callPartyData`. -/
structure CallParty where
  uid : Uid
  isOriginator : Bool
  sess : Session

structure VideoCall where
  /-- The participants, by the id of their session. -/
  parties : GoMap String CallParty
  seq : Int
  content : Any
  contentMime : Any := .null

/-- The events of a call; every other text is an unexpected event. -/
inductive CallEvent
  | ringing | accept | offer | answer | iceCandidate | hangUp | unexpected
  deriving DecidableEq, Repr

structure Topic where
  cat : TopicCat
  xoriginal : String := ""
  isChan : Bool := false
  lastID : Int := 0
  delID : Int := 0
  subCnt : Int := 0
  owner : Uid := 0
  accessAuth : AccessMode := 0
  accessAnon : AccessMode := 0
  perUser : GoMap Uid PerUserData := ∅
  modeWantUnion : AccessMode := 0
  modeGivenUnion : AccessMode := 0
  sessions : GoMap SessionKey PerSessionData := ∅
  inactive : Bool := false
  readOnly : Bool := false
  /-- The channel for session updates exists: `me` topics, and group topics that have been loaded. -/
  supd : Bool := false
  currentCall : Option VideoCall := none

/-- A row of `subscriptions`, keyed by topic name and user. -/
structure Subscription where
  modeWant : AccessMode
  modeGiven : AccessMode
  deletedAt : Bool := false
  delId : Int := 0
  recvSeqId : Int := 0
  readSeqId : Int := 0
  privateData : Value := none
  deriving DecidableEq

/-- What an invitation reads of a row of `users`. -/
structure User where
  accessAuth : AccessMode
  suspended : Bool := false
  deriving DecidableEq

/-- The id of an uploaded file, never zero. -/
abbrev FileId := UInt64

structure Store where
  subs : GoMap (Addressing × Uid) Subscription := ∅
  users : GoMap Uid User := ∅
  topicOwner : Uid := 0
  /-- The column `seqid` of the topic. -/
  seqId : Int := 0
  messages : List Message := []
  reactions : GoMap (Int × Uid) String := ∅
  files : List FileId := []
  /-- The rows of `filemsglinks` that belong to messages of the topic. -/
  fileLinks : List (Int × FileId) := []

namespace Store

/-- `Subs.Get`. -/
def getSub (s : Store) (name : Addressing) (uid : Uid) (keepDeleted : Bool) : Option Subscription :=
  (s.subs.lookup (name, uid)).filter fun sub => keepDeleted || !sub.deletedAt

/-- `Subs.Create`: an existing row is undeleted and keeps its private value. -/
def createSub (s : Store) (name : Addressing) (uid : Uid) (modeWant modeGiven : AccessMode)
    (privateData : Value) : Store :=
  let row : Subscription :=
    { modeWant := modeWant
      modeGiven := modeGiven
      privateData := ((s.subs.lookup (name, uid)).map (·.privateData)).getD privateData }
  let isOwner := (modeGiven &&& modeWant).isOwner && name = .topic
  { s with
    subs := s.subs.insert (name, uid) row
    topicOwner := if isOwner then uid else s.topicOwner }

/-- `Subs.Update` for one user: no error when there is no such row. Deleted rows are updated too.
The zero uid, for which the adapter updates the rows of all users, is the id of no subscriber. -/
def updateSub (s : Store) (name : Addressing) (uid : Uid) (update : Subscription → Subscription) :
    Store :=
  match s.subs.lookup (name, uid) with
  | some sub => { s with subs := s.subs.insert (name, uid) (update sub) }
  | none => s

/-- `Subs.Delete` marks the row; `none` stands for `ErrNotFound`. -/
def deleteSub (s : Store) (name : Addressing) (uid : Uid) : Option Store :=
  (s.getSub name uid false).map fun sub =>
    { s with subs := s.subs.insert (name, uid) { sub with deletedAt := true } }

end Store

/-- The store calls of the subscription handlers. Each may fail on its own. -/
inductive StoreCall
  | subsGet | subsCreate | subsUpdate | subsDelete | usersGet
  /-- `Subs.Update` of the previous owner, then `Topics.OwnerChange`. -/
  | ownerUpdate | ownerChange
  deriving DecidableEq, Repr

/-- Which store calls of a request fail. -/
abbrev Faults := StoreCall → Bool

/-- Replies, named by the functions of `datamodel.go` that build them. -/
inductive Reply
  | noErr | noErrParams | noErrEvicted
  | infoNoAction | infoNotModified | infoNotJoined | infoAlreadySubscribed | infoUseOther
  | errMalformed | errPermissionDenied | errOperationNotAllowed | errNotFound | errUserNotFound
  | errAttachFirst | errPolicy | errLocked | errUnknown | errNotImplemented | errCallBusy
  /-- `NoErrAccepted` with the number given to the message. -/
  | noErrAccepted (seq : Int)
  deriving DecidableEq, Repr

/-- What is broadcast to the attached sessions. -/
inductive Broadcast
  /-- `{data}`; the session `skipSid` does not get it. -/
  | data (seqId : Int) (skipSid : String)
  /-- `{info what=call event=hang-up}` -/
  | hangUp (seq : Int)
  /-- `{info what=react}` -/
  | react (seq : Int) (actor : Uid)
  deriving DecidableEq, Repr

/-- What a handler hands to the rest of the server. -/
inductive Effect
  | queueOut (sid : String) (reply : Reply)
  | detachSession (sid : String)
  | notifySubChange (uid actor : Uid) (isChan : Bool)
      (oldWant oldGiven newWant newGiven : AccessMode) (skip : String)
  | usersUpdateUnread (uid : Uid) (val : Int)
  | usersRegisterUser (uid : Uid) (add : Bool)
  | channelSubUnsub (uid : Uid) (sub : Bool)
  /-- `store.Messages.DeleteList`; the zero `forUser` deletes for everybody, and then only messages
  that are not too old when `aged` is set. -/
  | deleteList (delID : Int) (forUser : Uid) (aged : Bool) (ranges : List Range)
  /-- The deletion announced to everybody, or to the other sessions of one user. -/
  | presDel (forUser : Uid) (delID : Int) (delSeq : List MsgRange) (skip : String)
  | broadcast (msg : Broadcast) (recipients : List SessionKey)
  /-- `{info what=call}` for one participant of a call. -/
  | forwardCall (sid : String) (event : CallEvent) (seq : Int) (actor : Uid)
  /-- `{info what=call}` for the `me` topic of a user. -/
  | infoCall (target : Uid) (event : CallEvent) (seq : Int)
  deriving DecidableEq

structure World where
  topic : Topic
  store : Store := {}
  out : List Effect := []

def World.emit (w : World) (e : Effect) : World :=
  { w with out := w.out ++ [e] }

@[simp] theorem World.emit_topic (w : World) (e : Effect) : (w.emit e).topic = w.topic := rfl
@[simp] theorem World.emit_store (w : World) (e : Effect) : (w.emit e).store = w.store := rfl

/-- Settings that do not change while the server runs. -/
structure Config where
  /-- `globals.maxSubscriberCount` -/
  maxSubscriberCount : Nat := 128
  /-- `config.P2PDeleteEnabled` -/
  p2pDeleteEnabled : Bool := false
  /-- The adapter's `maxResults`. -/
  maxResults : Nat := 1024

def Config.typesModeCP2P (cfg : Config) : AccessMode :=
  if cfg.p2pDeleteEnabled then AccessMode.modeCP2PD else AccessMode.modeCP2P

namespace Topic

/-- `t.perUser[uid]`, the zero value when the user is not cached. -/
def pud (t : Topic) (uid : Uid) : PerUserData := t.perUser.getD uid {}

/-- `t.perUser[uid] = pud`. -/
def setPud (t : Topic) (uid : Uid) (pud : PerUserData) : Topic :=
  { t with perUser := t.perUser.insert uid pud }

def grpToChn (name : String) : String :=
  match name.toList with
  | 'g' :: 'r' :: 'p' :: rest => String.ofList ('c' :: 'h' :: 'n' :: rest)
  | 'c' :: 'h' :: 'n' :: _ => name
  | _ => ""

/-- The name under which the user knows the topic. -/
def original (t : Topic) (uid : Uid) : Exec String :=
  match t.cat with
  | .p2p =>
    match t.perUser.lookup uid with
    | some pud => .ok pud.topicName
    | none => .error .invalidP2PTopic
  | .grp => .ok (if t.isChan && (t.pud uid).isChan then grpToChn t.xoriginal else t.xoriginal)
  | _ => .ok t.xoriginal

/-- `verifyChannelAccess`: only a channel can be addressed as a channel. -/
def verifyChannelAccess (t : Topic) : Addressing → Except Unit Bool
  | .topic => .ok false
  | .channel => if t.isChan then .ok true else .error ()

def subsCount (t : Topic) : Nat :=
  if t.cat = .p2p then (t.perUser.entries.filter fun e => !e.2.deleted).length
  else t.perUser.len

/-- `getPerUserAcs`: for the zero uid of a multiplexing session, the union over all users. -/
def getPerUserAcs (t : Topic) (uid : Uid) : AccessMode × AccessMode :=
  if uid = 0 then (t.modeWantUnion, t.modeGivenUnion)
  else ((t.pud uid).modeWant, (t.pud uid).modeGiven)

def userIsReader (t : Topic) (uid : Uid) : Bool :=
  let (modeWant, modeGiven) := t.getPerUserAcs uid
  (modeGiven &&& modeWant).isReader

def computePerUserAcsUnion (t : Topic) : Topic :=
  let subscribers := t.perUser.entries.filter fun e => !e.2.isChan
  let reader := if t.isChan then AccessMode.modeCChnReader else AccessMode.modeNone
  { t with
    modeWantUnion := subscribers.foldl (fun m e => m ||| e.2.modeWant) AccessMode.modeNone ||| reader
    modeGivenUnion :=
      subscribers.foldl (fun m e => m ||| e.2.modeGiven) AccessMode.modeNone ||| reader }

end Topic

/-- `getDefaultAccess` for an authenticated user. -/
def getDefaultAccess (cfg : Config) (cat : TopicCat) (isChan : Bool) : Exec AccessMode :=
  match cat with
  | .p2p => .ok cfg.typesModeCP2P
  | .fnd => .ok AccessMode.modeNone
  | .grp => .ok (if isChan then AccessMode.modeCChnWriter else AccessMode.modeCPublic)
  | .me => .ok AccessMode.modeCMeFnd
  | .slf => .ok AccessMode.modeCSelf
  | .sys => .error .unknownTopicCategory

def selectAccessMode (lvl : AuthLevel) (anonMode authMode rootMode : AccessMode) : AccessMode :=
  match lvl with
  | .none => AccessMode.modeNone
  | .anon => anonMode
  | .auth => authMode
  | .root => rootMode

/-- The arguments are evaluated before the level is looked at, so a `sys` topic always panics. -/
def Topic.accessFor (cfg : Config) (t : Topic) (lvl : AuthLevel) : Exec AccessMode := do
  let rootMode ← getDefaultAccess cfg t.cat false
  pure (selectAccessMode lvl t.accessAnon t.accessAuth rootMode)

end LastochkaServer.Source
