import LastochkaServer.Source.Profile

/-!
# Values of a topic

`replySetDesc` (`server/topic.go:2217-2435`) and `replySetAux` (`server/topic.go:3153-3178`) for
topics of every category: the values that the topic object holds, those of the rows they are loaded
from, and the reply.

A map of the topic object is merged into in place, before it is known whether the request is
accepted. `copyMap` protects the map of auxiliary values itself but not the maps in it. Left out:
timestamps, attachments, tags of addresses, and presence notifications.
-/

namespace LastochkaServer.Source

open Lib AccessMode

/-- What a client sees of a document at one place. -/
inductive Leaf
  | null | text (s : String) | other (json : String) | map
  deriving DecidableEq

/-- The value at a path of keys. -/
def Doc.look : List String → Doc → Option Leaf
  | [], .null => some .null
  | [], .text s => some (.text s)
  | [], .other json => some (.other json)
  | [], .map _ => some .map
  | key :: rest, .map fields => (Fields.field fields key).bind (look rest)
  | _ :: _, _ => none

/-- Two documents are the same at every depth. -/
def Doc.Same (d d' : Doc) : Prop := ∀ path, d.look path = d'.look path

theorem Doc.Same.refl (d : Doc) : d.Same d := fun _ => rfl

/-- The auxiliary values of the topic after a request has been merged into a copy of them: the maps
among them are shared with the copy. -/
def auxInPlace (aux src : Fields) : Fields :=
  aux.map fun (key, val) =>
    match val, Fields.field src key with
    | .map fields, some (.map changes) => (key, .map (mergeMaps fields changes).1)
    | val, _ => (key, val)

/-- What the topic object holds. -/
structure TopicValues where
  cat : TopicCat
  owner : Uid := 0
  accessAuth : AccessMode := modeNone
  accessAnon : AccessMode := modeNone
  pub : Doc := .null
  trusted : Doc := .null
  /-- The public value of `fnd` is kept by session. -/
  fndPub : String → Option Doc := fun _ => none
  priv : Uid → Doc := fun _ => .null
  aux : Fields := []
  /-- `modeGiven & modeWant` of a user. -/
  mode : Uid → AccessMode := fun _ => modeNone

/-- The rows of the topic, or of the user for `me`, and of the subscriptions. -/
structure ValueRows where
  accessAuth : AccessMode := modeNone
  accessAnon : AccessMode := modeNone
  pub : Doc := .null
  trusted : Doc := .null
  /-- Channel readers have rows of their own. -/
  priv : Bool → Uid → Doc := fun _ _ => .null
  aux : Fields := []

structure ValueRequest where
  sid : String
  asUid : Uid
  asLvl : AuthLevel := .auth
  asChan : Bool := false
  desc : Option MeDesc := none

/-- Store calls that fail. -/
structure ValueFaults where
  coreUpdate : Bool := false
  subsUpdate : Bool := false
  deriving DecidableEq

/-- What the handlers ask others. -/
structure ValueEnv where
  account : AccountEnv
  db : AccountDb
  typesModeCP2P : AccessMode
  compressed : Fields → Option Doc
  fails : ValueFaults

def MeReply.isError : MeReply → Bool
  | .noErr | .notModified => false
  | .permissionDenied | .malformed | .unknown | .storeError _ _ => true

section

variable (env : ValueEnv)

/-- `replySetDesc.assignAccess`: the new default modes, if they differ. -/
def assignAccessOf (v : TopicValues) :
    Option DefaultAcs → Except String (Option (AccessMode × AccessMode))
  | none => .ok none
  | some mode =>
    match parseTopicAccess mode modeUnset modeUnset with
    | (_, _, some err) => .error err
    | (auth, anon, none) =>
      if auth.isOwner ∨ anon.isOwner then .error "default 'owner' access is not permitted"
      else
        let adjust (limit mode : AccessMode) := if v.cat = .me then meMode limit mode else mode
        let access :=
          (if auth ≠ modeUnset then adjust modeCAuth auth else v.accessAuth,
            if anon ≠ modeUnset then adjust env.typesModeCP2P anon else v.accessAnon)
        .ok (if access ≠ (v.accessAuth, v.accessAnon) then some access else none)

def TopicValues.fndGetPublic (v : TopicValues) (sid : String) : Doc :=
  match v.fndPub sid with
  | some (.text s) => .text s
  | _ => .text ""

/-- The public and trusted values, once a request has been merged into them. -/
def TopicValues.mergeCommon (v : TopicValues) (desc : MeDesc) : TopicValues :=
  { v with
    pub := publicInPlace env.compressed v.pub desc.pub
    trusted := mergedInPlace v.trusted desc.trusted }

/-- The private value, once a request has been merged into it. -/
def TopicValues.mergePrivate (v : TopicValues) (uid : Uid) (desc : MeDesc) : TopicValues :=
  { v with priv := Function.update v.priv uid (mergedInPlace (v.priv uid) desc.priv) }

/-- The request may change the public and trusted values and the default access. -/
def TopicValues.common (v : TopicValues) (uid : Uid) : Bool :=
  v.cat = .me || (v.cat = .grp && v.owner = uid)

/-- The request is refused for its category or its author before anything is merged. -/
def TopicValues.denied (v : TopicValues) (r : ValueRequest) (desc : MeDesc) : Bool :=
  (!desc.trusted.isNull && r.asLvl ≠ .root) ||
    match v.cat with
    | .fnd => !desc.trusted.isNull
    | .p2p => !desc.pub.isNull || !desc.trusted.isNull || desc.defaultAcs.isSome
    | .grp =>
      v.owner ≠ r.asUid && (desc.defaultAcs.isSome || !desc.pub.isNull || !desc.trusted.isNull)
    | .me | .slf | .sys => false

/-- What is to be stored besides the private value. -/
def coreUpdate (v : TopicValues) (r : ValueRequest) (desc : MeDesc) : Except String MeUpdate :=
  if v.common r.asUid then
    match assignAccessOf env v desc.defaultAcs with
    | .error e => .error e
    | .ok access => .ok
        { access, pub := newPublic env.compressed v.pub desc.pub,
          trusted := assignDoc v.trusted desc.trusted }
  else if v.cat = .fnd then .ok { pub := assignDoc (v.fndGetPublic r.sid) desc.pub }
  else .ok {}

/-- The new address of a user, if it has to be free. -/
def newAddress (v : TopicValues) (u : MeUpdate) : Option String :=
  if v.cat = .me then
    (u.pub.bind (addressOf env.account)).filter fun address => addressOf env.account v.pub ≠
      some address
  else none

/-- `replySetDesc` up to the calls of the store: the topic object, which has been merged into
whatever the outcome, and what is to be stored. -/
def prepareValues (v : TopicValues) (r : ValueRequest) : TopicValues × Except MeReply MeUpdate :=
  match r.desc with
  | none => (v, .error .notModified)
  | some desc =>
    if v.denied r desc then (v, .error .permissionDenied)
    else
      let merged := if v.common r.asUid then v.mergeCommon env desc else v
      match coreUpdate env v r desc with
      | .error _ => (merged, .error .malformed)
      | .ok core =>
        let update := { core with priv := assignDoc (v.priv r.asUid) desc.priv }
        let merged := merged.mergePrivate r.asUid desc
        if update.core = false ∧ update.priv.isNone then (merged, .error .notModified)
        else
          match newAddress env v update with
          | none => (merged, .ok update)
          | some address =>
            match ensurePublicAddressAvailable env.account env.db address r.asUid with
            | .error e => (merged, .error (.storeError e "public_address"))
            | .ok () => (merged, .ok update)

/-- `store.Users.Update` or `store.Topics.Update`. -/
def ValueRows.storeCore (rows : ValueRows) (u : MeUpdate) : ValueRows :=
  { rows with
    accessAuth := (u.access.map Prod.fst).getD rows.accessAuth
    accessAnon := (u.access.map Prod.snd).getD rows.accessAnon
    pub := u.pub.getD rows.pub
    trusted := u.trusted.getD rows.trusted }

/-- `store.Subs.Update`. -/
def ValueRows.storePrivate (rows : ValueRows) (asChan : Bool) (uid : Uid) (priv : Doc) : ValueRows :=
  { rows with priv := Function.update rows.priv asChan (Function.update (rows.priv asChan) uid priv) }

/-- The values are stored; an error leaves what has been stored before. The public value of `fnd` is
not stored. -/
def storeValues (rows : ValueRows) (v : TopicValues) (r : ValueRequest) (u : MeUpdate) :
    ValueRows × Except MeReply Unit :=
  let core := u.core && v.cat ≠ .fnd
  if core && env.fails.coreUpdate then (rows, .error .unknown)
  else
    let rows := if core then rows.storeCore u else rows
    match u.priv with
    | none => (rows, .ok ())
    | some priv =>
      if env.fails.subsUpdate then (rows, .error .unknown)
      else (rows.storePrivate r.asChan r.asUid priv, .ok ())

/-- The values cached in the topic object at last. -/
def TopicValues.adoptUpdate (v : TopicValues) (r : ValueRequest) (u : MeUpdate) : TopicValues :=
  let v :=
    match v.cat with
    | .me | .grp =>
      { v with
        accessAuth := (u.access.map Prod.fst).getD v.accessAuth
        accessAnon := (u.access.map Prod.snd).getD v.accessAnon
        pub := u.pub.getD v.pub
        trusted := u.trusted.getD v.trusted }
    | .fnd =>
      { v with fndPub := Function.update v.fndPub r.sid (u.pub.filter fun pub => !pub.isNull) }
    | _ => v
  { v with priv := Function.update v.priv r.asUid (u.priv.getD (v.priv r.asUid)) }

/-- `replySetDesc`. -/
def replySetDescOf (v : TopicValues) (rows : ValueRows) (r : ValueRequest) :
    TopicValues × ValueRows × MeReply :=
  match prepareValues env v r with
  | (v, .error reply) => (v, rows, reply)
  | (v, .ok u) =>
    match storeValues env rows v r u with
    | (rows, .error reply) => (v, rows, reply)
    | (rows, .ok ()) => (v.adoptUpdate r u, rows, .noErr)

inductive AuxReply
  | operationNotAllowed | permissionDenied | notModified | noErr
  | storeError
  deriving DecidableEq

def replySetAux (v : TopicValues) (rows : ValueRows) (asUid : Uid) (src : Fields) :
    TopicValues × ValueRows × AuxReply :=
  if v.cat ≠ .p2p ∧ v.cat ≠ .grp ∧ v.cat ≠ .slf then (v, rows, .operationNotAllowed)
  else if (v.mode asUid).isAdmin = false then (v, rows, .permissionDenied)
  else
    let merged := { v with aux := auxInPlace v.aux src }
    match mergeMaps v.aux src with
    | (_, false) => (merged, rows, .notModified)
    | (aux, true) =>
      if env.fails.coreUpdate then (merged, rows, .storeError)
      else ({ v with aux }, { rows with aux }, .noErr)

end

end LastochkaServer.Source
