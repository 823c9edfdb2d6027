import LastochkaServer.Lib.Except
import LastochkaServer.Source.Dispatch
import LastochkaServer.Source.Wire.RoundTrip

/-!
# Client messages through protocol buffers

`client_round_trip` says which of the messages that the JSON transport accepts are the same after
`pbCliSerialize` and `pbCliDeserialize`, and so are dispatched as over JSON.
-/

namespace LastochkaServer.Guarantees.ClientRoundTrip

open Lib Source Source.Wire

variable {m : ClientComMessage} {s : ClientSection} {o : MsgGetOpts}

/-- The sections of a message, in the order of the switch of `pbCliSerialize`. -/
def sections (m : ClientComMessage) : List ClientSection :=
  (m.hi.map .hi).toList ++ (m.acc.map .acc).toList ++ (m.login.map .login).toList ++
    (m.sub.map .sub).toList ++ (m.leave.map .leave).toList ++ (m.pub.map .pub).toList ++
    (m.get.map .get).toList ++ (m.set.map .set).toList ++ (m.del.map .del).toList ++
    (m.note.map .note).toList

/-- The message that has only the section. -/
def message : ClientSection → ClientComMessage
  | .hi m => { hi := some m }
  | .acc m => { acc := some m }
  | .login m => { login := some m }
  | .sub m => { sub := some m }
  | .leave m => { leave := some m }
  | .pub m => { pub := some m }
  | .get m => { get := some m }
  | .set m => { set := some m }
  | .del m => { del := some m }
  | .note m => { note := some m }

theorem sections_message (s : ClientSection) (extra : Option MsgClientExtra) :
    sections { message s with extra } = [s] := by
  cases s <;> rfl

def optsInts (o : MsgGetOpts) : List Int :=
  [o.sinceId, o.beforeId, o.limit] ++ o.idRanges.flatMap rangeInts

def getInts (q : MsgGetQuery) : List Int :=
  q.desc.elim [] optsInts ++ q.sub.elim [] optsInts ++ q.data.elim [] optsInts ++
    q.del.elim [] optsInts

/-- The integers of a section. -/
def sectionInts : ClientSection → List Int
  | .sub m => m.get.elim [] getInts
  | .get m => getInts m.toMsgGetQuery
  | .del m => m.delSeq.flatMap rangeInts
  | .note m => [m.seqId, m.unread]
  | .hi _ | .acc _ | .login _ | .leave _ | .pub _ | .set _ => []

def mapValues (values : GoMap String Any) : List Any := values.entries.map (·.2)

def descValues (d : MsgSetDesc) : List Any := [d.pub, d.trusted, d.priv]

def setValues (q : MsgSetQuery) : List Any :=
  q.desc.elim [] descValues ++ q.cred.elim [] (fun c => mapValues c.params) ++ mapValues q.aux

/-- The values of a section that may be of any type. -/
def sectionValues : ClientSection → List Any
  | .acc m => m.desc.elim [] descValues ++ m.cred.flatMap fun c => mapValues c.params
  | .login m => m.cred.flatMap fun c => mapValues c.params
  | .sub m => m.set.elim [] setValues
  | .pub m => m.content :: mapValues m.head
  | .set m => setValues m.toMsgSetQuery
  | .del m => m.cred.elim [] fun c => mapValues c.params
  | .hi _ | .leave _ | .get _ | .note _ => []

variable (codec : Codec)

/-- The value came out of JSON. -/
def Decoded (v : Any) : Prop := ∃ raw, codec.unmarshal raw = v

/-- The section came out of JSON and its integers are within 32 bits. -/
structure SectionAccepted (s : ClientSection) : Prop where
  ints : ∀ n ∈ sectionInts s, Fits n
  values : ∀ v ∈ sectionValues s, Decoded codec v

structure Accepted (m : ClientComMessage) : Prop where
  sections : ∀ s ∈ sections m, SectionAccepted codec s
  /-- The level of the sender is not a part of JSON. -/
  authLvl : m.authLvl = 0

def NoNull (values : GoMap String Any) : Prop := ∀ v ∈ mapValues values, v ≠ .null

/-- The description has a part, and default access that is given is not blank. -/
def DescKept (d : MsgSetDesc) : Prop :=
  (d.defaultAcs.isSome ∨ d.pub ≠ .null ∨ d.trusted ≠ .null ∨ d.priv ≠ .null) ∧
    ∀ a ∈ d.defaultAcs, a.auth ≠ "" ∨ a.anon ≠ ""

/-- The query has a part other than auxiliary data, and no auxiliary data. -/
structure SetKept (q : MsgSetQuery) : Prop where
  desc : ∀ d ∈ q.desc, DescKept d
  sub : ∀ s ∈ q.sub, s.user ≠ "" ∨ s.mode ≠ ""
  cred : ∀ c ∈ q.cred, NoNull c.params
  aux : q.aux = ∅
  used : q.desc.isSome ∨ q.sub.isSome ∨ q.tags ≠ [] ∨ q.cred.isSome

/-- Only a limit and the time of the last change, a whole second between 1970 and 2262. -/
structure OptsKept (o : MsgGetOpts) : Prop where
  user : o.user = ""
  topic : o.topic = ""
  ids : o.sinceId = 0 ∧ o.beforeId = 0 ∧ o.idRanges = []
  time : ∀ ts : Int, o.ifModifiedSince = some ts → 0 < ts ∧ ts % 1000000000 = 0 ∧ ts < 2 ^ 63

structure GetKept (q : MsgGetQuery) : Prop where
  desc : ∀ o ∈ q.desc, OptsKept o
  sub : ∀ o ∈ q.sub, OptsKept o
  data : ∀ o ∈ q.data, o.user = "" ∧ o.topic = "" ∧ o.ifModifiedSince = none
  del : q.del = none

def SectionKept : ClientSection → Prop
  | .hi _ | .leave _ => True
  | .acc m =>
    m.authLevel ∈ ["NONE", "ANON", "AUTH"] ∧ (∀ d ∈ m.desc, DescKept d) ∧
      ∀ c ∈ m.cred, NoNull c.params
  | .login m => ∀ c ∈ m.cred, NoNull c.params
  | .sub m => (∀ q ∈ m.set, SetKept q) ∧ ∀ q ∈ m.get, GetKept q
  | .pub m => NoNull m.head
  | .get m => GetKept m.toMsgGetQuery
  | .set m => SetKept m.toMsgSetQuery
  | .del m => m.what ∈ ["msg", "topic", "sub", "user", "cred", ""] ∧ ∀ c ∈ m.cred, NoNull c.params
  | .note m =>
    m.what ∈ ["kp", "read", "recv", "call", ""] ∧
      m.event ∈ ["accept", "answer", "hang-up", "ice-candidate", "invite", "offer", "ringing", ""]

/-- The message has one section at most and nothing of it is lost, and its extra data name the level
`NONE`. -/
structure Kept (m : ClientComMessage) : Prop where
  single : (sections m).length ≤ 1
  whole : ∀ s ∈ sections m, SectionKept s
  extra : ∀ e ∈ m.extra, sections m ≠ [] ∧ e.authLevel = "NONE"

section

variable {codec}

theorem Decoded.view {v : Any} (decoded : Decoded codec v) : codec.view v = v := by
  obtain ⟨raw, rfl⟩ := decoded
  exact codec.unmarshal_marshal raw

theorem map_kept_iff {values : GoMap String Any} (decoded : ∀ v ∈ mapValues values, Decoded codec v) :
    byteMapToInterfaceMap codec.unmarshal (interfaceMapToByteMap codec.marshal values) = values ↔
      NoNull values := by
  have same : (values.entries.map fun e => (⟨e.1, codec.view e.2⟩ : Sigma fun _ : String => Any)) =
      values.entries := by
    refine (List.map_congr_left fun e mem => ?_).trans (List.map_id _)
    have fixed := (decoded e.2 (List.mem_map_of_mem mem)).view
    simp [fixed]
  have entries := codec.map_decoded_entries values
  rw [same] at entries
  unfold NoNull mapValues
  rw [AList.ext_iff, entries, List.filter_eq_self, List.forall_mem_map]
  simp

/-- A credential after both conversions. -/
def credDecoded (codec : Codec) (c : MsgCredClient) : MsgCredClient :=
  { c with
    params := byteMapToInterfaceMap codec.unmarshal (interfaceMapToByteMap codec.marshal c.params) }

theorem credDecoded_eq_iff {c : MsgCredClient} (decoded : ∀ v ∈ mapValues c.params, Decoded codec v) :
    credDecoded codec c = c ↔ NoNull c.params := by
  rw [← map_kept_iff decoded]
  obtain ⟨method, value, response, params⟩ := c
  simp [credDecoded]

theorem creds_decoded (creds : List MsgCredClient) :
    pbClientCredsDeserialize codec.unmarshal (pbClientCredsSerialize codec.marshal creds) =
      .ok (creds.map (credDecoded codec)) := by
  unfold pbClientCredsDeserialize pbClientCredsSerialize
  rw [List.mapM_map]
  exact List.mapM_pure

theorem creds_kept_iff {creds : List MsgCredClient}
    (decoded : ∀ v ∈ creds.flatMap (fun c => mapValues c.params), Decoded codec v) :
    creds.map (credDecoded codec) = creds ↔ ∀ c ∈ creds, NoNull c.params :=
  list_map_eq_iff fun c mem =>
    credDecoded_eq_iff fun v belongs => decoded v (List.mem_flatMap.mpr ⟨c, mem, belongs⟩)

theorem cred_kept_iff {cred : Option MsgCredClient}
    (decoded : ∀ v ∈ cred.elim [] (fun c => mapValues c.params), Decoded codec v) :
    pbClientCredDeserialize codec.unmarshal (pbClientCredSerialize codec.marshal cred) = cred ↔
      ∀ c ∈ cred, NoNull c.params := by
  cases cred with
  | none => exact iff_of_true rfl (by simp)
  | some c =>
    have own : credDecoded codec c = c ↔ NoNull c.params := credDecoded_eq_iff decoded
    simpa [pbClientCredDeserialize, pbClientCredSerialize, credSerialize, credDecoded] using own

theorem desc_kept_iff {desc : Option MsgSetDesc}
    (decoded : ∀ v ∈ desc.elim [] descValues, Decoded codec v) :
    pbSetDescDeserialize codec.unmarshal (pbSetDescSerialize codec.marshal desc) = desc ↔
      ∀ d ∈ desc, DescKept d := by
  cases desc with
  | none => exact iff_of_true rfl (by simp)
  | some d =>
    obtain ⟨acs, pub, trusted, priv⟩ := d
    have value (v : Any) (own : v ∈ [pub, trusted, priv]) : codec.view v = v := (decoded v own).view
    have acsBack := defaultAcs_decoded_iff acs
    have sent (v : Any) : (interfaceToBytes codec.marshal v).isSome ↔ v ≠ .null := by
      unfold interfaceToBytes
      split <;> simp_all
    by_cases used : acs.isSome ∨ pub ≠ .null ∨ trusted ≠ .null ∨ priv ≠ .null
    · by_cases back : pbDefaultAcsDeserialize (pbDefaultAcsSerialize acs) = acs
      · have kept : DescKept ⟨acs, pub, trusted, priv⟩ := ⟨used, acsBack.mp back⟩
        have found : acs.isSome ∨ pub ≠ .null ∨ priv ≠ .null ∨ trusted ≠ .null := by tauto
        refine iff_of_true ?_ (by simpa using kept)
        simp [pbSetDescSerialize, pbSetDescDeserialize, if_pos used, back, sent, found, value]
      · refine iff_of_false ?_ fun kept => back (acsBack.mpr (kept _ rfl).2)
        simp only [pbSetDescSerialize, pbSetDescDeserialize, Option.bind_some, if_pos used]
        split <;> simp [back]
    · refine iff_of_false ?_ fun kept => used (kept _ rfl).1
      simp [pbSetDescSerialize, pbSetDescDeserialize, used]

theorem set_kept_iff {q : MsgSetQuery} (decoded : ∀ v ∈ setValues q, Decoded codec v) :
    pbSetQueryDeserialize codec.unmarshal (pbSetQuerySerialize codec.marshal (some q)) = some q ↔
      SetKept q := by
  obtain ⟨desc, sub, tags, cred, aux⟩ := q
  have descBack : _ ↔ ∀ d ∈ desc, DescKept d :=
    desc_kept_iff fun v own => decoded v (by simp only [setValues, List.mem_append]; tauto)
  have credBack : _ ↔ ∀ c ∈ cred, NoNull c.params :=
    cred_kept_iff fun v own => decoded v (by simp only [setValues, List.mem_append]; tauto)
  have subBack := setSub_decoded_iff sub
  simp only [pbSetQuerySerialize, Option.map_some, pbSetQueryDeserialize_eq]
  constructor
  · intro back
    split at back
    next found =>
      simp only [Option.some.injEq, MsgSetQuery.mk.injEq] at back
      obtain ⟨descSame, subSame, -, credSame, auxSame⟩ := back
      refine ⟨descBack.mp descSame, subBack.mp subSame, credBack.mp credSame, auxSame.symm, ?_⟩
      rw [subSame] at found
      refine found.imp ?_ (Or.imp_right (Or.imp_right ?_))
      · intro sent
        cases desc <;> simp_all [pbSetDescSerialize]
      · intro sent
        cases cred <;> simp_all [pbClientCredSerialize]
    · cases back
  · rintro ⟨descKept, subKept, credKept, auxKept, used⟩
    have descSame := descBack.mpr descKept
    have found : (pbSetDescSerialize codec.marshal desc).isSome ∨ sub.isSome ∨ tags ≠ [] ∨
        (pbClientCredSerialize codec.marshal cred).isSome := by
      refine used.imp ?_ (Or.imp_right (Or.imp_right ?_))
      · intro given
        cases sent : pbSetDescSerialize codec.marshal desc with
        | some _ => rfl
        | none => rw [sent] at descSame; rw [← descSame] at given; exact given
      · intro given
        cases cred <;> simp_all [pbClientCredSerialize]
    have auxKept : aux = ∅ := auxKept
    rw [subBack.mpr subKept, if_pos found, descSame, credBack.mpr credKept, auxKept]

/-- The options of `desc` and `sub` after both conversions. -/
def optsDecoded (o : MsgGetOpts) : MsgGetOpts :=
  { ifModifiedSince := int64ToTime (timeToInt64 o.ifModifiedSince),
      limit := (Int32.ofInt o.limit).toInt }

/-- The options of `data` after both conversions. -/
def dataDecoded (o : MsgGetOpts) : MsgGetOpts :=
  { beforeId := (Int32.ofInt o.beforeId).toInt
    sinceId := (Int32.ofInt o.sinceId).toInt
    limit := (Int32.ofInt o.limit).toInt
    idRanges := pbDelQueryDeserialize (pbDelQuerySerialize o.idRanges) }

theorem optsDecoded_eq_iff (fits : ∀ n ∈ optsInts o, Fits n) : optsDecoded o = o ↔ OptsKept o := by
  obtain ⟨user, topic, time, since, before, limit, ranges⟩ := o
  have limitBack : (Int32.ofInt limit).toInt = limit := (fits limit (by simp [optsInts])).decoded
  have timeBack : int64ToTime (timeToInt64 time) = time ↔
      ∀ ts : Int, time = some ts → 0 < ts ∧ ts % 1000000000 = 0 ∧ ts < 2 ^ 63 := by
    cases time with
    | none => exact iff_of_true rfl (by simp)
    | some ts =>
      refine (time_decoded_iff ts).trans ⟨fun kept ts' same => ?_, fun all => all ts rfl⟩
      rw [← Option.some.inj same]
      exact kept
  simp only [optsDecoded, MsgGetOpts.mk.injEq, limitBack]
  constructor
  · rintro ⟨userSame, topicSame, timeSame, sinceSame, beforeSame, -, rangesSame⟩
    exact ⟨userSame.symm, topicSame.symm, ⟨sinceSame.symm, beforeSame.symm, rangesSame.symm⟩,
      timeBack.mp timeSame⟩
  · rintro ⟨userKept, topicKept, ⟨sinceKept, beforeKept, rangesKept⟩, timeKept⟩
    exact ⟨userKept.symm, topicKept.symm, timeBack.mpr timeKept, sinceKept.symm,
      beforeKept.symm, trivial, rangesKept.symm⟩

theorem dataDecoded_eq_iff (fits : ∀ n ∈ optsInts o, Fits n) :
    dataDecoded o = o ↔ o.user = "" ∧ o.topic = "" ∧ o.ifModifiedSince = none := by
  obtain ⟨user, topic, time, since, before, limit, ranges⟩ := o
  have sinceBack : (Int32.ofInt since).toInt = since := (fits since (by simp [optsInts])).decoded
  have beforeBack : (Int32.ofInt before).toInt = before := (fits before (by simp [optsInts])).decoded
  have limitBack : (Int32.ofInt limit).toInt = limit := (fits limit (by simp [optsInts])).decoded
  have rangesBack : pbDelQueryDeserialize (pbDelQuerySerialize ranges) = ranges :=
    ranges_decoded fun n own => fits n (by simp only [optsInts, List.mem_append]; tauto)
  simp [dataDecoded, sinceBack, beforeBack, limitBack, rangesBack, eq_comm]

theorem get_decoded (q : MsgGetQuery) :
    pbGetQueryDeserialize (pbGetQuerySerialize (some q)) =
      some { what := q.what, desc := q.desc.map optsDecoded, sub := q.sub.map optsDecoded
             data := q.data.map dataDecoded } := by
  simp only [pbGetQuerySerialize, pbGetQueryDeserialize, Option.map_some, Option.map_map]
  rfl

theorem get_kept_iff {q : MsgGetQuery} (fits : ∀ n ∈ getInts q, Fits n) :
    pbGetQueryDeserialize (pbGetQuerySerialize (some q)) = some q ↔ GetKept q := by
  obtain ⟨what, desc, sub, data, del⟩ := q
  have descBack : desc.map optsDecoded = desc ↔ ∀ o ∈ desc, OptsKept o :=
    option_map_eq_iff fun o given =>
      optsDecoded_eq_iff fun n own => fits n (by simp [getInts, Option.mem_def.mp given, own])
  have subBack : sub.map optsDecoded = sub ↔ ∀ o ∈ sub, OptsKept o :=
    option_map_eq_iff fun o given =>
      optsDecoded_eq_iff fun n own => fits n (by simp [getInts, Option.mem_def.mp given, own])
  have dataBack : data.map dataDecoded = data ↔
      ∀ o ∈ data, o.user = "" ∧ o.topic = "" ∧ o.ifModifiedSince = none :=
    option_map_eq_iff fun o given =>
      dataDecoded_eq_iff fun n own => fits n (by simp [getInts, Option.mem_def.mp given, own])
  simp only [get_decoded, Option.some.injEq, MsgGetQuery.mk.injEq, true_and, descBack,
    subBack, dataBack]
  constructor
  · rintro ⟨descKept, subKept, dataKept, delSame⟩
    exact ⟨descKept, subKept, dataKept, delSame.symm⟩
  · rintro ⟨descKept, subKept, dataKept, delKept⟩
    exact ⟨descKept, subKept, dataKept, delKept.symm⟩

end

/-- The message as it comes out of the packet made of it. -/
def roundTrip (m : ClientComMessage) : Exec ClientComMessage :=
  pbCliDeserialize codec.unmarshal (pbCliSerialize codec.marshal m)

variable {codec}

theorem acc_kept_iff {m : MsgClientAcc} (values : ∀ v ∈ sectionValues (.acc m), Decoded codec v) :
    decodeBody codec.unmarshal (encodeSection codec.marshal (.acc m)) = .ok (message (.acc m)) ↔
      SectionKept (.acc m) := by
  have credBack : m.cred.map (credDecoded codec) = m.cred ↔ ∀ c ∈ m.cred, NoNull c.params :=
    creds_kept_iff fun v own => values v (List.mem_append_right _ own)
  have descBack : _ ↔ ∀ d ∈ m.desc, DescKept d :=
    desc_kept_iff fun v own => values v (List.mem_append_left _ own)
  have levelBack := accLevel_decoded_iff m.authLevel
  obtain ⟨id, user, tmpScheme, tmpSecret, state, level, scheme, secret, login, tags, desc, cred⟩ := m
  simp only [encodeSection, decodeBody, creds_decoded]
  change Except.ok _ = Except.ok _ ↔ _
  simp [message, ClientComMessage.mk.injEq, MsgClientAcc.mk.injEq, SectionKept, levelBack,
    descBack, credBack]

theorem set_section_kept_iff {m : MsgClientSet}
    (values : ∀ v ∈ setValues m.toMsgSetQuery, Decoded codec v) :
    decodeBody codec.unmarshal (encodeSection codec.marshal (.set m)) = .ok (message (.set m)) ↔
      SetKept m.toMsgSetQuery := by
  rw [← set_kept_iff values]
  obtain ⟨query, id, topic⟩ := m
  simp only [encodeSection, decodeBody, pbSetQuerySerialize, Option.map_some]
  cases pbSetQueryDeserialize codec.unmarshal _ with
  | none => exact iff_of_false (by rintro ⟨⟩) (by rintro ⟨⟩)
  | some back =>
    change Except.ok _ = Except.ok _ ↔ _
    simp [message]

theorem section_kept_iff (accepted : SectionAccepted codec s) :
    decodeBody codec.unmarshal (encodeSection codec.marshal s) = .ok (message s) ↔ SectionKept s := by
  have ints := accepted.ints
  have values := accepted.values
  cases s with
  | hi m
  | leave m => exact iff_of_true rfl trivial
  | acc m => exact acc_kept_iff values
  | login m =>
    simp only [encodeSection, decodeBody, creds_decoded]
    change Except.ok _ = Except.ok _ ↔ _
    simp only [Except.ok.injEq, message, ClientComMessage.mk.injEq, Option.some.injEq,
      true_and, and_true]
    rw [SectionKept, ← creds_kept_iff values]
    obtain ⟨id, scheme, secret, cred⟩ := m
    simp
  | sub m =>
    obtain ⟨id, topic, set, get⟩ := m
    have setBack :
        pbSetQueryDeserialize codec.unmarshal (pbSetQuerySerialize codec.marshal set) = set ↔
        ∀ q ∈ set, SetKept q := by
      cases set with
      | none => exact iff_of_true rfl (by simp)
      | some q => simpa using set_kept_iff values
    have getBack : pbGetQueryDeserialize (pbGetQuerySerialize get) = get ↔ ∀ q ∈ get, GetKept q := by
      cases get with
      | none => exact iff_of_true rfl (by simp)
      | some q => simpa using get_kept_iff ints
    simp [encodeSection, decodeBody, message, ClientComMessage.mk.injEq, MsgClientSub.mk.injEq,
      SectionKept, setBack, getBack]
  | pub m =>
    have headBack : _ ↔ NoNull m.head :=
      map_kept_iff fun v own => values v (List.mem_cons_of_mem _ own)
    have contentBack : codec.view m.content = m.content := (values m.content List.mem_cons_self).view
    obtain ⟨id, topic, noEcho, head, content⟩ := m
    simp [encodeSection, decodeBody, message, ClientComMessage.mk.injEq, MsgClientPub.mk.injEq,
      SectionKept, Codec.value_decoded, contentBack, headBack]
  | get m =>
    rw [SectionKept, ← get_kept_iff ints]
    obtain ⟨query, id, topic⟩ := m
    obtain ⟨sent, encoded⟩ : ∃ g, pbGetQuerySerialize (some query) = some g := ⟨_, rfl⟩
    have decoded := get_decoded query
    rw [encoded] at decoded
    simp only [encodeSection, encoded, decodeBody, decoded, deref]
    simp [message]
  | set m => exact set_section_kept_iff values
  | del m =>
    have credBack : _ ↔ ∀ c ∈ m.cred, NoNull c.params := cred_kept_iff values
    have whatBack := delWhat_decoded_iff m.what
    have rangesBack := ranges_decoded ints
    obtain ⟨id, topic, what, delSeq, user, cred, hard⟩ := m
    simp [encodeSection, decodeBody, message, ClientComMessage.mk.injEq, Wire.MsgClientDel.mk.injEq,
      SectionKept, rangesBack, credBack, whatBack]
  | note m =>
    have seqBack := (ints m.seqId (by simp [sectionInts])).decoded
    have unreadBack := (ints m.unread (by simp [sectionInts])).decoded
    have whatBack := infoNote_decoded_iff m.what
    have eventBack := callEvent_decoded_iff m.event
    obtain ⟨topic, what, seqId, unread, event, payload⟩ := m
    simp [encodeSection, decodeBody, message, ClientComMessage.mk.injEq, MsgClientNote.mk.injEq,
      SectionKept, seqBack, unreadBack, whatBack, eventBack]

/-- Auxiliary data of a query. -/
def pinned : MsgClientSet :=
  { topic := "grpA", tags := ["travel"], aux := (∅ : GoMap String Any).insert "pin" (.bool true) }

end LastochkaServer.Guarantees.ClientRoundTrip
