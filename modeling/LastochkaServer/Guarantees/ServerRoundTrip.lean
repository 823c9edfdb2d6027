import LastochkaServer.Lib.Bytes
import LastochkaServer.Source.Wire.RoundTrip

/-!
# Server messages through protocol buffers

`server_round_trip` says which server messages show the same JSON after `pbServSerialize` and
`pbServDeserialize`. Times are compared by whether they are there; the times of `{ctrl}` and
`{data}` are a part of JSON always.
-/

namespace LastochkaServer.Guarantees.ServerRoundTrip

open Lib Lib.Bytes Source Source.Wire

/-- A codec with the text of a `[]byte`, which is its base64 in quotes, or `null` for nil. -/
structure BlobCodec extends Codec where
  blob : Raw → Raw
  blob_nil : unmarshal (blob []) = .null
  blob_ne_nil : ∀ raw, blob raw ≠ []
  unmarshal_blob_ne : ∀ raw, raw ≠ [] → unmarshal (blob raw) ≠ unmarshal raw

variable (codec : BlobCodec)

def shownMap (values : GoMap String Any) : GoMap String Any := GoMap.mapValues codec.view values

omit codec in
/-- A time is only compared by its presence. -/
def shownTime (ts : Option Timestamp) : Option Timestamp := ts.map fun _ => 0

omit codec in
def shownSeen (seen : Option MsgLastSeenInfo) : Option MsgLastSeenInfo :=
  seen.map fun s => { s with seenAt := shownTime s.seenAt }

def shownDesc (d : MsgTopicDesc) : MsgTopicDesc :=
  { d with
    createdAt := shownTime d.createdAt
    updatedAt := shownTime d.updatedAt
    touchedAt := shownTime d.touchedAt
    lastSeen := shownSeen d.lastSeen
    pub := codec.view d.pub
    trusted := codec.view d.trusted
    priv := codec.view d.priv }

def shownSub (s : MsgTopicSub) : MsgTopicSub :=
  { s with
    updatedAt := shownTime s.updatedAt
    deletedAt := shownTime s.deletedAt
    touchedAt := shownTime s.touchedAt
    lastSeen := shownSeen s.lastSeen
    pub := codec.view s.pub
    trusted := codec.view s.trusted
    priv := codec.view s.priv }

/-- The parameters by their fields; parameters that are absent show none. -/
def shownParams (params : Option CtrlParams) : GoMap String Any :=
  match params with
  | some (.fields values) | some (.other values) => shownMap codec values
  | none => ∅

def shownCtrl (m : MsgServerCtrl) : MsgServerCtrl :=
  { m with params := some (.fields (shownParams codec m.params)), timestamp := none }

def shownContent : DataContent → Any
  | .value v => codec.view v
  | .bytes raw => codec.unmarshal (codec.blob raw)

def shownData (m : MsgServerData) : MsgServerData :=
  { m with
    timestamp := none
    deletedAt := shownTime m.deletedAt
    head := shownMap codec m.head
    content := .value (shownContent codec m.content) }

def shownMeta (m : MsgServerMeta) : MsgServerMeta :=
  { m with
    timestamp := shownTime m.timestamp
    desc := m.desc.map (shownDesc codec)
    sub := m.sub.map (shownSub codec)
    aux := shownMap codec m.aux }

def shown (m : ServerComMessage) : ServerComMessage :=
  { m with
    ctrl := m.ctrl.map (shownCtrl codec)
    data := m.data.map (shownData codec)
    metaMsg := m.metaMsg.map (shownMeta codec) }

/-- The message as it comes out of the packet made of it. -/
def roundTrip (m : ServerComMessage) : Exec ServerComMessage :=
  pbServDeserialize codec.unmarshal (some (pbServSerialize codec.marshal codec.blob m))

omit codec in
def descInts (d : MsgTopicDesc) : List Int := [d.seqId, d.readSeqId, d.recvSeqId, d.delId, d.subCnt]

omit codec in
def subInts (s : MsgTopicSub) : List Int := [s.readSeqId, s.recvSeqId, s.seqId, s.delId, s.subCnt]

/-- The time in nanoseconds, a 64-bit number, is at least a millisecond after 1970. -/
def Timed (ts : Timestamp) : Prop := 1000000 ≤ (Int64.ofInt ts).toInt

def AllTimed (ts : Option Timestamp) : Prop := ∀ t ∈ ts, Timed t

/-- No value is null in JSON. -/
def NoNull (values : GoMap String Any) : Prop := ∀ e ∈ values.entries, codec.view e.2 ≠ .null

/-- The access mode names no cumulative mode. -/
def Modeless (acs : Wire.MsgAccessMode) : Prop := acs.mode = ""

def SeenKept (seen : Option MsgLastSeenInfo) : Prop := ∀ s ∈ seen, ∃ t, s.seenAt = some t ∧ Timed t

structure DescKept (d : MsgTopicDesc) : Prop where
  times : AllTimed d.createdAt ∧ AllTimed d.updatedAt ∧ AllTimed d.touchedAt
  lastSeen : SeenKept d.lastSeen
  defaultAcs : ∀ a ∈ d.defaultAcs, a.auth ≠ "" ∨ a.anon ≠ ""
  acs : ∀ a ∈ d.acs, Modeless a
  subCnt : d.subCnt = 0

structure SubKept (s : MsgTopicSub) : Prop where
  times : AllTimed s.updatedAt ∧ AllTimed s.deletedAt ∧ AllTimed s.touchedAt
  lastSeen : SeenKept s.lastSeen
  acs : Modeless s.acs
  subCnt : s.subCnt = 0

def ParamsKept : Option CtrlParams → Prop
  | none => True
  | some (.fields values) => NoNull codec values
  | some (.other values) => values = ∅

structure DataKept (m : MsgServerData) : Prop where
  deletedAt : AllTimed m.deletedAt
  head : NoNull codec m.head
  content : m.content = .value .null

structure MetaKept (m : MsgServerMeta) : Prop where
  timestamp : m.timestamp = none
  desc : ∀ d ∈ m.desc, DescKept d
  sub : ∀ s ∈ m.sub, SubKept s
  cred : ∀ c ∈ m.cred, c.done = false
  aux : NoNull codec m.aux

structure PresKept (m : MsgServerPres) : Prop where
  what : m.what ∈
    ["on", "off", "ua", "upd", "gone", "acs", "term", "msg", "read", "recv", "del", "tags", "aux", ""]
  acs : ∀ a ∈ m.acs, Modeless a

def InfoKept (m : MsgServerInfo) : Prop :=
  m.what ∈ ["kp", "read", "recv", "call", ""] ∧
    m.event ∈ ["accept", "answer", "hang-up", "ice-candidate", "invite", "offer", "ringing", ""]

inductive ServerSection
  | ctrl (m : MsgServerCtrl)
  | data (m : MsgServerData)
  | pres (m : MsgServerPres)
  | info (m : MsgServerInfo)
  | metaMsg (m : MsgServerMeta)

/-- The sections of a message, in the order of the switch of `pbServSerialize`. -/
def sections (m : ServerComMessage) : List ServerSection :=
  (m.ctrl.map .ctrl).toList ++ (m.data.map .data).toList ++ (m.pres.map .pres).toList ++
    (m.info.map .info).toList ++ (m.metaMsg.map .metaMsg).toList

/-- The message that has only the section. -/
def message : ServerSection → ServerComMessage
  | .ctrl m => { ctrl := some m }
  | .data m => { data := some m }
  | .pres m => { pres := some m }
  | .info m => { info := some m }
  | .metaMsg m => { metaMsg := some m }

/-- The integers of a section. -/
def sectionInts : ServerSection → List Int
  | .ctrl m => [m.code]
  | .data m => [m.seqId]
  | .pres m => m.seqId :: m.delId :: m.delSeq.flatMap rangeInts
  | .info m => [m.seqId]
  | .metaMsg m =>
    m.desc.elim [] descInts ++ m.sub.flatMap subInts ++
      m.del.elim [] fun del => del.delId :: del.delSeq.flatMap rangeInts

/-- The integers of the message are within 32 bits. -/
def Small (m : ServerComMessage) : Prop := ∀ s ∈ sections m, ∀ n ∈ sectionInts s, Fits n

def shownSection : ServerSection → ServerSection
  | .ctrl m => .ctrl (shownCtrl codec m)
  | .data m => .data (shownData codec m)
  | .pres m => .pres m
  | .info m => .info m
  | .metaMsg m => .metaMsg (shownMeta codec m)

def SectionKept : ServerSection → Prop
  | .ctrl m => ParamsKept codec m.params
  | .data m => DataKept codec m
  | .pres m => PresKept m
  | .info m => InfoKept m
  | .metaMsg m => MetaKept codec m

/-- The message has one section at most, and JSON shows nothing of it that is lost. -/
structure Kept (m : ServerComMessage) : Prop where
  single : (sections m).length ≤ 1
  whole : ∀ s ∈ sections m, SectionKept codec s

theorem sections_message (s : ServerSection) : sections (message s) = [s] := by
  cases s <;> rfl

theorem sections_shown (m : ServerComMessage) :
    sections (shown codec m) = (sections m).map (shownSection codec) := by
  obtain ⟨ctrl, data, pres, info, metaMsg⟩ := m
  cases ctrl <;> cases data <;> cases pres <;> cases info <;> cases metaMsg <;> rfl

theorem shown_message (s : ServerSection) :
    shown codec (message s) = message (shownSection codec s) := by
  cases s <;> rfl

variable {m : ServerComMessage}

omit codec in
theorem eq_message {s : ServerSection} (one : sections m = [s]) : m = message s := by
  obtain ⟨ctrl, data, pres, info, metaMsg⟩ := m
  cases ctrl with
  | some _ => simp [sections] at one; simp [← one.1, one.2, message]
  | none =>
  cases data with
  | some _ => simp [sections] at one; simp [← one.1, one.2, message]
  | none =>
  cases pres with
  | some _ => simp [sections] at one; simp [← one.1, one.2, message]
  | none =>
  cases info with
  | some _ => simp [sections] at one; simp [← one.1, one.2, message]
  | none =>
  cases metaMsg with
  | some _ => simp [sections] at one; simp [← one, message]
  | none => simp [sections] at one

omit codec in
theorem eq_empty (none_ : sections m = []) : m = {} := by
  obtain ⟨ctrl, data, pres, info, metaMsg⟩ := m
  simp [sections] at none_
  simp [none_]

def mapDecoded (values : GoMap String Any) : GoMap String Any :=
  byteMapToInterfaceMap codec.unmarshal (interfaceMapToByteMap codec.marshal values)

omit codec in
def intDecoded (n : Int) : Int := (Int32.ofInt n).toInt

omit codec in
def timeDecoded (ts : Option Timestamp) : Option Timestamp := int64ToTime (timeToInt64 ts)

omit codec in
def acsDecoded (acs : Wire.MsgAccessMode) : Wire.MsgAccessMode :=
  { want := acs.want, given := acs.given }

omit codec in
def seenDecoded (seen : Option MsgLastSeenInfo) : Option MsgLastSeenInfo :=
  lastSeenOf (timeToInt64 (seen.bind (·.seenAt))) (seen.elim "" (·.userAgent))

omit codec in
def rangesDecoded (ranges : List MsgRange) : List MsgRange :=
  pbDelQueryDeserialize (pbDelQuerySerialize ranges)

def descDecoded (d : MsgTopicDesc) : MsgTopicDesc :=
  { createdAt := timeDecoded d.createdAt
    updatedAt := timeDecoded d.updatedAt
    touchedAt := timeDecoded d.touchedAt
    state := d.state
    online := d.online
    isChan := d.isChan
    defaultAcs := pbDefaultAcsDeserialize (pbDefaultAcsSerialize d.defaultAcs)
    acs := d.acs.map acsDecoded
    seqId := intDecoded d.seqId
    readSeqId := intDecoded d.readSeqId
    recvSeqId := intDecoded d.recvSeqId
    delId := intDecoded d.delId
    pub := codec.view d.pub
    trusted := codec.view d.trusted
    priv := codec.view d.priv
    lastSeen := seenDecoded d.lastSeen }

def subDecoded (s : MsgTopicSub) : MsgTopicSub :=
  { updatedAt := timeDecoded s.updatedAt
    deletedAt := timeDecoded s.deletedAt
    online := s.online
    acs := acsDecoded s.acs
    readSeqId := intDecoded s.readSeqId
    recvSeqId := intDecoded s.recvSeqId
    pub := codec.view s.pub
    trusted := codec.view s.trusted
    priv := codec.view s.priv
    user := s.user
    topic := s.topic
    touchedAt := timeDecoded s.touchedAt
    seqId := intDecoded s.seqId
    delId := intDecoded s.delId
    lastSeen := seenDecoded s.lastSeen }

omit codec in
/-- The parameters that are sent. -/
def paramsSent : Option CtrlParams → GoMap String Any
  | some (.fields values) => values
  | some (.other _) | none => ∅

def sectionDecoded : ServerSection → ServerSection
  | .ctrl m => .ctrl
      { id := m.id, topic := m.topic, code := intDecoded m.code, text := m.text
        params := some (.fields (mapDecoded codec (paramsSent m.params))) }
  | .data m => .data
      { topic := m.topic, sender := m.sender,
        timestamp := timeDecoded (some (m.timestamp.getD zeroTime))
        deletedAt := timeDecoded m.deletedAt, seqId := intDecoded m.seqId, head :=
  mapDecoded codec m.head
        content := .bytes (contentToBytes codec.marshal codec.blob m.content) }
  | .pres m => .pres
      { m with
        what := presWhatText (presWhatSerialize m.what), seqId := intDecoded m.seqId
        delId := intDecoded m.delId, delSeq := rangesDecoded m.delSeq, acs := m.acs.map acsDecoded }
  | .info m => .info
      { m with
        what := pbInfoNoteWhatDeserialize (pbInfoNoteWhatSerialize m.what), seqId :=
  intDecoded m.seqId
        event := pbCallEventDeserialize (pbCallEventSerialize m.event) }
  | .metaMsg m => .metaMsg
      { id := m.id, topic := m.topic, desc := m.desc.map (descDecoded codec),
        sub := m.sub.map (subDecoded codec)
        del := m.del.map fun d => { delId := intDecoded d.delId, delSeq := rangesDecoded d.delSeq }
        tags := m.tags, cred := m.cred.map fun c => { c with done := false }, aux :=
  mapDecoded codec m.aux }

theorem subs_decoded (subs : List MsgTopicSub) :
    pbTopicSubSliceDeserialize codec.unmarshal (pbTopicSubSliceSerialize codec.marshal subs) =
      .ok (subs.map (subDecoded codec)) := by
  have one (s : MsgTopicSub) :
      pbTopicSubDeserialize codec.unmarshal (pbTopicSubSerialize codec.marshal s) =
      pure (subDecoded codec s) := by
    simp only [pbTopicSubDeserialize, pbTopicSubSerialize, pbAccessModeSerialize,
      pbAccessModeDeserialize, Option.map_some, deref, Codec.value_decoded]
    rfl
  unfold pbTopicSubSliceDeserialize pbTopicSubSliceSerialize
  rw [List.mapM_map]
  exact (congrArg (List.mapM · subs) (funext one)).trans List.mapM_pure

theorem roundTrip_eq (m : ServerComMessage) :
    roundTrip codec m =
      .ok (((sections m).head?.map fun s => message (sectionDecoded codec s)).getD {}) := by
  obtain ⟨ctrl, data, pres, info, metaMsg⟩ := m
  cases ctrl with
  | some ctrl =>
    obtain ⟨id, topic, params, code, text, timestamp⟩ := ctrl
    rcases params with _ | params | params <;> rfl
  | none =>
  cases data with
  | some data => rfl
  | none =>
  cases pres with
  | some pres =>
    obtain ⟨topic, src, what, userAgent, seqId, delId, delSeq, target, actor, acs⟩ := pres
    cases acs <;> rfl
  | none =>
  cases info with
  | some info => rfl
  | none =>
  cases metaMsg with
  | some m =>
    have desc : pbTopicDescDeserialize codec.unmarshal (pbTopicDescSerialize codec.marshal m.desc) =
        m.desc.map (descDecoded codec) := by
      cases m.desc with
      | none => rfl
      | some d =>
        obtain ⟨_, _, _, _, _, _, _, _, acs, _⟩ := d
        simp only [pbTopicDescDeserialize, pbTopicDescSerialize, Option.map_some, Codec.value_decoded]
        cases acs <;> rfl
    have del : pbDelValuesDeserialize (pbDelValuesSerialize m.del) =
        m.del.map fun d => { delId := intDecoded d.delId, delSeq := rangesDecoded d.delSeq } := by
      cases m.del <;> rfl
    have cred : pbServerCredsDeserialize (pbServerCredsSerialize m.cred) =
        m.cred.map fun c => { c with done := false } := by
      simp [pbServerCredsDeserialize, pbServerCredsSerialize]
    unfold roundTrip pbServSerialize pbServDeserialize
    simp only [Option.getD_some, pbServMetaSerialize, subs_decoded, desc, del, cred]
    rfl
  | none => rfl

section

variable {codec}

theorem map_kept_iff {values : GoMap String Any} :
    shownMap codec (mapDecoded codec values) = shownMap codec values ↔ NoNull codec values := by
  have entries := codec.map_decoded_entries values
  have fixed :
      ∀ e ∈ (values.entries.map fun e => (⟨e.1, codec.view e.2⟩ : Sigma fun _ : String => Any)).filter
      (fun e => e.2 ≠ Any.null), (⟨e.1, codec.view e.2⟩ : Sigma fun _ : String => Any) = e := by
    intro e mem
    obtain ⟨e', -, rfl⟩ := List.mem_map.mp (List.mem_filter.mp mem).1
    simp
  rw [AList.ext_iff]
  simp only [shownMap, GoMap.mapValues, mapDecoded]
  rw [entries, (List.map_congr_left fixed).trans (List.map_id _), List.filter_eq_self,
    List.forall_mem_map]
  simp [NoNull]

omit codec in
theorem time_kept_iff {ts : Option Timestamp} :
    shownTime (timeDecoded ts) = shownTime ts ↔ AllTimed ts := by
  cases ts with
  | none => exact iff_of_true rfl (by simp [AllTimed])
  | some t =>
    have sent := timeToInt64_pos_iff t
    unfold timeDecoded int64ToTime
    by_cases pos : 0 < (timeToInt64 (some t)).toInt
    · rw [if_pos pos]
      exact iff_of_true rfl (by simpa [AllTimed, Timed] using sent.mp pos)
    · rw [if_neg pos]
      refine iff_of_false (by simp [shownTime]) fun timed => pos (sent.mpr ?_)
      exact timed t rfl

omit codec in
theorem seen_kept_iff {seen : Option MsgLastSeenInfo} :
    shownSeen (seenDecoded seen) = shownSeen seen ↔ SeenKept seen := by
  cases seen with
  | none => exact iff_of_true rfl (by simp [SeenKept])
  | some s =>
    obtain ⟨seenAt, userAgent⟩ := s
    cases seenAt with
    | none =>
      exact iff_of_false (by simp [shownSeen, seenDecoded, lastSeenOf, timeToInt64])
        (by simp [SeenKept])
    | some t =>
      have sent := timeToInt64_pos_iff t
      have timed : SeenKept (some ⟨some t, userAgent⟩) ↔ Timed t := by simp [SeenKept]
      by_cases pos : 0 < (timeToInt64 (some t)).toInt
      · refine iff_of_true ?_ (timed.mpr (sent.mp pos))
        simp [shownSeen, seenDecoded, lastSeenOf, pos, int64ToTime, shownTime]
      · refine iff_of_false ?_ fun kept => pos (sent.mpr (timed.mp kept))
        simp [shownSeen, seenDecoded, lastSeenOf, pos]

omit codec in
theorem acs_kept_iff {acs : Wire.MsgAccessMode} : acsDecoded acs = acs ↔ Modeless acs := by
  obtain ⟨want, given, mode⟩ := acs
  simp [acsDecoded, Modeless, eq_comm]

omit codec in
theorem optionAcs_kept_iff {acs : Option Wire.MsgAccessMode} :
    acs.map acsDecoded = acs ↔ ∀ a ∈ acs, Modeless a :=
  option_map_eq_iff fun _ _ => acs_kept_iff

theorem desc_kept_iff {d : MsgTopicDesc} (fits : ∀ n ∈ descInts d, Fits n) :
    shownDesc codec (descDecoded codec d) = shownDesc codec d ↔ DescKept d := by
  have ints : ∀ n ∈ descInts d, intDecoded n = n := fun n mem => (fits n mem).decoded
  simp only [descInts, List.forall_mem_cons] at ints
  obtain ⟨seqBack, readBack, recvBack, delBack, -⟩ := ints
  simp only [shownDesc, descDecoded, MsgTopicDesc.mk.injEq, seqBack, readBack, recvBack, delBack,
    Codec.view_view, time_kept_iff, seen_kept_iff, optionAcs_kept_iff, defaultAcs_decoded_iff,
    true_and, and_true]
  constructor
  · rintro ⟨created, updated, touched, seen, defaults, acs, count⟩
    exact ⟨⟨created, updated, touched⟩, seen, defaults, acs, count.symm⟩
  · rintro ⟨⟨created, updated, touched⟩, seen, defaults, acs, count⟩
    exact ⟨created, updated, touched, seen, defaults, acs, count.symm⟩

theorem sub_kept_iff {s : MsgTopicSub} (fits : ∀ n ∈ subInts s, Fits n) :
    shownSub codec (subDecoded codec s) = shownSub codec s ↔ SubKept s := by
  have ints : ∀ n ∈ subInts s, intDecoded n = n := fun n mem => (fits n mem).decoded
  simp only [subInts, List.forall_mem_cons] at ints
  obtain ⟨readBack, recvBack, seqBack, delBack, -⟩ := ints
  simp only [shownSub, subDecoded, MsgTopicSub.mk.injEq, seqBack, readBack, recvBack, delBack,
    Codec.view_view, time_kept_iff, seen_kept_iff, acs_kept_iff, true_and]
  constructor
  · rintro ⟨updated, deleted, acs, touched, count, seen⟩
    exact ⟨⟨updated, deleted, touched⟩, seen, acs, count.symm⟩
  · rintro ⟨⟨updated, deleted, touched⟩, seen, acs, count⟩
    exact ⟨updated, deleted, acs, touched, count.symm, seen⟩

/-- Content comes back as its text, so only absent content is the same. -/
theorem content_kept_iff {content : DataContent} :
    shownContent codec (.bytes (contentToBytes codec.marshal codec.blob content)) =
      shownContent codec content ↔
      content = .value .null := by
  cases content with
  | value v =>
    by_cases nil : v = .null
    · subst nil
      refine iff_of_true ?_ rfl
      simp [shownContent, contentToBytes, interfaceToBytes, codec.blob_nil]
    · refine iff_of_false ?_ (by simpa using nil)
      have text : contentToBytes codec.marshal codec.blob (.value v) = codec.marshal v := by
        simp [contentToBytes, interfaceToBytes, nil]
      rw [text]
      exact codec.unmarshal_blob_ne _ (codec.marshal_ne_nil v)
  | bytes raw =>
    refine iff_of_false ?_ (by simp)
    exact codec.unmarshal_blob_ne _ (codec.blob_ne_nil raw)

theorem params_kept_iff {params : Option CtrlParams} :
    shownMap codec (mapDecoded codec (paramsSent params)) = shownParams codec params ↔
      ParamsKept codec params := by
  rcases params with _ | values | values
  · exact iff_of_true rfl trivial
  · exact map_kept_iff
  · have sent : shownMap codec (mapDecoded codec (paramsSent (some (.other values)))) = ∅ := rfl
    rw [sent, AList.ext_iff]
    simp only [shownParams, shownMap, GoMap.mapValues, ParamsKept, AList.ext_iff, AList.empty_entries]
    rw [eq_comm, List.map_eq_nil_iff]

theorem meta_kept_iff {m : MsgServerMeta} (fits : ∀ n ∈ sectionInts (.metaMsg m), Fits n) :
    shownSection codec (sectionDecoded codec (.metaMsg m)) = shownSection codec (.metaMsg m) ↔
      MetaKept codec m := by
  obtain ⟨id, topic, timestamp, desc, sub, del, tags, cred, aux⟩ := m
  simp only [sectionInts, List.mem_append] at fits
  have descBack : (desc.map (descDecoded codec)).map (shownDesc codec) = desc.map (shownDesc codec) ↔
      ∀ d ∈ desc, DescKept d := by
    rw [Option.map_map]
    refine option_map_congr_iff fun d given => desc_kept_iff fun n own => fits n (Or.inl (Or.inl ?_))
    rw [Option.mem_def.mp given]
    exact own
  have subBack : (sub.map (subDecoded codec)).map (shownSub codec) = sub.map (shownSub codec) ↔
      ∀ s ∈ sub, SubKept s := by
    rw [List.map_map]
    refine list_map_congr_iff fun s given => sub_kept_iff fun n own => fits n (Or.inl (Or.inr ?_))
    exact List.mem_flatMap.mpr ⟨s, given, own⟩
  have delBack :
      (del.map fun d => { delId := intDecoded d.delId, delSeq := rangesDecoded d.delSeq }) = del := by
    cases del with
    | none => rfl
    | some d =>
      have delIdBack : intDecoded d.delId = d.delId := (fits _ (Or.inr List.mem_cons_self)).decoded
      have delSeqBack : rangesDecoded d.delSeq = d.delSeq :=
        ranges_decoded fun n own => fits n (Or.inr (List.mem_cons_of_mem _ own))
      rw [Option.map_some, delIdBack, delSeqBack]
  have credBack : (cred.map fun c => { c with done := false }) = cred ↔ ∀ c ∈ cred, c.done = false :=
    list_map_eq_iff fun c _ => by
      obtain ⟨method, value, done⟩ := c
      simp [eq_comm]
  have timeBack : shownTime none = shownTime timestamp ↔ timestamp = none := by
    cases timestamp <;> simp [shownTime]
  simp only [sectionDecoded, shownSection, shownMeta, ServerSection.metaMsg.injEq,
    MsgServerMeta.mk.injEq, descBack, subBack, delBack, credBack, timeBack, map_kept_iff, true_and]
  constructor
  all_goals
    rintro ⟨time, descKept, subKept, credKept, auxKept⟩
    exact ⟨time, descKept, subKept, credKept, auxKept⟩

theorem section_kept_iff {s : ServerSection} (fits : ∀ n ∈ sectionInts s, Fits n) :
    shownSection codec (sectionDecoded codec s) = shownSection codec s ↔ SectionKept codec s := by
  cases s with
  | ctrl m =>
    have codeBack : intDecoded m.code = m.code := (fits m.code List.mem_cons_self).decoded
    have paramsBack : _ ↔ ParamsKept codec m.params := params_kept_iff
    obtain ⟨id, topic, params, code, text, timestamp⟩ := m
    simp only [sectionDecoded, shownSection, shownCtrl, shownParams, ServerSection.ctrl.injEq,
      MsgServerCtrl.mk.injEq, Option.some.injEq, CtrlParams.fields.injEq, codeBack,
      true_and, and_true]
    exact paramsBack
  | data m =>
    have seqBack : intDecoded m.seqId = m.seqId := (fits m.seqId List.mem_cons_self).decoded
    obtain ⟨topic, sender, timestamp, deletedAt, seqId, head, content⟩ := m
    simp only [sectionDecoded, shownSection, shownData, ServerSection.data.injEq,
      MsgServerData.mk.injEq,
      DataContent.value.injEq, seqBack, time_kept_iff, map_kept_iff, content_kept_iff, true_and]
    constructor
    all_goals
      rintro ⟨deleted, headKept, contentKept⟩
      exact ⟨deleted, headKept, contentKept⟩
  | pres m =>
    have seqBack : intDecoded m.seqId = m.seqId := (fits m.seqId List.mem_cons_self).decoded
    have delBack : intDecoded m.delId = m.delId :=
      (fits m.delId (List.mem_cons_of_mem _ List.mem_cons_self)).decoded
    have rangesBack : rangesDecoded m.delSeq = m.delSeq :=
      ranges_decoded fun n own => fits n (List.mem_cons_of_mem _ (List.mem_cons_of_mem _ own))
    have whatBack := presWhat_decoded_iff m.what
    obtain ⟨topic, src, what, userAgent, seqId, delId, delSeq, target, actor, acs⟩ := m
    simp only [sectionDecoded, shownSection, ServerSection.pres.injEq, MsgServerPres.mk.injEq,
      seqBack, delBack, rangesBack, whatBack, optionAcs_kept_iff, true_and]
    constructor
    all_goals
      rintro ⟨known, modeless⟩
      exact ⟨known, modeless⟩
  | info m =>
    have seqBack : intDecoded m.seqId = m.seqId := (fits m.seqId List.mem_cons_self).decoded
    have whatBack := infoNote_decoded_iff m.what
    have eventBack := callEvent_decoded_iff m.event
    obtain ⟨topic, src, sender, what, seqId, event, payload⟩ := m
    simp [sectionDecoded, shownSection, ServerSection.info.injEq, MsgServerInfo.mk.injEq, seqBack,
      whatBack, eventBack, SectionKept, InfoKept]
  | metaMsg m => exact meta_kept_iff fits

end

/-- JSON shows the same of a server message before and after it has been a packet if and only if the
message is `Kept`. -/
theorem server_round_trip (codec : BlobCodec) (m : ServerComMessage) (small : Small m) :
    (∃ m', roundTrip codec m = .ok m' ∧ shown codec m' = shown codec m) ↔ Kept codec m := by
  rw [roundTrip_eq]
  cases present : sections m with
  | nil =>
    rw [eq_empty present]
    exact iff_of_true ⟨_, rfl, rfl⟩ ⟨by simp [sections], by simp [sections]⟩
  | cons s rest =>
    have own : _ ↔ SectionKept codec s :=
      section_kept_iff (small s (by rw [present]; exact List.mem_cons_self))
    constructor
    · rintro ⟨m', back, same⟩
      cases back
      have lists := congrArg sections same
      rw [List.head?_cons, Option.map_some, Option.getD_some, shown_message, sections_message,
        sections_shown, present, List.map_cons] at lists
      obtain ⟨first, alone⟩ := List.cons.inj lists
      have alone : rest = [] := List.map_eq_nil_iff.mp alone.symm
      rw [alone] at present
      refine ⟨by rw [present]; exact le_rfl, fun t member => ?_⟩
      rw [present, List.mem_singleton] at member
      rw [member]
      exact own.mp first
    · intro kept
      have alone : rest = [] := by
        have single := kept.single
        rw [present, List.length_cons] at single
        exact List.length_eq_zero_iff.mp (by omega)
      rw [alone] at present
      have same := own.mpr (kept.whole s (by rw [present]; exact List.mem_singleton_self s))
      refine ⟨_, rfl, ?_⟩
      rw [List.head?_cons, Option.map_some, Option.getD_some, shown_message, same,
        eq_message present, shown_message]

/-- A JSON string, one byte a character. -/
def quoted (text : List UInt8) : Raw := 34 :: text ++ [34]

def latin (b : UInt8) : Char := Char.ofNat b.toNat

theorem latin_toNat (b : UInt8) : UInt8.ofNat (latin b).toNat = b := by
  have valid : b.toNat.isValidChar := Or.inl (by have := b.toNat_lt; omega)
  rw [latin, Char.ofNat, dif_pos valid]
  exact UInt8.ofNat_toNat

def textOf : Any → Raw
  | .str s => quoted (s.toList.map fun c => UInt8.ofNat c.toNat)
  | _ => [110, 117, 108, 108]

def valueOf : Raw → Any
  | 34 :: rest =>
    if rest.getLast? = some 34 then .str (String.ofList (rest.dropLast.map latin)) else .null
  | _ => .null

theorem valueOf_quoted (text : List UInt8) :
    valueOf (quoted text) = .str (String.ofList (text.map latin)) := by
  simp [valueOf, quoted]

theorem valueOf_cases (raw : Raw) : valueOf raw = .null ∨ ∃ text, raw = quoted text := by
  unfold valueOf
  split
  next rest =>
    by_cases closed : rest.getLast? = some 34
    · exact Or.inr
        ⟨rest.dropLast, by rw [quoted, List.cons_append, List.dropLast_append_getLast? 34 closed]⟩
    · exact Or.inl (if_neg closed)
  · exact Or.inl rfl

/-- Strings of one-byte characters, other texts being malformed. -/
def strings : BlobCodec where
  marshal := textOf
  unmarshal := valueOf
  marshal_ne_nil v := by
    unfold textOf
    split <;> simp [quoted]
  unmarshal_marshal_null := rfl
  unmarshal_marshal raw := by
    rcases valueOf_cases raw with null | ⟨text, rfl⟩
    · rw [null]
      rfl
    · have back : (text.map latin).map (fun c => UInt8.ofNat c.toNat) = text := by
        rw [List.map_map]
        exact (List.map_congr_left fun b _ => latin_toNat b).trans (List.map_id text)
      rw [valueOf_quoted, textOf, String.toList_ofList, back, valueOf_quoted]
  blob raw := if raw = [] then [110, 117, 108, 108]
    else quoted ((base64 raw).map fun c => UInt8.ofNat c.toNat)
  blob_nil := rfl
  blob_ne_nil raw := by
    split <;> simp [quoted]
  unmarshal_blob_ne raw given := by
    rw [if_neg given, valueOf_quoted]
    rcases valueOf_cases raw with null | ⟨text, rfl⟩
    · rw [null]
      simp
    · -- The base64 of a text is longer than the text.
      intro same
      rw [valueOf_quoted] at same
      have lengths := congrArg List.length (String.ofList_injective (Any.str.inj same))
      simp only [List.length_map, base64_length, quoted, List.length_cons,
        List.length_append] at lengths
      omega

/-- A presence notification is carried over. -/
theorem presence_carried :
    ∃ m', roundTrip strings
      { pres := some { topic := "me", src := "grpA", what := "on", seqId := 5 } } = .ok m' ∧
      shown strings m' =
        shown strings { pres := some { topic := "me", src := "grpA", what := "on", seqId := 5 } } :=
  (server_round_trip strings
    { pres := some { topic := "me", src := "grpA", what := "on", seqId := 5 } }
    (by simp [Small, sections, sectionInts, Fits])).mpr
    ⟨by simp [sections], by
      simp only [sections, Option.map_none, Option.map_some, Option.toList_none, Option.toList_some,
        List.nil_append, List.append_nil, List.mem_singleton, forall_eq]
      exact ⟨by decide, by simp⟩⟩

/-- The content of a message comes back in base64, and a validated credential as one that is not. -/
theorem content_and_validation_lost :
    (¬ ∃ m', roundTrip strings
        { data := some { topic := "grpA", seqId := 1, content := .value (.str "hi") } } = .ok m' ∧
      shown strings m' =
        shown strings
          { data := some { topic := "grpA", seqId := 1, content := .value (.str "hi") } }) ∧
    ¬ ∃ m', roundTrip strings
          { metaMsg := some
              { topic := "me", cred := [{ method := "email", value := "a@b.c", done := true }] } } =
        .ok m' ∧
      shown strings m' = shown strings
        { metaMsg := some
            { topic := "me", cred := [{ method := "email", value := "a@b.c", done := true }] } } := by
  constructor
  · rintro ⟨m', back, same⟩
    cases back
    have content :=
      DataContent.value.inj (Option.some.inj (congrArg (fun m => m.data.map (·.content)) same))
    have lost : DataContent.value (.str "hi") = .value .null := content_kept_iff.mp content
    cases lost
  · rintro ⟨m', back, same⟩
    cases back
    have done := congrArg (fun m => m.metaMsg.map (·.cred.map (·.done))) same
    exact absurd done (by decide)

/-- Milliseconds become a time and milliseconds again, and a time comes back from the milliseconds
that are sent, just for whole seconds of which the nanoseconds fit into 64 bits. -/
theorem times_back_iff (ms : Int64) (positive : 0 < ms.toInt) (ts : Timestamp) :
    (timeToInt64 (int64ToTime ms) = ms ↔ ms.toInt % 1000 = 0 ∧ ms.toInt * 1000000 < 2 ^ 63) ∧
      (int64ToTime (timeToInt64 (some ts)) = some ts ↔ 0 < ts ∧ ts % 1000000000 = 0 ∧
        ts < 2 ^ 63) := by
  refine ⟨?_, time_decoded_iff ts⟩
  rw [int64ToTime, if_pos positive, ← Int64.toInt_inj, timeToInt64_toInt]
  generalize ms.toInt = n at *
  have below := Int64.toInt_lt (Int64.ofInt (n / 1000 * 1000000000 + n % 1000))
  by_cases fits : n / 1000 * 1000000000 + n % 1000 < 2 ^ 63
  · rw [Int64.toInt_ofInt_of_le (by omega) fits, Int.tdiv_eq_ediv_of_nonneg (by omega)]
    omega
  · -- What is left of the nanoseconds is fewer milliseconds than there were.
    generalize (Int64.ofInt (n / 1000 * 1000000000 + n % 1000)).toInt = nanos at *
    rw [Int.tdiv_eq_ediv]
    have sign : Int.sign 1000000 = 1 := rfl
    split <;> omega

theorem two_seconds_back : timeToInt64 (int64ToTime 2000) = 2000 :=
  (times_back_iff 2000 (by decide) 0).1.mpr (by decide)

/-- Half a second is lost, and becomes five hundred nanoseconds. -/
theorem half_second_lost : timeToInt64 (int64ToTime 1500) = 1000 ∧
    int64ToTime (timeToInt64 (some 1500000000)) = some 1000000500 := by
  decide

end LastochkaServer.Guarantees.ServerRoundTrip
