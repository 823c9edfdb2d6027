import LastochkaServer.Source.Wire.Deserialize
import LastochkaServer.Source.Wire.Serialize

/-!
# Parts of messages, encoded and decoded

What is left of the parts that client and server messages share once they have been through
`server/pbconverter.go` in both directions.
-/

namespace LastochkaServer.Source.Wire

open Lib

/-- `json.Marshal` and `json.Unmarshal`. A value that came out of JSON is read back from its own
text; other values, such as integers and structures, may come back as other values of the same
JSON. -/
structure Codec where
  marshal : Any → Raw
  unmarshal : Raw → Any
  marshal_ne_nil : ∀ v, marshal v ≠ []
  unmarshal_marshal_null : unmarshal (marshal .null) = .null
  unmarshal_marshal : ∀ raw, unmarshal (marshal (unmarshal raw)) = unmarshal raw

namespace Codec

variable (codec : Codec)

/-- The JSON value of a Go value. -/
def view (v : Any) : Any := codec.unmarshal (codec.marshal v)

@[simp] theorem view_null : codec.view .null = .null := codec.unmarshal_marshal_null

@[simp] theorem view_view (v : Any) : codec.view (codec.view v) = codec.view v :=
  codec.unmarshal_marshal (codec.marshal v)

theorem bytesToInterface_marshal (v : Any) :
    bytesToInterface codec.unmarshal (codec.marshal v) = codec.view v :=
  if_neg (codec.marshal_ne_nil v)

@[simp] theorem value_decoded (v : Any) :
    bytesToInterface codec.unmarshal ((interfaceToBytes codec.marshal v).getD []) = codec.view v := by
  unfold interfaceToBytes
  by_cases nil : v = .null
  · simp [nil, bytesToInterface]
  · rw [if_pos nil]
    exact codec.bytesToInterface_marshal v

theorem map_decoded_entries (values : GoMap String Any) :
    (byteMapToInterfaceMap codec.unmarshal (interfaceMapToByteMap codec.marshal values)).entries =
      (values.entries.map fun e => ⟨e.1, codec.view e.2⟩).filter fun e => e.2 ≠ Any.null := by
  have encoded : interfaceMapToByteMap codec.marshal values =
      GoMap.collect (interfaceToBytes codec.marshal) values := by
    unfold interfaceMapToByteMap GoMap.collect interfaceToBytes
    congr 1
    funext out e
    split <;> rfl
  have decoded (raw : GoMap String Raw) : byteMapToInterfaceMap codec.unmarshal raw =
      GoMap.collect
      (fun text => Option.some (bytesToInterface codec.unmarshal text) |>.filter (· ≠ .null))
        raw := by
    unfold byteMapToInterfaceMap GoMap.collect
    congr 1
    funext out e
    by_cases null : bytesToInterface codec.unmarshal e.2 = .null <;> simp [null, Option.filter]
  rw [encoded, decoded, GoMap.collect_collect_entries, List.filter_map, ← List.filterMap_eq_filter,
    List.map_filterMap]
  refine List.filterMap_congr fun e _ => ?_
  unfold interfaceToBytes
  by_cases nil : e.2 = .null
  · simp [nil, Option.guard]
  · by_cases null : codec.view e.2 = .null
    · simp [nil, null, Option.guard, codec.bytesToInterface_marshal, Option.filter]
    · simp [nil, null, Option.guard, codec.bytesToInterface_marshal, Option.filter]

end Codec

variable {α β : Type} {kept : α → Prop} {x : Option α} {xs : List α} {f : α → α}

/-- A part that may be absent is the same if and only if it is the same when it is there. -/
theorem option_map_congr_iff {f g : α → β}
    (own : ∀ a ∈ x, f a = g a ↔ kept a) : x.map f = x.map g ↔ ∀ a ∈ x, kept a := by
  cases x with
  | none => simp
  | some a => simpa using own a rfl

theorem list_map_congr_iff {f g : α → β}
    (own : ∀ a ∈ xs, f a = g a ↔ kept a) : xs.map f = xs.map g ↔ ∀ a ∈ xs, kept a :=
  List.map_inj_left.trans (forall₂_congr own)

theorem option_map_eq_iff
    (own : ∀ a ∈ x, f a = a ↔ kept a) : x.map f = x ↔ ∀ a ∈ x, kept a := by
  simpa using option_map_congr_iff (g := id) own

theorem list_map_eq_iff
    (own : ∀ a ∈ xs, f a = a ↔ kept a) : xs.map f = xs ↔ ∀ a ∈ xs, kept a := by
  simpa using list_map_congr_iff (g := id) own

/-- An integer within 32 bits. -/
def Fits (n : Int) : Prop := -2 ^ 31 ≤ n ∧ n < 2 ^ 31

theorem Fits.decoded {n : Int} (fits : Fits n) : (Int32.ofInt n).toInt = n :=
  Int32.toInt_ofInt_of_le fits.1 fits.2

def rangeInts (r : MsgRange) : List Int := [r.lowId, r.hiId]

theorem ranges_decoded {ranges : List MsgRange} (fits : ∀ n ∈ ranges.flatMap rangeInts, Fits n) :
    pbDelQueryDeserialize (pbDelQuerySerialize ranges) = ranges := by
  unfold pbDelQueryDeserialize pbDelQuerySerialize
  rw [List.map_map]
  refine (List.map_congr_left fun r mem => ?_).trans (List.map_id ranges)
  have fitting : ∀ n ∈ rangeInts r, Fits n := fun n own => fits n (List.mem_flatMap.mpr ⟨r, mem, own⟩)
  have low := (fitting r.lowId (by simp [rangeInts])).decoded
  have hi := (fitting r.hiId (by simp [rangeInts])).decoded
  simp [low, hi]

theorem timeToInt64_toInt (ts : Int) :
    (timeToInt64 (some ts)).toInt = (Int64.ofInt ts).toInt.tdiv 1000000 :=
  Int64.toInt_div_of_ne_right (Int64.ofInt ts) 1000000 (by decide)

theorem timeToInt64_pos_iff (ts : Int) :
    0 < (timeToInt64 (some ts)).toInt ↔ 1000000 ≤ (Int64.ofInt ts).toInt := by
  rw [timeToInt64_toInt, Int.tdiv_eq_ediv]
  have sign : Int.sign 1000000 = 1 := rfl
  split <;> omega

/-- A time comes back if and only if it is a whole second between 1970 and 2262: the decoder takes
the milliseconds for nanoseconds. -/
theorem time_decoded_iff (ts : Int) :
    int64ToTime (timeToInt64 (some ts)) = some ts ↔ 0 < ts ∧ ts % 1000000000 = 0 ∧ ts < 2 ^ 63 := by
  have sent := timeToInt64_pos_iff ts
  have below := Int64.toInt_lt (Int64.ofInt ts)
  have unwrapped (low : -2 ^ 63 ≤ ts) (high : ts < 2 ^ 63) := Int64.toInt_ofInt_of_le low high
  unfold int64ToTime
  split
  next pos =>
    rw [timeToInt64_toInt, Int.tdiv_eq_ediv_of_nonneg (by omega), Option.some_inj]
    generalize (Int64.ofInt ts).toInt = nanos at *
    -- In range the number of nanoseconds is the time itself, so its milliseconds are zero.
    change nanos / 1000000 / 1000 * 1000000000 + nanos / 1000000 % 1000 = ts ↔ _
    constructor
    · intro back
      omega
    · rintro ⟨after, whole, before⟩
      omega
  next absent =>
    refine iff_of_false (by simp) ?_
    rintro ⟨after, whole, before⟩
    omega

variable (what : String)

theorem infoNote_decoded_iff :
    pbInfoNoteWhatDeserialize (pbInfoNoteWhatSerialize what) = what ↔
      what ∈ ["kp", "read", "recv", "call", ""] := by
  constructor
  · intro back
    rw [← back]
    cases pbInfoNoteWhatSerialize what <;> simp [pbInfoNoteWhatDeserialize]
  · exact (by decide : ∀ name ∈ _, pbInfoNoteWhatDeserialize (pbInfoNoteWhatSerialize name) = name)
      what

theorem callEvent_decoded_iff (event : String) :
    pbCallEventDeserialize (pbCallEventSerialize event) = event ↔
      event ∈ ["accept", "answer", "hang-up", "ice-candidate", "invite", "offer", "ringing", ""] := by
  constructor
  · intro back
    rw [← back]
    cases pbCallEventSerialize event <;> simp [pbCallEventDeserialize]
  · exact (by decide : ∀ name ∈ _, pbCallEventDeserialize (pbCallEventSerialize name) = name) event

theorem delWhat_decoded_iff :
    delWhatText (delWhatSerialize what) = what ↔
      what ∈ ["msg", "topic", "sub", "user", "cred", ""] := by
  constructor
  · intro back
    rw [← back]
    cases delWhatSerialize what <;> simp [delWhatText]
  · exact (by decide : ∀ name ∈ _, delWhatText (delWhatSerialize name) = name) what

theorem presWhat_decoded_iff :
    presWhatText (presWhatSerialize what) = what ↔
      what ∈ ["on", "off", "ua", "upd", "gone", "acs", "term", "msg", "read", "recv", "del", "tags",
        "aux", ""] := by
  constructor
  · intro back
    rw [← back]
    cases presWhatSerialize what <;> simp [presWhatText]
  · exact (by decide : ∀ name ∈ _, presWhatText (presWhatSerialize name) = name) what

/-- The level comes back in capital letters, and `ROOT` as `NONE`. -/
theorem accLevel_decoded_iff (level : String) :
    (accLevelSerialize level).text = level ↔ level ∈ ["NONE", "ANON", "AUTH"] := by
  constructor
  · intro back
    rw [← back]
    unfold accLevelSerialize
    split <;> decide
  · exact (by decide : ∀ name ∈ _, (accLevelSerialize name).text = name) level

theorem defaultAcs_decoded_iff (acs : Option MsgDefaultAcsMode) :
    pbDefaultAcsDeserialize (pbDefaultAcsSerialize acs) = acs ↔ ∀ d ∈ acs, d.auth ≠ "" ∨
      d.anon ≠ "" := by
  cases acs with
  | none => simp [pbDefaultAcsSerialize, pbDefaultAcsDeserialize]
  | some d =>
    by_cases used : d.auth ≠ "" ∨ d.anon ≠ ""
    all_goals simp [pbDefaultAcsSerialize, pbDefaultAcsDeserialize, used]

def setSubDeserialize (sub : Option Pbx.SetSub) : Option MsgSetSub :=
  sub.bind fun s => if s.userId ≠ "" ∨ s.mode ≠ "" then some { user := s.userId, mode := s.mode }
    else none

theorem setSub_decoded_iff (sub : Option MsgSetSub) :
    setSubDeserialize (sub.map fun s => { userId := s.user, mode := s.mode }) = sub ↔
      ∀ s ∈ sub, s.user ≠ "" ∨ s.mode ≠ "" := by
  cases sub with
  | none => simp [setSubDeserialize]
  | some s =>
    by_cases used : s.user ≠ "" ∨ s.mode ≠ ""
    all_goals simp [setSubDeserialize, used]

/-- A query is nil if no part of it is found. -/
theorem pbSetQueryDeserialize_eq (json : Raw → Any) (q : Pbx.SetQuery) :
    pbSetQueryDeserialize json (some q) =
      if q.desc.isSome ∨ (setSubDeserialize q.sub).isSome ∨ q.tags ≠ [] ∨ q.cred.isSome then
        some
          { desc := pbSetDescDeserialize json q.desc
            sub := setSubDeserialize q.sub
            tags := q.tags
            cred := pbClientCredDeserialize json q.cred }
      else none := by
  obtain ⟨desc, sub, tags, cred, aux⟩ := q
  have absent : pbSetDescDeserialize json none = none := rfl
  have noCred : pbClientCredDeserialize json none = none := rfl
  unfold pbSetQueryDeserialize setSubDeserialize
  cases sub with
  | none => cases desc <;> cases tags <;> cases cred <;> simp [absent, noCred]
  | some s =>
    by_cases used : s.userId ≠ "" ∨ s.mode ≠ ""
    all_goals cases desc <;> cases tags <;> cases cred <;> simp [used, absent, noCred]

end LastochkaServer.Source.Wire
