import LastochkaServer.Source.Wire.Deserialize

/-!
# Decoders that return

`decoders_return_iff` says for which messages of a gRPC client and for which answers of a plug-in
the decoders return, and that for all others they dereference nil, which stops the server.
-/

namespace LastochkaServer.Guarantees.DecoderTotality

open Lib Source Source.Wire

/-- The computation does not panic. -/
def Returns {α : Type} (x : Exec α) : Prop := ∃ a, x = .ok a

section

variable {α β : Type}

theorem returns_ok (a : α) : Returns (.ok a : Exec α) := ⟨a, rfl⟩

theorem returns_map {f : α → β} {x : Exec α} : Returns (f <$> x) ↔ Returns x := by
  cases x with
  | error p => exact iff_of_false (by rintro ⟨_, h⟩; cases h) (by rintro ⟨_, h⟩; cases h)
  | ok a => exact iff_of_true ⟨f a, rfl⟩ ⟨a, rfl⟩

theorem returns_bind {x : Exec α} {f : α → Exec β} (total : ∀ a, Returns (f a)) :
    Returns (x >>= f) ↔ Returns x := by
  cases x with
  | error p => exact iff_of_false (by rintro ⟨_, h⟩; cases h) (by rintro ⟨_, h⟩; cases h)
  | ok a => exact iff_of_true (total a) ⟨a, rfl⟩

theorem returns_deref {p : Option α} : Returns (deref p) ↔ p.isSome := by
  cases p with
  | none => exact iff_of_false (by rintro ⟨_, h⟩; cases h) (by simp)
  | some a => exact iff_of_true ⟨a, rfl⟩ rfl

theorem returns_mapM {f : α → Exec β} {xs : List α} :
    Returns (xs.mapM f) ↔ ∀ x ∈ xs, Returns (f x) := by
  induction xs with
  | nil => exact iff_of_true ⟨[], rfl⟩ (by simp)
  | cons x xs ih =>
    rw [List.mapM_cons, List.forall_mem_cons, ← ih]
    cases head : f x with
    | error p => exact iff_of_false (by rintro ⟨_, h⟩; cases h) (by rintro ⟨⟨_, h⟩, -⟩; cases h)
    | ok b =>
      refine Iff.trans ?_ (and_iff_right (returns_ok b)).symm
      exact returns_bind fun bs => returns_ok (b :: bs)

end

variable {json : Raw → Any}

/-- No part of the query is used. -/
def Blank (q : Pbx.SetQuery) : Prop :=
  q.desc = none ∧ (∀ sub ∈ q.sub, sub.userId = "" ∧ sub.mode = "") ∧ q.tags = [] ∧ q.cred = none

theorem pbSetQueryDeserialize_isSome {q : Pbx.SetQuery} :
    (pbSetQueryDeserialize json (some q)).isSome ↔ ¬ Blank q := by
  obtain ⟨desc, sub, tags, cred, aux⟩ := q
  unfold pbSetQueryDeserialize Blank
  cases cred with
  | some c => simp
  | none =>
    cases tags with
    | cons t ts => simp
    | nil =>
      cases desc with
      | some d =>
        cases sub with
        | none => simp
        | some s => by_cases used : s.userId ≠ "" ∨ s.mode ≠ "" <;> simp [used]
      | none =>
        cases sub with
        | none => simp
        | some s => by_cases used : s.userId ≠ "" ∨ s.mode ≠ "" <;> simp [used] <;> tauto

theorem pbClientCredsDeserialize_returns (creds : List Pbx.ClientCred) :
    Returns (pbClientCredsDeserialize json creds) :=
  returns_mapM.mpr fun _ _ => returns_deref.mpr rfl

/-- The message is a `{set}` with a query of which no part is used. -/
def BlankSet (pkt : Pbx.ClientMsg) : Prop :=
  ∃ set q, pkt.message = some (.set set) ∧ set.query = some q ∧ Blank q

theorem decodeBody_returns {body : Pbx.ClientBody} :
    Returns (decodeBody json body) ↔ ∀ set q, body = .set set → set.query = some q → ¬ Blank q := by
  cases body with
  | hi | sub | leave | pub | del | note =>
    exact iff_of_true (returns_ok _) (fun set q same => by cases same)
  | acc acc
  | login login =>
    refine iff_of_true ?_ (fun set q same => by cases same)
    exact (returns_bind fun _ => returns_ok _).mpr (pbClientCredsDeserialize_returns _)
  | get get =>
    obtain ⟨id, topic, query⟩ := get
    refine iff_of_true ?_ (fun set q same => by cases same)
    cases query with
    | none => exact returns_ok _
    | some gq => exact (returns_bind fun _ => returns_ok _).mpr (returns_deref.mpr rfl)
  | set set =>
    obtain ⟨id, topic, query⟩ := set
    cases query with
    | none => exact iff_of_true (returns_ok _) (by rintro _ q ⟨rfl⟩ ⟨⟩)
    | some sq =>
      refine ((returns_bind fun _ => returns_ok _).trans
        (returns_deref.trans pbSetQueryDeserialize_isSome)).trans ?_
      constructor
      · rintro used _ q ⟨rfl⟩ ⟨rfl⟩
        exact used
      · intro used
        exact used _ sq rfl rfl

theorem pbCliDeserialize_returns {pkt : Pbx.ClientMsg} :
    Returns (pbCliDeserialize json (some pkt)) ↔ ¬ BlankSet pkt := by
  obtain ⟨message, extra⟩ := pkt
  cases message with
  | none => exact iff_of_true (returns_ok _) (by rintro ⟨_, _, h, -⟩; cases h)
  | some body =>
    refine ((returns_bind fun _ => returns_ok _).trans decodeBody_returns).trans ?_
    constructor
    · rintro used ⟨set, q, same, query, blank⟩
      cases same
      exact used set q rfl query blank
    · rintro used set q rfl query blank
      exact used ⟨set, q, rfl, query, blank⟩

theorem pbServDeserialize_returns (pkt : Option Pbx.ServerMsg) :
    Returns (pbServDeserialize json pkt) := by
  have subs (subs : List Pbx.TopicSub) : Returns (pbTopicSubSliceDeserialize json subs) := by
    refine returns_mapM.mpr fun sub _ => ?_
    unfold pbTopicSubDeserialize
    cases sub.acs with
    | none => exact returns_ok _
    | some acs => exact (returns_bind fun _ => returns_ok _).mpr (returns_deref.mpr rfl)
  unfold pbServDeserialize
  split
  · exact returns_ok _
  · exact returns_ok _
  · exact returns_ok _
  · exact returns_ok _
  · exact returns_ok _
  · exact (returns_bind fun _ => returns_ok _).mpr (subs _)

theorem pbSubSliceDeserialize_returns {subs : List Pbx.TopicSub} :
    Returns (pbSubSliceDeserialize json subs) ↔ ∀ sub ∈ subs, 0 < sub.updatedAt.toInt := by
  refine returns_mapM.trans (forall₂_congr fun sub _ => ?_)
  refine (returns_bind fun _ => returns_ok _).trans (returns_deref.trans ?_)
  unfold int64ToTime
  split_ifs with pos <;> simp [pos]

/-- The decoders return for every client message but a `{set}` with a blank query, and for every
answer of a plug-in but one that replaces a message by such a `{set}` and one whose search results
lack a time of update. -/
theorem decoders_return_iff (json : Raw → Any) :
    (∀ pkt, Returns (pbCliDeserialize json (some pkt)) ↔ ¬ BlankSet pkt) ∧
    (∀ resp : Pbx.ServerResp, Returns (fireHoseAnswer json resp) ↔
      ∀ pkt ∈ resp.clmsg, resp.status = .replace → ¬ BlankSet pkt) ∧
    (∀ resp : Pbx.SearchFound, Returns (findAnswer json resp) ↔
      (resp.status ≠ .continue_ → resp.status ≠ .drop → resp.status ≠ .replace →
        ∀ sub ∈ resp.result, 0 < sub.updatedAt.toInt)) := by
  refine ⟨fun pkt => pbCliDeserialize_returns, fun resp => ?_, fun resp => ?_⟩
  · unfold fireHoseAnswer
    cases status : resp.status with
    | continue_ | drop => exact iff_of_true (returns_ok _) (by simp)
    | respond | other => exact iff_of_true (returns_map.mpr (pbServDeserialize_returns _)) (by simp)
    | replace =>
      refine returns_map.trans ?_
      cases clmsg : resp.clmsg with
      | none => exact iff_of_true (returns_ok _) (by simp)
      | some pkt => simpa using pbCliDeserialize_returns
  · unfold findAnswer
    cases status : resp.status with
    | continue_ | drop | replace => exact iff_of_true (returns_ok _) (by simp)
    | respond | other => simpa using returns_map.trans pbSubSliceDeserialize_returns

/-- A `{set}` with an empty query, and a search result without a time of update. -/
theorem blank_set_and_undated_result_panic :
    pbCliDeserialize (fun _ => .null)
        (some { message := some (.set { topic := "me", query := some {} }) }) =
      .error .nilDereference ∧
    findAnswer (fun _ => .null) { status := .respond, result := [{ userId := "usr1" }] } =
      .error .nilDereference :=
  ⟨rfl, rfl⟩

end LastochkaServer.Guarantees.DecoderTotality
