import LastochkaServer.Lib.Run
import LastochkaServer.Guarantees.Eviction
import LastochkaServer.Source.Topic.SessionOutcomes

/-!
# Online counters

`perUser[uid].online` is meant to be the number of foreground attachments of a user: ordinary
sessions of the user that are not in the background, and the entries of the user in the lists of
multiplexing sessions. The counter is adjusted on many paths, and some of them miss: channel
readers who lose the connection, background sessions that end before their timer fires, background
sessions at other nodes, users evicted while attached twice through one node. `eventSafe` excludes
these, and `online_counts_attachments` says that the counter is then right after every run.
-/

namespace LastochkaServer.Guarantees.OnlineCount

open Lib Lib.Run Source Source.Topic Source.AccessMode Eviction

variable {s : SessionKey} {pssd : PerSessionData} {v : Service} {sess : Session} {fail : Faults}
  {w : World} {x : Uid} {r : SubRequest}

/-- The foreground attachments of `u` in one session. -/
def weight (background : SessionKey → Bool) (u : Uid) (s : SessionKey) (pssd : PerSessionData) :
    Nat :=
  if s.isMultiplex then pssd.muids.count u
  else if pssd.uid = u ∧ background s = false then 1 else 0

/-- The foreground attachments of `u` held by the topic. -/
def attachments (t : Topic) (background : SessionKey → Bool) (u : Uid) : Nat :=
  GoMap.tally (weight background u) t.sessions

/-- No multiplexing session lists the user twice. -/
def evictSafe (t : Topic) (u : Uid) : Bool :=
  t.sessions.entries.all fun e => !e.1.isMultiplex || decide (e.2.muids.count u ≤ 1)

/-- A session leaves under the name it has attached by, and a user at another node does not leave
from the background. -/
def leaveSafe (t : Topic) (sess : Session) (asUid : Uid) (original : Addressing) : Bool :=
  match t.sessions.lookup sess.attached with
  | none => true
  | some pssd =>
    let asChan := original == .channel && t.isChan
    if sess.multi.isNone then
      decide (pssd.uid ≠ asUid) || pssd.isChanSub == asChan || sess.background
    else decide (asUid ∉ pssd.muids) || (pssd.isChanSub == asChan && !sess.background)

/-- A lost session is not a channel reader's and is not in the background. -/
def lostSafe (t : Topic) (background : SessionKey → Bool) (s : SessionKey) : Bool :=
  match t.sessions.lookup s with
  | none => true
  | some pssd =>
    if s.isMultiplex then !pssd.isChanSub || pssd.muids.isEmpty
    else !pssd.isChanSub && !background s

/-- A session that is dropped is not a channel reader's, or is in the background. -/
def droppedSafe (t : Topic) (background : SessionKey → Bool) (s : SessionKey) : Bool :=
  match t.sessions.lookup s with
  | none => true
  | some pssd =>
    if s.isMultiplex then !pssd.isChanSub || pssd.muids.isEmpty
    else !pssd.isChanSub || background s

/-- A session that comes to the foreground is not a channel reader's, and the topic is one that
hears of it. -/
def foregroundSafe (t : Topic) (background : SessionKey → Bool) (s : SessionKey) : Bool :=
  match t.sessions.lookup s with
  | none => true
  | some pssd => !background s || (!pssd.isChanSub && t.supd)

/-- The foreground switch of a session at another node reaches only a channel's session. -/
def remoteForegroundSafe (t : Topic) (sess : Session) : Bool :=
  match t.sessions.lookup sess.attached with
  | none => true
  | some pssd => pssd.isChanSub || !t.supd

/-- The counter moves with the attachments. -/
def accounted (v : Service) : SessionEvent → Bool
  | .subscribe r _ => !r.selfBans v.world.topic || evictSafe v.world.topic r.asUid
  | .leave sess asUid original unsub _ =>
    if unsub then evictSafe v.world.topic asUid
    else leaveSafe v.world.topic (v.own sess) asUid original
  | .setSub r _ => !r.bans v.world.topic || evictSafe v.world.topic r.target
  | .delSub _ _ _ user => evictSafe v.world.topic user
  | .lost s => lostSafe v.world.topic v.background s
  | .dropped s => droppedSafe v.world.topic v.background s
  | .foreground s => foregroundSafe v.world.topic v.background s
  | .remoteForeground sess => remoteForegroundSafe v.world.topic sess
  | .detached _ => true

/-- A request that is turned down meets no condition. -/
def eventSafe (cfg : Config) (v : Service) (e : SessionEvent) : Bool :=
  e.denied cfg v.world.topic || accounted v e

/-- An ordinary session has one user, a multiplexing session a list of users. -/
def WellFormed (s : SessionKey) (pssd : PerSessionData) : Prop :=
  if s.isMultiplex then pssd.uid = 0 ∧ 0 ∉ pssd.muids else pssd.uid ≠ 0 ∧ pssd.muids = []

theorem WellFormed.multiplex {u : Uid} (wf : WellFormed s pssd) (listed : u ∈ pssd.muids) :
    s.isMultiplex := by
  by_contra ordinary
  rw [WellFormed, if_neg ordinary] at wf
  rw [wf.2] at listed
  cases listed

structure Counted (t : Topic) (background : SessionKey → Bool) : Prop where
  online : ∀ u, t.online u = attachments t background u
  records : ∀ s pssd, t.sessions.lookup s = some pssd → WellFormed s pssd
  gone : ∀ u, t.gone u → Detached t u

variable {t t' : Topic} {background : SessionKey → Bool} {u : Uid} {left : PerSessionData}

theorem weight_represents (absent : ¬ Represents s pssd u) : weight background u s pssd = 0 := by
  unfold Represents at absent
  unfold weight
  split_ifs at absent ⊢ with multiplex counted
  · exact List.count_eq_zero.mpr absent
  · exact absurd counted.1 absent
  · rfl

theorem attachments_detached (detached : Detached t u) : attachments t background u = 0 :=
  GoMap.tally_eq_zero _ _ fun s pssd attached => weight_represents (detached s pssd attached)

theorem Counted.undisturbed (inv : Counted t background) (quiet : Undisturbed t t') :
    Counted t' background := by
  refine ⟨fun u => ?_, fun s pssd attached => ?_, fun u left s pssd attached => ?_⟩
  · have same : attachments t' background u = attachments t background u := by
      rw [attachments, quiet.sessions, attachments]
    rcases quiet.online u with kept | ⟨left, zero⟩
    · rw [kept, same, inv.online]
    · rw [zero, same, attachments_detached (inv.gone u left)]
      rfl
  · rw [quiet.sessions] at attached
    exact inv.records s pssd attached
  · rw [quiet.sessions] at attached
    exact inv.gone u (quiet.gone u left) s pssd attached

/-- What an eviction leaves of a record represents the other users as before. -/
theorem remaining_weight (wf : WellFormed s pssd) (nonzero : u ≠ 0) (other : x ≠ u) :
    (remaining u (some pssd)).elim 0 (weight background x s) = weight background x s pssd := by
  unfold remaining Topic.remRecord
  by_cases whole : pssd.uid = u ∨ u = 0
  · have self : pssd.uid = u := whole.resolve_right nonzero
    simp only [whole, if_true, Option.bind_some, Option.elim_none]
    unfold WellFormed at wf
    unfold weight
    split_ifs at wf ⊢ with multiplex counted
    · exact absurd (self.symm.trans wf.1) nonzero
    · exact absurd (counted.1.symm.trans self) other
    · rfl
  · by_cases listed : u ∈ pssd.muids
    · have multiplex := wf.multiplex listed
      have counted := Slice.count_swapRemove pssd.muids u x listed
      rw [if_neg other] at counted
      simp only [whole, listed, if_true, if_false, Option.bind_some]
      cases empty : (Slice.swapRemove pssd.muids u).isEmpty with
      | true =>
        rw [List.isEmpty_iff.mp empty, List.count_nil] at counted
        unfold weight
        rw [if_pos multiplex]
        exact counted
      | false => simpa [weight, multiplex] using counted
    · simp [whole, listed]

theorem remaining_wellFormed (wf : WellFormed s pssd)
    (stays : remaining u (some pssd) = some left) :
    WellFormed s left ∧ ∀ x, Represents s left x → Represents s pssd x := by
  unfold remaining Topic.remRecord at stays
  by_cases whole : pssd.uid = u ∨ u = 0
  · simp [whole] at stays
  · by_cases listed : u ∈ pssd.muids
    · have mem (x : Uid) : x ∈ Slice.swapRemove pssd.muids u → x ∈ pssd.muids :=
        Slice.mem_of_mem_swapRemove listed
      have multiplex := wf.multiplex listed
      simp only [whole, listed, if_true, if_false, Option.bind_some] at stays
      split at stays
      · next impossible => cases impossible
      · cases stays
      next kept =>
      cases stays
      simp only [Option.some.injEq, Prod.mk.injEq] at kept
      rw [← kept.1]
      simp only [WellFormed, Represents, multiplex, if_true] at wf ⊢
      exact ⟨⟨wf.1, fun zero => wf.2 (mem 0 zero)⟩, mem⟩
    · simp only [whole, listed, if_false, Option.bind_some, Option.some.injEq] at stays
      subst stays
      exact ⟨wf, fun _ represents => represents⟩

theorem before_eviction (eviction : Evicted u t t') (attached : t'.sessions.lookup s = some left) :
    ∃ pssd, t.sessions.lookup s = some pssd ∧ remaining u (some pssd) = some left := by
  rw [eviction.sessions] at attached
  cases before : t.sessions.lookup s with
  | none =>
    rw [before] at attached
    cases attached
  | some pssd => exact ⟨pssd, rfl, before ▸ attached⟩

/-- An eviction is complete where no multiplexing session lists the user twice. -/
theorem remaining_gone (once : s.isMultiplex → pssd.muids.count u ≤ 1)
    (stays : remaining u (some pssd) = some left) : ¬ Represents s left u := by
  obtain ⟨nonzero, other, same, counted⟩ := remaining_some stays
  unfold Represents
  split_ifs with multiplex
  · have := once multiplex
    exact List.count_eq_zero.mp (by omega)
  · rw [same]
    exact other

theorem evictSafe_once (safe : evictSafe t u) (attached : t.sessions.lookup s = some pssd)
    (multiplex : s.isMultiplex) : pssd.muids.count u ≤ 1 := by
  have entry := List.all_eq_true.mp safe _ ((GoMap.mem_entries_iff t.sessions s pssd).mpr attached)
  simpa [multiplex] using entry

section counted

variable (inv : Counted t background)
include inv

theorem Counted.evicted (nonzero : u ≠ 0) (safe : evictSafe t u) (eviction : Evicted u t t') :
    Counted t' background := by
  have detached : Detached t' u := by
    intro s left attached
    obtain ⟨pssd, before, stays⟩ := before_eviction eviction attached
    exact remaining_gone (evictSafe_once safe before) stays
  have others : ∀ x, x ≠ u → attachments t' background x = attachments t background x := by
    intro x other
    refine GoMap.tally_eq_of_share _ _ _ _ fun s => ?_
    rw [GoMap.share, GoMap.share, eviction.sessions]
    cases before : t.sessions.lookup s with
    | none => rfl
    | some pssd => exact remaining_weight (inv.records s pssd before) nonzero other
  refine ⟨fun x => ?_, fun s left attached => ?_, fun x gone => ?_⟩
  · by_cases same : x = u
    · subst same
      rw [eviction.self, attachments_detached detached]
      rfl
    · rw [others x same]
      rcases eviction.online x same with kept | ⟨gone, zero⟩
      · rw [kept, inv.online]
      · rw [zero, attachments_detached (inv.gone x gone)]
        rfl
  · obtain ⟨pssd, before, stays⟩ := before_eviction eviction attached
    exact (remaining_wellFormed (inv.records s pssd before) stays).1
  · by_cases same : x = u
    · subst same
      exact detached
    · intro s left attached represents
      obtain ⟨pssd, before, stays⟩ := before_eviction eviction attached
      have kept := (remaining_wellFormed (inv.records s pssd before) stays).2 x represents
      exact inv.gone x (eviction.gone x same gone) s pssd before kept

/-- A record is written and the counters change by as much as its attachments. -/
theorem Counted.insert (sessions : t'.sessions = t.sessions.insert s pssd) (wf : WellFormed s pssd)
    (online : ∀ x, t'.online x + (GoMap.share (weight background x) t.sessions s : Int) =
      t.online x + (weight background x s pssd : Int))
    (gone : ∀ x, t'.gone x → t.gone x ∧ ¬ Represents s pssd x) : Counted t' background := by
  refine ⟨fun x => ?_, fun s' pssd' attached => ?_, fun x left s' pssd' attached => ?_⟩
  · have added := GoMap.tally_insert (weight background x) t.sessions s pssd
    have before := inv.online x
    have change := online x
    rw [attachments] at before ⊢
    rw [sessions]
    omega
  · rw [sessions] at attached
    rcases GoMap.lookup_insert_eq_some.mp attached with ⟨rfl, rfl⟩ | ⟨-, attached⟩
    · exact wf
    · exact inv.records s' pssd' attached
  · rw [sessions] at attached
    rcases GoMap.lookup_insert_eq_some.mp attached with ⟨rfl, rfl⟩ | ⟨-, attached⟩
    · exact (gone x left).2
    · exact inv.gone x (gone x left).1 s' pssd' attached

theorem Counted.erase (sessions : t'.sessions = t.sessions.erase s)
    (online : ∀ x, t'.online x + (GoMap.share (weight background x) t.sessions s : Int) = t.online x)
    (gone : ∀ x, t'.gone x → t.gone x) : Counted t' background := by
  have kept : ∀ s' pssd', t'.sessions.lookup s' = some pssd' → t.sessions.lookup s' = some pssd' := by
    intro s' pssd' attached
    rw [sessions] at attached
    exact (GoMap.lookup_erase_eq_some.mp attached).2
  refine ⟨fun x => ?_, fun s' pssd' attached => inv.records s' pssd' (kept s' pssd' attached),
    fun x left s' pssd' attached => inv.gone x (gone x left) s' pssd' (kept s' pssd' attached)⟩
  have removed := GoMap.tally_erase (weight background x) t.sessions s
  have before := inv.online x
  have change := online x
  rw [attachments] at before ⊢
  rw [sessions]
  omega

omit inv in
theorem attachSession_presence (t : Topic) (r : SubRequest) (newsub : Bool) :
    (attachSession t r newsub).sessions = (t.addSession r.sess r.asUid r.asChan).sessions ∧
      (∀ x, (attachSession t r newsub).gone x = t.gone x) ∧
      ∀ x, (attachSession t r newsub).online x =
        t.online x + if r.sess.background = false ∧ x = r.asUid then 1 else 0 := by
  rw [attachSession_eq]
  cases r.sess.background with
  | true => exact ⟨rfl, fun _ => rfl, fun x => by simp [Topic.online, Topic.pud]⟩
  | false =>
    exact ⟨rfl, fun x => addOnline_gone t r.asUid x 1,
      fun x => (addOnline_online t r.asUid x 1).trans (by simp)⟩

/-- A session that attaches is counted, whichever kind it is. -/
theorem Counted.attach {newsub : Bool} (nonzero : r.asUid ≠ 0) (alive : t.gone r.asUid = false)
    (fresh : r.sess.attached.isMultiplex = false → t.sessions.lookup r.sess.attached = none)
    (flag : r.sess.attached.isMultiplex = false → r.sess.background = background r.sess.attached) :
    Counted (attachSession t r newsub) background := by
  obtain ⟨sessions, gone, online⟩ := attachSession_presence t r newsub
  have notAsUid : ∀ x, (attachSession t r newsub).gone x → t.gone x ∧ x ≠ r.asUid := by
    intro x left
    rw [gone x] at left
    refine ⟨left, ?_⟩
    rintro rfl
    rw [alive] at left
    cases left
  unfold Topic.addSession at sessions
  cases multiplex : r.sess.attached.isMultiplex with
  | false =>
    have absent := fresh multiplex
    simp only [absent, multiplex, Bool.false_eq_true, if_false] at sessions
    refine inv.insert sessions ?_ (fun x => ?_) (fun x left => ⟨(notAsUid x left).1, ?_⟩)
    · simp [WellFormed, multiplex, nonzero]
    · rw [online x, GoMap.share, absent, flag multiplex]
      by_cases same : x = r.asUid
      · simp [weight, multiplex, same]
      · simp [weight, multiplex, same, Ne.symm same]
    · simpa [Represents, multiplex] using Ne.symm (notAsUid x left).2
  | true =>
    cases before : t.sessions.lookup r.sess.attached with
    | some pssd =>
      have wf := inv.records _ pssd before
      rw [WellFormed, if_pos multiplex] at wf
      cases background' : r.sess.background with
      | true =>
        simp only [before, multiplex, background', Bool.not_true, Bool.and_false, Bool.false_eq_true,
          if_false] at sessions
        exact inv.undisturbed
          ⟨sessions, fun x => .inl (by rw [online x]; simp [background']),
            fun x => (notAsUid x · |>.1)⟩
      | false =>
        simp only [before, multiplex, background', Bool.not_false, Bool.and_true, if_true] at sessions
        refine inv.insert sessions ?_ (fun x => ?_) (fun x left => ⟨(notAsUid x left).1, ?_⟩)
        · simp [WellFormed, multiplex, wf.1, wf.2, Ne.symm nonzero]
        · rw [online x, GoMap.share, before]
          by_cases same : x = r.asUid
          · simp only [same, background', and_self, if_true, Option.elim_some, weight, multiplex,
              List.count_append, List.count_singleton_self, Nat.cast_add, Nat.cast_one]
            omega
          · simp [weight, multiplex, same, Ne.symm same]
        · have others := inv.gone x (notAsUid x left).1 _ pssd before
          rw [Represents, if_pos multiplex] at others
          simpa [Represents, multiplex, others] using (notAsUid x left).2
    | none =>
      simp only [before, multiplex, if_true] at sessions
      refine inv.insert sessions ?_ (fun x => ?_) (fun x left => ⟨(notAsUid x left).1, ?_⟩)
      · cases r.sess.background <;> simp [WellFormed, multiplex, Ne.symm nonzero]
      · rw [online x, GoMap.share, before]
        cases r.sess.background <;> by_cases same : x =
          r.asUid <;> simp [weight, multiplex, same, symm]
      · have other := (notAsUid x left).2
        cases r.sess.background <;> simp [Represents, multiplex, other]

/-- A session leaves, and the accounting takes off what it was attached for. -/
theorem Counted.leave {topic : Topic} {r : LeaveRequest} {removed : Bool}
    (found : t.remSession s r.user = (topic, some (pssd, removed)))
    (ran : leaveUsers topic r pssd = .ok t')
    (whole : ∀ old, t.sessions.lookup s = some old → (old.uid = r.user ∨ r.user = 0) →
      ∀ x, departures t r old x = weight background x s old)
    (listed : ∀ old, t.sessions.lookup s = some old → r.user ≠ 0 → r.user ∈ old.muids →
      ∀ x, departures t r { old with muids := Slice.swapRemove old.muids r.user } x = if x =
        r.user then 1 else 0) :
    Counted t' background := by
  have frame := Topic.remSession_frame t s r.user
  rw [found] at frame
  have same (pssd : PerSessionData) (x : Uid) :
      departures t r pssd x = departures topic r pssd x := by
    rw [show topic = _ from frame]
    rfl
  simp only [same] at whole listed
  obtain ⟨sessions, gone, online⟩ := leaveUsers_presence ran
  obtain ⟨old, attached, ⟨all, rfl, rfl⟩ | ⟨one, mem, rfl, rest⟩⟩ := remSession_some found
  · refine inv.erase sessions (fun x => ?_) gone
    rw [online x, GoMap.share, attached, Option.elim_some, whole _ attached all x]
    exact Int.sub_add_cancel _ _
  · obtain ⟨-, nonzero⟩ := not_or.mp one
    have taken := listed old attached nonzero mem
    have wf := inv.records s old attached
    have multiplex := wf.multiplex mem
    rw [WellFormed, if_pos multiplex] at wf
    have counted := fun x => Slice.count_swapRemove old.muids r.user x mem
    have kept (x : Uid) : x ∈ Slice.swapRemove old.muids r.user → x ∈ old.muids :=
      Slice.mem_of_mem_swapRemove mem
    rcases rest with ⟨empty, rfl⟩ | rfl
    · refine inv.erase sessions (fun x => ?_) gone
      have total := counted x
      rw [show Slice.swapRemove old.muids r.user = [] from empty, List.count_nil] at total
      rw [online x, taken x, GoMap.share, attached, Option.elim_some, weight, if_pos multiplex,
        ← total]
      change t.online x - _ + _ = t.online x
      omega
    · refine inv.insert sessions ?_ (fun x => ?_) (fun x left => ⟨gone x left, ?_⟩)
      · rw [WellFormed, if_pos multiplex]
        exact ⟨wf.1, fun zero => wf.2 (kept 0 zero)⟩
      · have total := counted x
        rw [online x, taken x, GoMap.share, attached, Option.elim_some, weight, if_pos multiplex,
          weight, if_pos multiplex, ← total]
        change t.online x - _ + _ = t.online x + _
        push_cast
        omega
      · have others := inv.gone x (gone x left) s old attached
        rw [Represents, if_pos multiplex] at others ⊢
        exact fun stays => others (kept x stays)

theorem Counted.background_congr {background' : SessionKey → Bool}
    (same : ∀ s pssd, t.sessions.lookup s = some pssd → s.isMultiplex = false →
      background' s = background s) :
    Counted t background' := by
  refine { inv with online := fun x => ?_ }
  rw [inv.online x]
  refine congrArg _ (GoMap.tally_congr _ _ _ fun s pssd attached => ?_)
  unfold weight
  split_ifs with multiplex <;> simp_all

theorem Counted.awaken (attached : t.sessions.lookup s = some pssd) (ordinary : s.isMultiplex = false)
    (asleep : background s) :
    Counted (t.addOnline pssd.uid 1) fun s' => if s' = s then false else background s' := by
  refine ⟨fun x => ?_, inv.records, fun x left => inv.gone x (by rwa [addOnline_gone] at left)⟩
  rw [addOnline_online, inv.online x, attachments, attachments, addOnline_sessions]
  -- compare the two sums without the session itself
  have before := GoMap.tally_erase (weight background x) t.sessions s
  have after := GoMap.tally_erase (weight (fun s' => if s' = s then false else background s') x)
    t.sessions s
  have rest : GoMap.tally (weight background x) (t.sessions.erase s) =
      GoMap.tally (weight (fun s' => if s' = s then false else background s') x)
        (t.sessions.erase s) := by
    refine GoMap.tally_congr _ _ _ fun s' pssd' kept => ?_
    simp [weight, (GoMap.lookup_erase_eq_some.mp kept).1]
  have share : GoMap.share (weight background x) t.sessions s = 0 := by
    simp [GoMap.share, attached, weight, ordinary, asleep]
  have share' : GoMap.share (weight (fun s' => if s' = s then false else background s') x)
      t.sessions s = if x = pssd.uid then 1 else 0 := by
    simp [GoMap.share, attached, weight, ordinary, eq_comm]
  rw [share'] at after
  split_ifs at after ⊢ <;> omega

end counted

/-- The counters are right, and every ordinary session that is attached is linked to the topic. -/
structure Inv (v : Service) : Prop where
  counted : Counted v.world.topic v.background
  linked : ∀ s pssd, v.world.topic.sessions.lookup s = some pssd → s.isMultiplex = false →
    v.linked s

theorem Inv.quiet (inv : Inv v) (quiet : Undisturbed v.world.topic w.topic) :
    Inv { v with world := w } where
  counted := inv.counted.undisturbed quiet
  linked s pssd attached ordinary := by
    rw [quiet.sessions] at attached
    exact inv.linked s pssd attached ordinary

/-- The flag of a session that is not attached does not matter. -/
theorem Inv.unattached (inv : Inv v) (absent : v.world.topic.sessions.lookup s = none) :
    Inv (v.awaken s) := by
  refine ⟨inv.counted.background_congr fun s' pssd present _ => ?_, inv.linked⟩
  have other : s' ≠ s := by
    rintro rfl
    rw [absent] at present
    cases present
  simp [Service.awaken, other]

theorem Inv.evicted (inv : Inv v) (nonzero : u ≠ 0) (safe : evictSafe v.world.topic u)
    (eviction : Evicted u v.world.topic w.topic) : Inv { v with world := w } where
  counted := inv.counted.evicted nonzero safe eviction
  linked s pssd attached ordinary := by
    obtain ⟨old, before, -⟩ := before_eviction eviction attached
    exact inv.linked s old before ordinary

theorem Inv.attended {evicting : Bool} (inv : Inv v) (nonzero : u ≠ 0)
    (safe : (!evicting || evictSafe v.world.topic u))
    (change : Attended u evicting v.world.topic w.topic) : Inv { v with world := w } := by
  rcases change with quiet | ⟨rfl, eviction⟩
  · exact inv.quiet quiet
  · exact inv.evicted nonzero safe eviction

/-- The key under which the topic knows a session is that of a multiplexing session exactly if the
session is a proxy. -/
theorem attached_multiplex (request : sess.isMultiplex = false) :
    sess.attached.isMultiplex = sess.multi.isSome := by
  unfold Session.attached
  cases multi : sess.multi with
  | none => exact request
  | some m => exact sess.multi_multiplex m multi

theorem attached_own (ordinary : sess.multi.isNone) : sess.attached = sess.toSessionKey := by
  unfold Session.attached
  rw [Option.isNone_iff_eq_none.mp ordinary, Option.getD_none]

theorem own_facts (v : Service) (sess : Session) :
    (v.own sess).toSessionKey = sess.toSessionKey ∧ (v.own sess).multi = sess.multi ∧
      ((v.own sess).multi.isNone →
        (v.own sess).background = v.background (v.own sess).toSessionKey) := by
  unfold Service.own
  split_ifs with ordinary
  · exact ⟨rfl, rfl, fun _ => rfl⟩
  · exact ⟨rfl, rfl, fun plain => absurd plain ordinary⟩

theorem addSession_other (t : Topic) (u : Uid) (isChanSub : Bool) (other : s ≠ sess.attached) :
    (t.addSession sess u isChanSub).sessions.lookup s = t.sessions.lookup s := by
  unfold Topic.addSession
  dsimp only
  split
  · split_ifs
    · exact AList.lookup_insert_ne other
    · rfl
  · exact AList.lookup_insert_ne other

theorem registerSession_inv {cfg : Config} (inv : Inv v) (nonzero : r.asUid ≠ 0)
    (safe : (!r.selfBans v.world.topic || evictSafe v.world.topic r.asUid))
    (request : r.sess.isMultiplex = false)
    (flag : r.sess.multi.isNone → r.sess.background = v.background r.sess.toSessionKey) :
    Inv (registerSession cfg fail v r).1 := by
  unfold registerSession
  split
  · exact inv.quiet .refl
  split
  · exact inv.quiet .refl
  next unlinked =>
  split
  · exact inv.quiet .refl
  split
  · exact inv
  next w outcome ran =>
  obtain ⟨⟨w₁, res⟩, subscribed, ran⟩ := bind_ok ran
  have change := thisUserSub_presence subscribed
  have before := inv.attended (w := w₁) nonzero safe change
  cases res with
  | error text =>
    cases ran
    simpa using before
  | ok modeChanged =>
    cases joins : hasJoined modeChanged with
    | false =>
      simp only [joins, Bool.false_eq_true, if_false] at ran
      obtain ⟨name, -, ran⟩ := bind_ok ran
      cases ran
      simpa using before.quiet (w := w₁.emit _) .refl
    | true =>
      simp only [joins, if_true] at ran
      obtain ⟨name, -, ran⟩ := bind_ok ran
      cases ran
      have alive : w₁.topic.gone r.asUid = false := (thisUserSub_alive subscribed :)
      have ordinary : r.sess.attached.isMultiplex = false → r.sess.multi.isNone := by
        rw [attached_multiplex request]
        cases r.sess.multi <;> simp
      have fresh : r.sess.attached.isMultiplex = false →
          w₁.topic.sessions.lookup r.sess.attached = none := by
        intro plain
        rw [Option.eq_none_iff_forall_ne_some]
        intro pssd attached
        have linked := before.linked _ pssd attached plain
        rw [attached_own (ordinary plain)] at linked
        exact unlinked ⟨ordinary plain, linked⟩
      have counted : Counted (attachSession w₁.topic r (isNewsub v.world.topic r)) v.background :=
        before.counted.attach nonzero alive fresh fun plain => by
          rw [attached_own (ordinary plain)]
          exact flag (ordinary plain)
      -- the only new record is that of the session itself, which is now linked
      have linked :
          ∀ s pssd, (attachSession w₁.topic r (isNewsub v.world.topic r)).sessions.lookup s =
          some pssd → s ≠ r.sess.attached → s.isMultiplex = false → v.linked s := by
        intro s pssd found other plain
        rw [(attachSession_presence _ _ _).1, addSession_other _ _ _ other] at found
        exact before.linked s pssd found plain
      split_ifs with own
      · refine ⟨counted, fun s pssd found plain => ?_⟩
        by_cases self : s = r.sess.toSessionKey
        · simp [Service.link, self]
        · simpa [Service.link, self] using linked s pssd found (by rwa [attached_own own.2]) plain
      · refine ⟨counted, fun s pssd found plain => linked s pssd found ?_ plain⟩
        rintro rfl
        exact own ⟨rfl, ordinary plain⟩

theorem leaveTopic_inv {r : LeaveRequest} (inv : Inv v)
    (unsub : r.init → r.unsub → r.user ≠ 0 ∧ evictSafe v.world.topic r.user)
    (whole : ∀ old, ¬ (r.init ∧ r.unsub) →
      v.world.topic.sessions.lookup r.sess.attached = some old → (old.uid = r.user ∨ r.user = 0) →
      ∀ x, departures v.world.topic r old x = weight v.background x r.sess.attached old)
    (listed : ∀ old, ¬ (r.init ∧ r.unsub) →
      v.world.topic.sessions.lookup r.sess.attached = some old → r.user ≠ 0 → r.user ∈ old.muids →
      ∀ x, departures v.world.topic r { old with muids := Slice.swapRemove old.muids r.user } x =
        if x = r.user then 1 else 0) :
    Inv (leaveTopic fail v r) := by
  unfold leaveTopic
  split
  · exact inv
  next w removed ran =>
  cases handleLeaveRequest_left ran with
  | kept replies =>
    exact inv.quiet (.of_eq (by rw [replies.frame.1]) (by rw [replies.frame.1]))
  | unsubscribed asks replies left =>
    obtain ⟨nonzero, safe⟩ := unsub asks.1 asks.2
    have change := replyLeaveUnsub_presence left
    rw [replies.frame.1] at change
    exact change.elim inv.quiet (inv.evicted nonzero safe)
  | @departed stays _ _ topic topic' _ _ found left =>
    have counted : Counted topic' v.background := inv.counted.leave found left
      (fun old => whole old stays) (fun old => listed old stays)
    have sessions := (leaveUsers_presence left).1
    have kept : ∀ s pssd', topic'.sessions.lookup s = some pssd' →
        ∃ old, v.world.topic.sessions.lookup s = some old := by
      intro s pssd' attached
      rw [sessions] at attached
      by_cases self : s = r.sess.attached
      · obtain ⟨old, before, -⟩ := remSession_some found
        exact ⟨old, by rw [self, before]⟩
      · have other := remSession_lookup_other v.world.topic r.sess.attached s r.user self
        rw [found] at other
        exact ⟨pssd', other.symm.trans attached⟩
    split_ifs with own
    · refine ⟨counted, fun s pssd' attached plain => ?_⟩
      have self : s ≠ r.sess.toSessionKey := by
        rintro rfl
        -- an ordinary session that leaves is removed whole
        rw [← attached_own own.2] at attached plain
        have attached : topic'.sessions.lookup r.sess.attached = some pssd' := attached
        rw [sessions] at attached
        obtain ⟨old, before, ⟨-, -, rfl⟩ | ⟨-, mem, -⟩⟩ := remSession_some found
        · exact (GoMap.lookup_erase_eq_some.mp attached).1 rfl
        · cases plain.symm.trans ((inv.counted.records _ old before).multiplex mem)
      obtain ⟨old, before⟩ := kept s pssd' attached
      simpa [Service.link, self] using inv.linked s old before plain
    · refine ⟨counted, fun s pssd' attached plain => ?_⟩
      obtain ⟨old, before⟩ := kept s pssd' attached
      exact inv.linked s old before plain

theorem leaves_inv {r : LeaveRequest} (inv : Inv v) (init : r.init) (nonzero : r.asUid ≠ 0)
    (request : r.sess.isMultiplex = false)
    (flag : r.sess.multi.isNone → r.sess.background = v.background r.sess.toSessionKey)
    (safe : (if r.unsub then evictSafe v.world.topic r.asUid
      else leaveSafe v.world.topic r.sess r.asUid r.original) = true) :
    Inv (leaveTopic fail v r) := by
  have kind := attached_multiplex request
  have proxy : r.sess.isProxy = r.sess.multi.isSome := r.sess.multi_iff_proxy.symm
  have user : r.user = r.asUid := by rw [LeaveRequest.user, if_pos init]
  have asChan : r.asChan v.world.topic = (r.original == .channel && v.world.topic.isChan) := by
    rw [LeaveRequest.asChan, init, Bool.true_and]
  refine leaveTopic_inv inv (fun _ unsubscribes => ?_) ?_ ?_
  · rw [if_pos unsubscribes] at safe
    rw [user]
    exact ⟨nonzero, safe⟩
  · intro old stays attached all x
    rw [user] at all
    have self : old.uid = r.asUid := all.resolve_right nonzero
    have wf := inv.counted.records _ old attached
    rw [if_neg fun unsub => stays ⟨init, unsub⟩, leaveSafe, attached] at safe
    unfold WellFormed at wf
    cases multi : r.sess.multi with
    | some m =>
      rw [if_pos (by rw [kind, multi]; rfl)] at wf
      exact absurd (self.symm.trans wf.1) nonzero
    | none =>
      have own : r.sess.multi.isNone := by rw [multi]; rfl
      have leaver : r.leaver old = r.asUid := by
        rw [LeaveRequest.leaver, proxy, multi]
        exact self
      simp only [own, if_true, self, ne_eq, not_true_eq_false, decide_false, Bool.false_or,
        Bool.or_eq_true, beq_iff_eq, ← asChan] at safe
      rw [weight, if_neg (by rw [kind, multi]; decide), self, attached_own own, ← flag own]
      by_cases same : old.isChanSub = r.asChan v.world.topic
      · rw [departures_one same (by rw [leaver]; exact nonzero), leaver]
        cases r.sess.background <;> simp [eq_comm]
      · rw [departures_misnamed same, safe.resolve_left same]
        simp
  · intro old stays attached _ mem x
    rw [if_neg fun unsub => stays ⟨init, unsub⟩, leaveSafe, attached] at safe
    have wf := (inv.counted.records _ old attached).multiplex mem
    rw [user] at mem ⊢
    cases multi : r.sess.multi with
    | none =>
      rw [kind, multi] at wf
      cases wf
    | some m =>
      have leaver (pssd : PerSessionData) : r.leaver pssd = r.asUid := by
        rw [LeaveRequest.leaver, proxy, multi]
        exact user
      simp only [multi, Option.isNone_some, Bool.false_eq_true, if_false, mem, not_true_eq_false,
        decide_false, Bool.false_or, Bool.and_eq_true, beq_iff_eq, Bool.not_eq_true',
        ← asChan] at safe
      rw [departures_one (by exact safe.1) (by rw [leaver]; exact nonzero), leaver, safe.2]
      rfl

theorem removed_inv (inv : Inv v) (own : sess.multi = none)
    (safe : ∀ old, v.world.topic.sessions.lookup sess.toSessionKey = some old →
      if sess.isMultiplex then old.isChanSub = false ∨ old.muids = []
      else (old.isChanSub = false ∨ v.background sess.toSessionKey) ∧
        sess.background = v.background sess.toSessionKey) :
    Inv (leaveTopic fail v { sess := sess, init := false }) := by
  have key : sess.attached = sess.toSessionKey := attached_own (by rw [own]; rfl)
  have proxy : sess.isProxy = false := by
    have kind := sess.multi_iff_proxy
    rw [own] at kind
    exact kind.symm
  refine leaveTopic_inv inv (by simp) ?_ (by simp [LeaveRequest.user])
  intro old _ attached _ x
  have wf := inv.counted.records _ old attached
  rw [key] at attached wf
  have safe := safe old attached
  rw [key]
  have leaver : LeaveRequest.leaver { sess := sess, init := false } old = old.uid := by
    rw [LeaveRequest.leaver, proxy]
    rfl
  unfold WellFormed at wf
  unfold weight
  split_ifs at wf safe ⊢ with multiplex counted
  · by_cases same : old.isChanSub = false
    · exact departures_all same (leaver.trans wf.1) x
    · rw [departures_misnamed same, safe.resolve_left same, List.count_nil]
  · obtain ⟨named, awake⟩ := counted
    have same : old.isChanSub = false := safe.1.resolve_right (by simp [awake])
    rw [departures_one same (by rw [leaver]; exact wf.1), leaver, show sess.background = false from
      safe.2.trans awake, named]
    simp
  · by_cases same : old.isChanSub = false
    · rw [departures_one same (by rw [leaver]; exact wf.1), leaver, safe.2]
      cases awake : v.background sess.toSessionKey with
      | true => rfl
      | false =>
        have other : x ≠ old.uid := fun named => counted ⟨named.symm, awake⟩
        simp [other]
    · exact departures_misnamed same x

theorem keyed_facts {background : Bool} (found : Service.keyed s background = some sess) :
    sess.toSessionKey = s ∧ sess.multi = none ∧ sess.background = background := by
  unfold Service.keyed at found
  split_ifs at found
  cases found
  exact ⟨rfl, rfl, rfl⟩

theorem setSub_inv {cfg : Config} {r : SetSubRequest} (inv : Inv v) (authed : r.asUid ≠ 0)
    (safe : (!r.bans v.world.topic || evictSafe v.world.topic r.target)) {res : Except String Unit}
    (ran : replySetSub cfg fail v.world r = .ok (w, res)) : Inv { v with world := w } := by
  rcases replySetSub_presence ran with ⟨-, quiet⟩ | ⟨named, change⟩
  · exact inv.quiet quiet
  · refine inv.attended ?_ safe change
    change r.user.getD r.asUid ≠ 0
    cases user : r.user with
    | none => exact authed
    | some target =>
      rw [user] at named
      exact fun zero => named (by rw [show target = 0 from zero])

/-- A connection is lost: the session leaves the background first, then the topic. -/
theorem lost_inv (inv : Inv v) (own : sess.multi = none) (awake : sess.background = false)
    (safe : lostSafe v.world.topic v.background sess.toSessionKey) :
    Inv (if sess.isMultiplex ∨ (v.awaken sess.toSessionKey).linked sess.toSessionKey then
      leaveTopic fail (v.awaken sess.toSessionKey) { sess := sess, init := false }
      else v.awaken sess.toSessionKey) := by
  unfold lostSafe at safe
  have woken : Inv (v.awaken sess.toSessionKey) := by
    refine ⟨inv.counted.background_congr fun s pssd attached ordinary => ?_, inv.linked⟩
    by_cases self : s = sess.toSessionKey
    · subst self
      simp only [attached, ordinary, Bool.false_eq_true, if_false, Bool.and_eq_true,
        Bool.not_eq_true'] at safe
      simp [Service.awaken, safe.2]
    · simp [Service.awaken, self]
  split_ifs
  · refine removed_inv woken own fun old attached => ?_
    have attached : v.world.topic.sessions.lookup sess.toSessionKey = some old := attached
    simp only [attached] at safe
    split_ifs at safe ⊢ with multiplex
    · simpa using safe
    · exact ⟨.inl (by simpa using (Bool.and_eq_true_iff.mp safe).1), by simp [Service.awaken, awake]⟩
  · exact woken

theorem dropped_inv (inv : Inv v) (own : sess.multi = none)
    (flag : sess.background = v.background sess.toSessionKey)
    (safe : droppedSafe v.world.topic v.background sess.toSessionKey) :
    Inv (leaveTopic fail v { sess := sess, init := false }) := by
  unfold droppedSafe at safe
  refine removed_inv inv own fun old attached => ?_
  simp only [attached] at safe
  split_ifs at safe ⊢ with multiplex
  · simpa using safe
  · exact ⟨by simpa using safe, flag⟩

theorem foreground_inv (inv : Inv v) (own : sess.multi = none)
    (asleep : v.background sess.toSessionKey) (ordinary : sess.isMultiplex = false)
    (safe : foregroundSafe v.world.topic v.background sess.toSessionKey) :
    Inv (if v.linked sess.toSessionKey ∧ v.world.topic.supd then
      { v.awaken sess.toSessionKey with
        world := v.world.setTopic (sessToForeground v.world.topic sess) }
      else v.awaken sess.toSessionKey) := by
  have key : sess.attached = sess.toSessionKey := attached_own (by rw [own]; rfl)
  unfold foregroundSafe at safe
  rw [sessToForeground_eq]
  cases attached : v.world.topic.sessions.lookup sess.toSessionKey with
  | none =>
    have woken := inv.unattached attached
    rw [Topic.risen, key, attached]
    split <;> exact woken
  | some pssd =>
    simp only [attached, asleep, Bool.not_true, Bool.false_or, Bool.and_eq_true,
      Bool.not_eq_true'] at safe
    -- an attached session is linked, and then the topic hears of the switch
    rw [if_pos ⟨inv.linked _ pssd attached ordinary, safe.2⟩, Topic.risen, key, attached,
      Option.bind_some, safe.1, ordinary]
    exact ⟨inv.counted.awaken attached ordinary asleep, inv.linked⟩

theorem remoteForeground_inv (inv : Inv v) (supd : v.world.topic.supd)
    (safe : remoteForegroundSafe v.world.topic sess) :
    Inv { v with world := v.world.setTopic (sessToForeground v.world.topic sess) } := by
  unfold remoteForegroundSafe at safe
  have risen : v.world.topic.risen sess = none := by
    unfold Topic.risen
    cases attached : v.world.topic.sessions.lookup sess.attached with
    | none => rfl
    | some pssd => simpa [attached, supd] using safe
  rw [sessToForeground_eq, risen]
  exact inv

theorem detached_inv (inv : Inv v) (absent : v.world.topic.sessions.lookup s = none) :
    Inv (v.link s false) := by
  refine ⟨inv.counted, fun s' pssd present ordinary => ?_⟩
  have other : s' ≠ s := by
    rintro rfl
    cases absent.symm.trans present
  simpa [Service.link, other] using inv.linked s' pssd present ordinary

theorem accounted_inv (cfg : Config) (fail : Faults) (v : Service) (e : SessionEvent) (inv : Inv v)
    (safe : accounted v e) : Inv (attend cfg fail v e) := by
  cases e with
  | subscribe r authed =>
    simp only [attend]
    obtain ⟨key, multi, flag⟩ := own_facts v r.sess
    split_ifs with multiplex
    · exact inv
    · refine registerSession_inv inv authed safe ?_ flag
      rw [key]
      exact Bool.not_eq_true _ ▸ multiplex
  | leave sess asUid original unsub authed =>
    simp only [attend]
    obtain ⟨key, multi, flag⟩ := own_facts v sess
    split
    · exact inv
    next multiplex =>
    split
    · exact inv.quiet .refl
    · exact leaves_inv inv rfl authed (Bool.not_eq_true _ ▸ multiplex) flag safe
  | setSub r authed =>
    simp only [attend]
    split_ifs
    · exact inv.quiet .refl
    split
    · exact inv
    · next ran => exact setSub_inv inv authed safe ran
  | delSub sess asUid original user =>
    simp only [attend]
    split
    · exact inv
    · next w res ran =>
      rcases replyDelSub_presence ran with quiet | ⟨nonzero, eviction⟩
      · exact inv.quiet quiet
      · exact inv.evicted nonzero safe eviction
  | lost s =>
    simp only [attend]
    cases found : Service.keyed s false with
    | none => exact inv
    | some sess =>
      obtain ⟨rfl, own, awake⟩ := keyed_facts found
      exact lost_inv inv own awake safe
  | dropped s =>
    simp only [attend]
    cases found : Service.keyed s (v.background s) with
    | none => exact inv
    | some sess =>
      obtain ⟨rfl, own, flag⟩ := keyed_facts found
      exact dropped_inv inv own flag safe
  | foreground s =>
    simp only [attend]
    cases found : Service.keyed s false with
    | none => exact inv
    | some sess =>
      obtain ⟨rfl, own, -⟩ := keyed_facts found
      dsimp only
      split
      · next sleeping =>
        exact foreground_inv inv own sleeping.1 ((Bool.not_eq_true' _).mp sleeping.2) safe
      · exact inv
  | remoteForeground sess =>
    simp only [attend]
    split_ifs with heard
    · exact remoteForeground_inv inv heard.2 safe
    · exact inv
  | detached s =>
    simp only [attend]
    split_ifs with attached
    · exact inv
    · exact detached_inv inv (Option.not_isSome_iff_eq_none.mp attached)

theorem attend_inv (cfg : Config) (fail : Faults) (v : Service) (e : SessionEvent) (inv : Inv v)
    (safe : eventSafe cfg v e) : Inv (attend cfg fail v e) := by
  rcases Bool.or_eq_true_iff.mp safe with denied | safe
  · obtain ⟨out, same⟩ := attend_denied fail denied
    rw [same]
    exact inv.quiet .refl
  · exact accounted_inv cfg fail v e inv safe

/-- One event, with the store calls of it that fail. -/
def step (cfg : Config) (v : Service) (e : Faults × SessionEvent) : Service :=
  attend cfg e.1 v e.2

theorem loaded_inv (empty : v.world.topic.sessions = ∅)
    (offline : ∀ u, v.world.topic.online u = 0) : Inv v := by
  have detached : ∀ s, v.world.topic.sessions.lookup s = none := by
    intro s
    rw [empty]
    exact AList.lookup_empty s
  refine ⟨⟨fun u => ?_, fun s pssd attached => ?_, fun u _ s pssd attached => ?_⟩,
    fun s pssd attached => ?_⟩
  · rw [offline, attachments, GoMap.tally_eq_zero]
    · rfl
    · intro s pssd attached
      rw [detached] at attached
      cases attached
  all_goals
    rw [detached] at attached
    cases attached

/-- From a topic that nobody has joined, after every run whose events are all accounted for, the
counter of each user is the number of the user's foreground attachments. -/
theorem online_counts_attachments (cfg : Config) (v : Service)
    (empty : v.world.topic.sessions = ∅) (offline : ∀ u, v.world.topic.online u = 0)
    (events : List (Faults × SessionEvent))
    (safe : Guarded (step cfg) (fun v e => eventSafe cfg v e.2 = true) v events) (u : Uid) :
    (run (step cfg) v events).world.topic.online u =
        attachments (run (step cfg) v events).world.topic (run (step cfg) v events).background u ∧
      0 ≤ (run (step cfg) v events).world.topic.online u := by
  have inv : Inv (run (step cfg) v events) :=
    run_invariant (fun v e inv safe => attend_inv cfg e.1 v e.2 inv safe) (loaded_inv empty offline)
      safe
  refine ⟨inv.counted.online u, ?_⟩
  rw [inv.counted.online u]
  exact Int.natCast_nonneg _

/-- A channel that nobody has joined yet. -/
def channel : Service :=
  { world :=
      { topic := { cat := .grp, isChan := true, owner := 1, accessAuth := modeCChnReader }
        store := {} } }

def reader : Session := { sid := "reader", proto := .websock, uid := 5 }

/-- User 5 joins as a reader. -/
def readerJoins : Faults × SessionEvent :=
  (fun _ => false,
    .subscribe { sess := reader, asUid := 5, asLvl := .auth, asChan := true } (by decide))

def readerLost : Faults × SessionEvent := (fun _ => false, .lost reader.toSessionKey)

def readerLeaves : Faults × SessionEvent :=
  (fun _ => false, .leave reader 5 .channel false (by decide))

/-- A reader who has lost the connection is still counted as online. -/
theorem lost_reader_stays_online :
    (run (step {}) channel [readerJoins, readerLost]).world.topic.online 5 = 1 ∧
      attachments (run (step {}) channel [readerJoins, readerLost]).world.topic (fun _ => false) 5 =
        0 := by
  decide

theorem online_counts_reader :
    (run (step {}) channel [readerJoins, readerLeaves, readerJoins]).world.topic.online 5 = 1 := by
  refine (online_counts_attachments {} channel rfl (fun _ => rfl)
    [readerJoins, readerLeaves, readerJoins] (by decide) 5).1.trans ?_
  decide

end LastochkaServer.Guarantees.OnlineCount
