import LastochkaServer.Lib.Majority
import LastochkaServer.Source.Cluster.Network

/-!
# Leader election

However messages are delayed, reordered and lost, a cluster has one leader per term at most. A node
votes when its term rises, for itself in `electLeader` and for a candidate in `run`, and hence once
per term. A leader has been elected by a majority, and so has every node that another one takes for
the leader: the branch of `run` for a wrong leader is never taken.
-/

namespace LastochkaServer.Guarantees.LeaderElection

open Lib Lib.Run Lib.Majority Source.Clustering

variable {n node : String} {e : Election} {term i : Nat} {c : Cluster} {s : Net} {votes : List Vote}
  {p : Packet} {cfg : FailoverConfig} {m : Membership}

def Voted (votes : List Vote) (term : Nat) (voter candidate : String) : Prop :=
  ({ voter, term, candidate } : Vote) ∈ votes

/-- The node has the votes of a majority for the term. -/
def Won (m : Membership) (votes : List Vote) (term : Nat) (n : String) : Prop :=
  Elected m.members.toFinset (Voted votes term) n

/-- No node has voted twice in a term. -/
def Once (votes : List Vote) : Prop :=
  ∀ term voter c c', Voted votes term voter c → Voted votes term voter c' → c = c'

theorem Won.mono {votes' : List Vote} (more : ∀ v ∈ votes, v ∈ votes') (won : Won m votes term n) :
    Won m votes' term n :=
  Elected.mono (fun _ voted => more _ voted) won

theorem Won.unique (once : Once votes) {n' : String} (won : Won m votes term n)
    (won' : Won m votes term n') : n = n' :=
  Elected.unique (once term) won won'

/-- The votes that a candidate has counted are votes of different nodes whose calls have
completed. -/
structure Counted (m : Membership) (votes : List Vote) (n : String) (term : Nat)
    (e : Election) : Prop where
  distinct : e.pending.Nodup
  voters : ∃ voters ⊆ m.members.toFinset, e.voteCount ≤ voters.card ∧
    ∀ v ∈ voters, v ∉ e.pending ∧ Voted votes term v n

structure NodeOk (m : Membership) (votes : List Vote) (n : String) (c : Cluster) : Prop where
  self : c.thisNodeName = n
  table : c.names = m.others n
  counted : ∀ e, c.election = some e → Counted m votes n c.term e
  leads : c.leader ≠ "" → Won m votes c.term c.leader

def PacketOk (m : Membership) (votes : List Vote) (p : Packet) : Prop :=
  match p.msg with
  | .health h => Won m votes h.term h.leader
  | .voteRequest req => req.node = p.src
  | .voteResponse term resp => resp.result → p.src ∈ m.members ∧ Voted votes term p.src p.dst

structure Safe (m : Membership) (s : Net) : Prop where
  nodes : ∀ n, NodeOk m s.votes n (s.nodes n)
  packets : ∀ p ∈ s.packets, PacketOk m s.votes p
  /-- A node does not vote in a term that it has not reached. -/
  reached : ∀ v ∈ s.votes, v.term ≤ (s.nodes v.voter).term
  once : Once s.votes

/-- What a step does: the invariant holds again, no vote is taken back and no term decreases. -/
structure Advance (m : Membership) (s s' : Net) : Prop where
  safe : Safe m s'
  votes : ∀ v ∈ s.votes, v ∈ s'.votes
  terms : ∀ n, (s.nodes n).term ≤ (s'.nodes n).term

theorem Advance.refl (safe : Safe m s) : Advance m s s := ⟨safe, fun _ old => old, fun _ => le_rfl⟩

theorem Advance.trans {s₁ s₂ s₃ : Net} (first : Advance m s₁ s₂) (second : Advance m s₂ s₃) :
    Advance m s₁ s₃ :=
  ⟨second.safe, fun v old => second.votes v (first.votes v old),
    fun n => (first.terms n).trans (second.terms n)⟩

section

variable {votes' : List Vote} (more : ∀ v ∈ votes, v ∈ votes')

include more

theorem Counted.mono (counted : Counted m votes n term e) : Counted m votes' n term e := by
  obtain ⟨distinct, voters, known, enough, voted⟩ := counted
  exact ⟨distinct, voters, known, enough, fun v mem => ⟨(voted v mem).1, more _ (voted v mem).2⟩⟩

theorem NodeOk.mono (ok : NodeOk m votes n c) : NodeOk m votes' n c :=
  ⟨ok.self, ok.table, fun e running => (ok.counted e running).mono more,
    fun led => (ok.leads led).mono more⟩

theorem PacketOk.mono (ok : PacketOk m votes p) : PacketOk m votes' p := by
  unfold PacketOk at *
  split at ok
  · exact ok.mono more
  · exact ok
  · exact fun yes => ⟨(ok yes).1, more _ (ok yes).2⟩

end

/-- One node changes. It votes only if its term rises, and then for one candidate. -/
theorem Safe.update {s' : Net} (safe : Safe m s) (new : Option Vote)
    (nodes : s'.nodes = Function.update s.nodes n c) (votes : s'.votes = s.votes ++ new.toList)
    (rises : (s.nodes n).term ≤ c.term)
    (fresh : ∀ v, new = some v → v.voter = n ∧ v.term = c.term ∧ (s.nodes n).term < c.term)
    (node : NodeOk m s'.votes n c)
    (packets : ∀ p ∈ s'.packets, p ∈ s.packets ∨ PacketOk m s'.votes p) :
    Advance m s s' := by
  have more : ∀ v ∈ s.votes, v ∈ s'.votes := fun v old => votes ▸ List.mem_append_left _ old
  have cases_vote : ∀ v ∈ s'.votes, v ∈ s.votes ∨ new = some v := fun v mem => by
    rw [votes, List.mem_append, Option.mem_toList] at mem
    exact mem
  -- An old vote of the node was cast before its term rose.
  have apart : ∀ v w, v ∈ s.votes → new = some w → v.voter = w.voter → v.term ≠ w.term := by
    intro v w old added same term
    have reached := safe.reached v old
    obtain ⟨voter, risen, lower⟩ := fresh w added
    rw [same, voter] at reached
    omega
  refine ⟨⟨fun k => ?_, fun p mem => ?_, fun v mem => ?_, fun term voter a b voted voted' => ?_⟩,
    more, fun k => ?_⟩
  · by_cases here : k = n
    · rw [nodes, here, Function.update_self]
      exact node
    · rw [nodes, Function.update_of_ne here]
      exact (safe.nodes k).mono more
  · rcases packets p mem with old | ok
    · exact (safe.packets p old).mono more
    · exact ok
  · rw [nodes]
    rcases cases_vote v mem with old | added
    · have reached := safe.reached v old
      by_cases here : v.voter = n
      · rw [here] at reached ⊢
        rw [Function.update_self]
        exact reached.trans rises
      · rw [Function.update_of_ne here]
        exact reached
    · obtain ⟨voter, risen, -⟩ := fresh v added
      rw [voter, Function.update_self, risen]
  · rcases cases_vote _ voted with old | added <;> rcases cases_vote _ voted' with old' | added'
    · exact safe.once term voter a b old old'
    · exact (apart _ _ old added' rfl rfl).elim
    · exact (apart _ _ old' added rfl rfl).elim
    · cases added.symm.trans added'
      rfl
  · rw [nodes]
    by_cases here : k = n
    · rw [here, Function.update_self]
      exact rises
    · rw [Function.update_of_ne here]

/-- As many votes as are expected are votes of a majority. -/
theorem Counted.won (counted : Counted m votes n c.term e) (ok : NodeOk m votes n c)
    (mem : n ∈ m.members) (enough : c.expectVotes ≤ e.voteCount) : Won m votes c.term n := by
  obtain ⟨-, voters, known, many, voted⟩ := counted
  have size : c.nodes.length + 1 = m.members.length := by
    rw [← others_length mem, ← ok.table, Cluster.names, List.length_map]
  have card : m.members.toFinset.card = m.members.length := List.toFinset_card_of_nodup m.distinct
  refine ⟨voters, known, ?_, fun v voter => (voted v voter).2⟩
  unfold Cluster.expectVotes at enough
  omega

theorem awaitVotes_ok (ok : NodeOk m votes n c) (mem : n ∈ m.members)
    (counted : Counted m votes n c.term e) : NodeOk m votes n (c.awaitVotes e) := by
  unfold Cluster.awaitVotes
  split_ifs with waits won
  · refine { ok with counted := fun e' running => ?_ }
    cases running
    exact counted
  · refine ⟨ok.self, ok.table, fun e' running => ?_, fun _ => ?_⟩
    · cases running
    · change Won m votes c.term c.thisNodeName
      rw [ok.self]
      exact counted.won ok mem won
  · refine { ok with counted := fun e' running => ?_ }
    cases running

theorem awaitVotes_term (e : Election) : (c.awaitVotes e).term = c.term := by
  unfold Cluster.awaitVotes
  split_ifs <;> rfl

/-- A completed call does not add a vote without a voter. -/
theorem Counted.completed (counted : Counted m votes n term e) (node : String) {count : Nat}
    (fewer : count ≤ e.voteCount) :
    Counted m votes n term { pending := e.pending.erase node, i, voteCount := count } := by
  obtain ⟨distinct, voters, known, many, voted⟩ := counted
  refine ⟨distinct.erase node, voters, known, fewer.trans many,
    fun v voter => ⟨?_, (voted v voter).2⟩⟩
  exact fun pending => (voted v voter).1 (List.mem_of_mem_erase pending)

/-- The vote of a node whose call was pending is a new one. -/
theorem Counted.granted (counted : Counted m votes n term e) (pending : node ∈ e.pending)
    (mem : node ∈ m.members) (vote : Voted votes term node n) :
    Counted m votes n term { pending := e.pending.erase node, i, voteCount := e.voteCount + 1 } := by
  obtain ⟨distinct, voters, known, many, voted⟩ := counted
  have new : node ∉ voters := fun voter => (voted node voter).1 pending
  refine ⟨distinct.erase node, insert node voters, ?_, ?_, fun v voter => ?_⟩
  · exact Finset.insert_subset (List.mem_toFinset.mpr mem) known
  · rw [Finset.card_insert_of_notMem new]
    exact Nat.succ_le_succ many
  · rcases Finset.mem_insert.mp voter with rfl | voter
    · exact ⟨distinct.not_mem_erase, vote⟩
    · exact ⟨fun still => (voted v voter).1 (List.mem_of_mem_erase still), (voted v voter).2⟩

theorem voteCompleted_ok (ok : NodeOk m votes n c) (mem : n ∈ m.members)
    (running : c.election = some e) (pending : node ∈ e.pending) {resp : Option ClusterVoteResponse}
    (granted : ∀ r, resp = some r → r.result → node ∈ m.members ∧ Voted votes c.term node n) :
    NodeOk m votes n (c.voteCompleted e node resp) := by
  have counted := ok.counted e running
  unfold Cluster.voteCompleted
  cases resp with
  | none => exact awaitVotes_ok ok mem (counted.completed node le_rfl)
  | some r =>
    dsimp only
    split_ifs with yes behind
    · obtain ⟨known, vote⟩ := granted r rfl yes
      exact awaitVotes_ok ok mem (counted.granted pending known vote)
    · exact awaitVotes_ok ok mem (counted.completed node (Nat.zero_le _))
    · exact awaitVotes_ok ok mem (counted.completed node le_rfl)

theorem voteCompleted_term (e : Election) (node : String) (resp : Option ClusterVoteResponse) :
    (c.voteCompleted e node resp).term = c.term := by
  unfold Cluster.voteCompleted
  cases resp with
  | none => exact awaitVotes_term _
  | some r =>
    dsimp only
    split_ifs <;> exact awaitVotes_term _

theorem voteTimedOut_ok (ok : NodeOk m votes n c) (mem : n ∈ m.members)
    (running : c.election = some e) : NodeOk m votes n (c.voteTimedOut e) := by
  obtain ⟨distinct, voters⟩ := ok.counted e running
  exact awaitVotes_ok ok mem ⟨distinct, voters⟩

theorem electLeader_ok (ok : NodeOk m votes n c) (mem : n ∈ m.members) (idle : c.election = none)
    (own : Voted votes (c.term + 1) n n) : NodeOk m votes n c.electLeader := by
  have fresh : NodeOk m votes n { c with term := c.term + 1, leader := "" } := by
    refine ⟨ok.self, ok.table, fun e running => ?_, fun led => absurd rfl led⟩
    cases idle.symm.trans running
  refine awaitVotes_ok fresh mem ⟨?_, {n}, ?_, by simp, fun v voter => ?_⟩
  · rw [ok.table]
    exact others_nodup n
  · exact Finset.singleton_subset_iff.mpr (List.mem_toFinset.mpr mem)
  · cases Finset.mem_singleton.mp voter
    refine ⟨fun pending => ?_, own⟩
    rw [ok.table, mem_others] at pending
    exact pending.2 rfl

theorem electLeader_term : c.electLeader.term = c.term + 1 := awaitVotes_term _

theorem initial_safe : Safe m (Net.initial cfg m) where
  nodes n := by
    refine ⟨rfl, failoverInit_names n _, fun e running => ?_, fun led => absurd rfl led⟩
    cases running
  packets := by simp [Net.initial]
  reached := by simp [Net.initial]
  once := by
    intro term voter a b voted
    cases voted

section

variable (safe : Safe m s)
include safe

/-- Without a vote, what changes is one node and the packets in flight. -/
theorem Safe.setNode (packets : List Packet) (rises : (s.nodes n).term ≤ c.term)
    (node : NodeOk m s.votes n c)
    (sent : ∀ p ∈ packets, p ∈ s.packets ∨ PacketOk m s.votes p) :
    Advance m s { s.setNode n c with packets } := by
  refine safe.update none (c := c) rfl ?_ rises (fun v none => by cases none) node sent
  exact (List.append_nil _).symm

theorem Safe.forget {s' : Net} (nodes : s'.nodes = s.nodes) (votes : s'.votes = s.votes)
    (fewer : ∀ p ∈ s'.packets, p ∈ s.packets) : Advance m s s' := by
  refine ⟨⟨fun n => ?_, fun p mem => ?_, fun v mem => ?_, ?_⟩, fun v old => ?_, fun n => ?_⟩
  · rw [nodes, votes]
    exact safe.nodes n
  · rw [votes]
    exact safe.packets p (fewer p mem)
  · rw [votes] at mem
    rw [nodes]
    exact safe.reached v mem
  · rw [votes]
    exact safe.once
  · rwa [votes]
  · rw [nodes]

omit safe in
theorem NodeOk.sameRole {c' : Cluster} (ok : NodeOk m votes n c) (same : SameRole c c') :
    NodeOk m votes n c' := by
  refine ⟨same.self.trans ok.self, same.table.trans ok.table, fun e running => ?_, fun led => ?_⟩
  · rw [same.term]
    exact ok.counted e (same.election.symm.trans running)
  · rw [same.term, same.leader] at *
    exact ok.leads led

theorem tick_advance (idle : s.idle m n) (failed : List String) :
    Advance m s (s.tick cfg m n failed) := by
  obtain ⟨mem, -, quiet⟩ := idle
  have ok := safe.nodes n
  unfold Net.tick Cluster.onTick
  split_ifs with leads late
  · cases done : (s.nodes n).sendHealthChecks cfg failed with
    | error panic => exact safe.forget rfl rfl fun p old => old
    | ok c =>
      have same := sendHealthChecks_sameRole done
      refine safe.setNode _ same.term.ge (ok.sameRole same) fun p sent => ?_
      refine (List.mem_append.mp sent).imp_right fun new => ?_
      obtain ⟨dst, -, rfl⟩ := List.mem_map.mp new
      have named : (s.nodes n).leader ≠ "" := by
        rw [leads, ok.self]
        rintro rfl
        exact m.named mem
      change Won m s.votes (s.nodes n).term (s.nodes n).thisNodeName
      rw [← leads]
      exact ok.leads named
  · -- The node votes for itself in the next term.
    have self : (s.nodes n).thisNodeName = n := ok.self
    refine safe.update (some { voter := n, term := (s.nodes n).term + 1, candidate := n })
      (n := n) rfl rfl
      ?_ ?_ ?_ fun p sent => ?_
    · rw [electLeader_term]
      exact Nat.le_succ _
    · rintro v ⟨⟩
      rw [electLeader_term]
      exact ⟨rfl, rfl, Nat.lt_succ_self _⟩
    · refine electLeader_ok ((ok.mono fun v old => List.mem_append_left _ old).sameRole ?_)
        mem quiet ?_
      · exact ⟨rfl, rfl, rfl, rfl, rfl⟩
      · exact List.mem_append_right _ (List.mem_singleton.mpr rfl)
    · refine (List.mem_append.mp sent).imp_right fun new => ?_
      obtain ⟨dst, -, rfl⟩ := List.mem_map.mp new
      exact self
  · refine safe.setNode s.packets le_rfl (ok.sameRole ?_) fun p sent => .inl sent
    exact ⟨rfl, rfl, rfl, rfl, rfl⟩

theorem onHealth_ok {h : ClusterHealth} (won : Won m s.votes h.term h.leader)
    (idle : (s.nodes n).election = none)
    (done : (s.nodes n).onHealth cfg h = .ok c) :
    (s.nodes n).term ≤ c.term ∧ NodeOk m s.votes n c := by
  have ok := safe.nodes n
  obtain ⟨self, table, election, ⟨-, rfl⟩ | ⟨newer, term, leader⟩⟩ := onHealth_role done
  · exact ⟨le_rfl, ok⟩
  · refine ⟨newer.trans term.ge, self.trans ok.self, table.trans ok.table, fun e running => ?_,
      fun _ => ?_⟩
    · cases (election.trans idle).symm.trans running
    · rw [term, leader]
      exact won

theorem onVote_advance {req : ClusterVoteRequest} (idle : s.idle m p.dst)
    (candidate : req.node = p.src)
    {rest : List Packet} (fewer : ∀ q ∈ rest, q ∈ s.packets) :
    let answer := (s.nodes p.dst).onVote req
    Advance m s { s.setNode p.dst answer.1 with
      packets := rest ++ [{ src := p.dst, dst := p.src, msg := .voteResponse req.term answer.2 }]
      votes := if answer.2.result then s.votes ++
        [{ voter := p.dst, term := req.term, candidate := req.node }]
        else s.votes } := by
  obtain ⟨mem, -, quiet⟩ := idle
  have ok := safe.nodes p.dst
  unfold Cluster.onVote
  split_ifs with newer
  · refine safe.update (some { voter := p.dst, term := req.term, candidate := req.node })
      (n := p.dst) rfl rfl
      newer.le ?_ ?_ fun q sent => ?_
    · rintro v ⟨⟩
      exact ⟨rfl, rfl, newer⟩
    · refine ⟨ok.self, ok.table, fun e running => ?_, fun led => absurd rfl led⟩
      cases quiet.symm.trans running
    · rcases List.mem_append.mp sent with old | new
      · exact .inl (fewer q old)
      · cases List.mem_singleton.mp new
        refine .inr fun _ => ⟨mem, ?_⟩
        rw [← candidate]
        exact List.mem_append_right _ (List.mem_singleton.mpr rfl)
  · refine safe.setNode _ le_rfl ok fun q sent => ?_
    rcases List.mem_append.mp sent with old | new
    · exact .inl (fewer q old)
    · cases List.mem_singleton.mp new
      exact .inr fun refused => by cases refused

theorem arrive_advance (flying : p ∈ s.packets) : Advance m s (s.arrive cfg m p) := by
  have fewer : ∀ q ∈ s.packets.erase p, q ∈ s.packets := fun q mem => List.mem_of_mem_erase mem
  have sound := safe.packets p flying
  unfold PacketOk at sound
  unfold Net.arrive
  cases msg : p.msg with
  | health h =>
    rw [msg] at sound
    dsimp only
    split_ifs with idle
    · cases done : (s.nodes p.dst).onHealth cfg h with
      | ok c =>
        obtain ⟨rises, ok⟩ := onHealth_ok safe sound idle.2.2 done
        exact safe.setNode _ rises ok fun q sent => .inl (fewer q sent)
      | error panic => exact safe.forget rfl rfl fewer
    · exact Advance.refl safe
  | voteRequest req =>
    rw [msg] at sound
    dsimp only
    by_cases idle : s.idle m p.dst
    · rw [if_pos idle]
      exact onVote_advance safe idle sound fewer
    · rw [if_neg idle]
      exact Advance.refl safe
  | voteResponse election resp =>
    rw [msg] at sound
    dsimp only
    split
    · next e waits =>
      obtain ⟨mem, running, pending⟩ := awaits_some waits
      split_ifs with current
      · refine safe.setNode _ (voteCompleted_term _ _ _).ge ?_ fun q sent => .inl (fewer q sent)
        refine voteCompleted_ok (safe.nodes p.dst) mem running pending fun r given yes => ?_
        cases given
        rw [current]
        exact sound yes
      · exact safe.forget rfl rfl fewer
    · exact safe.forget rfl rfl fewer

theorem step_advance (e : NetEvent) : Advance m s (s.step cfg m e) := by
  cases e with
  | tick n failed =>
    dsimp [Net.step]
    split_ifs with idle
    · exact tick_advance safe idle failed
    · exact Advance.refl safe
  | deliver p =>
    dsimp [Net.step]
    split_ifs with flying
    · exact arrive_advance safe flying
    · exact Advance.refl safe
  | lose p => exact safe.forget rfl rfl fun q mem => List.mem_of_mem_erase mem
  | callFailed n node =>
    dsimp [Net.step]
    split
    · next election waits =>
      obtain ⟨mem, running, pending⟩ := awaits_some waits
      refine safe.setNode s.packets (voteCompleted_term _ _ _).ge ?_ fun q sent => .inl sent
      exact voteCompleted_ok (safe.nodes n) mem running pending fun r given => by cases given
    · exact Advance.refl safe
  | timeout n =>
    dsimp [Net.step]
    split_ifs with alive
    · split
      · next election running =>
        refine safe.setNode s.packets (awaitVotes_term _).ge ?_ fun q sent => .inl sent
        exact voteTimedOut_ok (safe.nodes n) alive.1 running
      · exact Advance.refl safe
    · exact Advance.refl safe

end

theorem after_safe (events : List NetEvent) : Safe m (Net.after cfg m events) := by
  have preserved : ∀ (s : Net) (e : NetEvent), Safe m s → Safe m (s.step cfg m e) :=
    fun _ e safe => (step_advance safe e).safe
  exact run_preserves preserved initial_safe events

/-- The node considers itself the leader of the term. -/
def Leads (s : Net) (n : String) (term : Nat) : Prop :=
  (s.nodes n).leader = n ∧ (s.nodes n).term = term

theorem run_advance (events : List NetEvent) (safe : Safe m s) :
    Advance m s (run (Net.step cfg m) s events) := by
  induction events generalizing s with
  | nil => exact Advance.refl safe
  | cons e rest ih =>
    have first : Advance m s (s.step cfg m e) := step_advance safe e
    exact first.trans (ih first.safe)

theorem after_advance (before after : List NetEvent) :
    Advance m (Net.after cfg m before) (Net.after cfg m (before ++ after)) := by
  have later : Net.after cfg m (before ++ after) =
      run (Net.step cfg m) (Net.after cfg m before) after := List.foldl_append
  rw [later]
  exact run_advance after (after_safe before)

theorem Leads.won (safe : Safe m s) (leads : Leads s n term) (mem : n ∈ m.members) :
    Won m s.votes term n := by
  have named : (s.nodes n).leader ≠ "" := by
    rw [leads.1]
    rintro rfl
    exact m.named mem
  have won := (safe.nodes n).leads named
  rwa [leads.1, leads.2] at won

/-- In every run, over its whole length: one leader per term, one vote per node and term, terms that
never decrease, and no health check in flight that would take the branch for a wrong leader. -/
theorem one_leader_per_term (cfg : FailoverConfig) (m : Membership) (before after : List NetEvent) :
    let s := Net.after cfg m before
    let s' := Net.after cfg m (before ++ after)
    (∀ a ∈ m.members, ∀ b ∈ m.members, ∀ term, Leads s a term → Leads s' b term → a = b) ∧
      (∀ v ∈ s'.votes, ∀ w ∈ s'.votes, v.voter = w.voter → v.term = w.term →
        v.candidate = w.candidate) ∧
      (∀ n, (s.nodes n).term ≤ (s'.nodes n).term) ∧
      ∀ p ∈ s'.packets, ∀ h, p.msg = .health h → (s'.nodes p.dst).wrongLeader h = false := by
  intro s s'
  have safe : Safe m s := after_safe before
  have advance : Advance m s s' := after_advance before after
  have safe' : Safe m s' := advance.safe
  refine ⟨fun a memberA b memberB term leadsA leadsB => ?_, fun v cast w cast' voter term => ?_,
    advance.terms, fun p flying h msg => ?_⟩
  · exact Won.unique safe'.once ((leadsA.won safe memberA).mono advance.votes)
      (leadsB.won safe' memberB)
  · obtain ⟨voter₁, term₁, candidate₁⟩ := v
    obtain ⟨voter₂, term₂, candidate₂⟩ := w
    cases voter
    cases term
    exact safe'.once _ _ _ _ cast cast'
  · -- The leader that the node knows and the sender have both been elected in the term.
    have sent := safe'.packets p flying
    unfold PacketOk at sent
    rw [msg] at sent
    by_contra wrong
    simp only [Cluster.wrongLeader, Bool.not_eq_false, Bool.and_eq_true, Bool.not_eq_true',
      decide_eq_false_iff_not, bne_iff_ne] at wrong
    obtain ⟨⟨⟨newer, older⟩, other⟩, known⟩ := wrong
    have term : h.term = (s'.nodes p.dst).term := by omega
    have led := (safe'.nodes p.dst).leads known
    rw [← term] at led
    exact other (Won.unique safe'.once sent led)

/-- Followers agree as well: a node that is taken for the leader has the votes of a majority, and no
two nodes, at the same or at different times, take different nodes for the leader of a term. -/
theorem leaders_agreed (cfg : FailoverConfig) (m : Membership) (before after : List NetEvent) :
    let s := Net.after cfg m before
    let s' := Net.after cfg m (before ++ after)
    (∀ n, (s.nodes n).leader ≠ "" → Won m s.votes (s.nodes n).term (s.nodes n).leader) ∧
      ∀ a b, (s.nodes a).term = (s'.nodes b).term → (s.nodes a).leader ≠ "" →
        (s'.nodes b).leader ≠ "" →
        (s.nodes a).leader = (s'.nodes b).leader := by
  intro s s'
  have safe : Safe m s := after_safe before
  have advance : Advance m s s' := after_advance before after
  refine ⟨fun n => (safe.nodes n).leads, fun a b same led led' => ?_⟩
  have won := ((safe.nodes a).leads led).mono advance.votes
  rw [same] at won
  exact Won.unique advance.safe.once won ((advance.safe.nodes b).leads led')

end LastochkaServer.Guarantees.LeaderElection
