import LastochkaServer.Lib.Run
import LastochkaServer.Source.Cluster.Failover

/-!
# A cluster of nodes

All nodes of a cluster and the messages between them. A packet that is in flight may arrive at any
time, in any order, or never; the net/rpc connection delivers it once. A vote is the response to a
call and is attributed to the election that made the call; a call may also fail, whatever became of
its request. A node whose goroutine panics stops. No node is restarted.

`votes` records who has voted for whom. Nothing reads it.
-/

namespace LastochkaServer.Source.Clustering

open Lib

variable {s : Net} {n : String} {e : NetEvent}

/-- The configured nodes, the same for all. -/
structure Membership where
  members : List String
  distinct : members.Nodup
  /-- A node without a name runs as a standalone server. -/
  named : "" ∉ members

/-- The nodes in the table of a node. -/
def Membership.others (m : Membership) (n : String) : List String := m.members.filter (· ≠ n)

inductive Message
  | health (h : ClusterHealth)
  | voteRequest (req : ClusterVoteRequest)
  /-- The response to a call made in the election of the given term. -/
  | voteResponse (election : Nat) (resp : ClusterVoteResponse)
  deriving DecidableEq, Repr

structure Packet where
  src : String
  dst : String
  msg : Message
  deriving DecidableEq, Repr

structure Vote where
  voter : String
  term : Nat
  candidate : String
  deriving DecidableEq, Repr

structure Net where
  nodes : String → Cluster
  stopped : String → Bool
  packets : List Packet
  votes : List Vote

inductive NetEvent
  /-- The ticker of a node fires; `failed` lists the nodes that it cannot reach. -/
  | tick (n : String) (failed : List String)
  | deliver (p : Packet)
  | lose (p : Packet)
  /-- A call for a vote fails. -/
  | callFailed (n node : String)
  /-- The timer of an election fires. -/
  | timeout (n : String)

variable (cfg : FailoverConfig) (m : Membership)

def Net.initial : Net where
  nodes n := failoverInit cfg n (m.others n)
  stopped _ := false
  packets := []
  votes := []

/-- The same message to every other node. -/
def Net.broadcast (n : String) (msg : Message) : List Packet :=
  (m.others n).map fun dst => { src := n, dst, msg }

def Net.setNode (s : Net) (n : String) (c : Cluster) : Net :=
  { s with nodes := Function.update s.nodes n c }

def Net.stop (s : Net) (n : String) : Net := { s with stopped := Function.update s.stopped n true }

/-- The goroutine of the node is waiting for its next event. -/
def Net.idle (s : Net) (n : String) : Prop :=
  n ∈ m.members ∧ s.stopped n = false ∧ (s.nodes n).election = none
  deriving Decidable

/-- The node is waiting for the completion of a call to another node. -/
def Net.awaits (s : Net) (n node : String) : Option Election :=
  if n ∈ m.members ∧ s.stopped n = false then
    (s.nodes n).election.filter fun e => node ∈ e.pending
  else none

def Net.tick (s : Net) (n : String) (failed : List String) : Net :=
  match (s.nodes n).onTick cfg failed with
  | .error _ => s.stop n
  | .ok (.waiting c) => s.setNode n c
  | .ok (.healthChecks h c) =>
    { s.setNode n c with packets := s.packets ++ Net.broadcast m n (.health h) }
  | .ok (.election req c) =>
    { s.setNode n c with
      packets := s.packets ++ Net.broadcast m n (.voteRequest req)
      votes := s.votes ++ [{ voter := n, term := req.term, candidate := n }] }

/-- A packet arrives. -/
def Net.arrive (s : Net) (p : Packet) : Net :=
  let rest := { s with packets := s.packets.erase p }
  let n := p.dst
  match p.msg with
  | .health h =>
    if s.idle m n then
      match (s.nodes n).onHealth cfg h with
      | .ok c => rest.setNode n c
      | .error _ => rest.stop n
    else s
  | .voteRequest req =>
    if s.idle m n then
      let (c, resp) := (s.nodes n).onVote req
      { rest.setNode n c with
        packets := rest.packets ++ [{ src := n, dst := p.src, msg := .voteResponse req.term resp }]
        votes :=
          if resp.result then s.votes ++ [{ voter := n, term := req.term, candidate := req.node }]
          else s.votes }
    else s
  | .voteResponse election resp =>
    match s.awaits m n p.src with
    | some e =>
      if (s.nodes n).term = election then
        rest.setNode n ((s.nodes n).voteCompleted e p.src (some resp))
      else rest
    | none => rest

def Net.step (s : Net) : NetEvent → Net
  | .tick n failed => if s.idle m n then s.tick cfg m n failed else s
  | .deliver p => if p ∈ s.packets then s.arrive cfg m p else s
  | .lose p => { s with packets := s.packets.erase p }
  | .callFailed n node =>
    match s.awaits m n node with
    | some e => s.setNode n ((s.nodes n).voteCompleted e node none)
    | none => s
  | .timeout n =>
    if n ∈ m.members ∧ s.stopped n = false then
      match (s.nodes n).election with
      | some e => s.setNode n ((s.nodes n).voteTimedOut e)
      | none => s
    else s

/-- The state of the cluster after a sequence of events. -/
def Net.after (events : List NetEvent) : Net := Run.run (Net.step cfg m) (Net.initial cfg m) events

variable {cfg : FailoverConfig} {m : Membership}

theorem others_length (mem : n ∈ m.members) : (m.others n).length + 1 = m.members.length := by
  have erased : m.others n = m.members.erase n := by
    rw [m.distinct.erase_eq_filter n]
    exact List.filter_congr fun k _ => by by_cases same : k = n <;> simp [same]
  have pos : 0 < m.members.length := List.length_pos_of_mem mem
  rw [erased, List.length_erase_of_mem mem]
  omega

theorem others_nodup (n : String) : (m.others n).Nodup := m.distinct.filter _

theorem mem_others {k : String} : k ∈ m.others n ↔ k ∈ m.members ∧ k ≠ n := by
  simp [Membership.others]

/-- The node has moved without a look at its ring. -/
structure KeepsRing (c c' : Cluster) : Prop where
  self : c'.thisNodeName = c.thisNodeName
  nodes : c'.nodes = c.nodes
  ring : c'.ring = c.ring
  activeNodes : c'.activeNodes = c.activeNodes
  rehashSkipped : c'.rehashSkipped = c.rehashSkipped

/-- How an event moves a node of the cluster. -/
inductive Moved (cfg : FailoverConfig) (s : Net) (n : String) : NetEvent → Cluster → Prop
  | checks (failed : List String) (c : Cluster)
      (leads : (s.nodes n).leader = (s.nodes n).thisNodeName)
      (done : (s.nodes n).sendHealthChecks cfg failed = .ok c) : Moved cfg s n (.tick n failed) c
  | health (p : Packet) (h : ClusterHealth) (c : Cluster) (flying : p ∈ s.packets) (dst : p.dst = n)
      (msg : p.msg = .health h) (done : (s.nodes n).onHealth cfg h = .ok c) :
    Moved cfg s n (.deliver p) c
  | other (e : NetEvent) (c : Cluster) (kept : KeepsRing (s.nodes n) c) : Moved cfg s n e c

/-- A health check that is in flight after a step was before, or the sender was leading. -/
def HealthFrom (m : Membership) (s : Net) (p : Packet) : Prop :=
  p ∈ s.packets ∨ ∀ h, p.msg = .health h →
    p.src ∈ m.members ∧ (s.nodes p.src).leader = (s.nodes p.src).thisNodeName ∧
    h = (s.nodes p.src).healthMessage

/-- The effect of a step: it moves one node, or none. -/
structure Stepped (cfg : FailoverConfig) (m : Membership) (s : Net) (e : NetEvent)
    (s' : Net) : Prop where
  nodes : s'.nodes = s.nodes ∨
    ∃ n ∈ m.members, ∃ c, s'.nodes = Function.update s.nodes n c ∧ Moved cfg s n e c
  packets : ∀ p ∈ s'.packets, HealthFrom m s p

theorem awaits_some {node : String} {e : Election} (waits : s.awaits m n node = some e) :
    n ∈ m.members ∧ (s.nodes n).election = some e ∧ node ∈ e.pending := by
  unfold Net.awaits at waits
  split at waits
  · next alive =>
    obtain ⟨running, pending⟩ := Option.filter_eq_some_iff.mp waits
    exact ⟨alive.1, running, of_decide_eq_true pending⟩
  · cases waits

variable (c : Cluster)

theorem awaitVotes_keepsRing (e : Election) : KeepsRing c (c.awaitVotes e) := by
  unfold Cluster.awaitVotes
  split_ifs <;> exact ⟨rfl, rfl, rfl, rfl, rfl⟩

theorem electLeader_keepsRing : KeepsRing c { c with missed := 0 }.electLeader := by
  obtain ⟨self, nodes, ring, activeNodes, rehashSkipped⟩ :=
    awaitVotes_keepsRing { c with missed := 0, term := c.term + 1, leader := "" }
      { pending := c.names, i := 0, voteCount := 1 }
  exact ⟨self, nodes, ring, activeNodes, rehashSkipped⟩

theorem voteCompleted_keepsRing (e : Election) (node : String) (resp : Option ClusterVoteResponse) :
    KeepsRing c (c.voteCompleted e node resp) := by
  unfold Cluster.voteCompleted
  cases resp with
  | none => exact awaitVotes_keepsRing _ _
  | some r =>
    dsimp only
    split_ifs <;> exact awaitVotes_keepsRing _ _

theorem onVote_keepsRing (req : ClusterVoteRequest) : KeepsRing c (c.onVote req).1 := by
  unfold Cluster.onVote
  split_ifs <;> exact ⟨rfl, rfl, rfl, rfl, rfl⟩

theorem Stepped.still {s' : Net} (nodes : s'.nodes = s.nodes)
    (packets : ∀ p ∈ s'.packets, p ∈ s.packets) : Stepped cfg m s e s' :=
  ⟨.inl nodes, fun p mem => .inl (packets p mem)⟩

theorem Stepped.move {s' : Net} {c : Cluster} (mem : n ∈ m.members)
    (nodes : s'.nodes = Function.update s.nodes n c) (moved : Moved cfg s n e c)
    (packets : ∀ p ∈ s'.packets, HealthFrom m s p) : Stepped cfg m s e s' :=
  ⟨.inr ⟨n, mem, c, nodes, moved⟩, packets⟩

theorem tick_stepped (mem : n ∈ m.members) (failed : List String) :
    Stepped cfg m s (.tick n failed) (s.tick cfg m n failed) := by
  unfold Net.tick Cluster.onTick
  split_ifs with leads late
  · cases done : (s.nodes n).sendHealthChecks cfg failed with
    | error panic => exact .still rfl fun p old => old
    | ok c =>
      refine .move mem rfl (.checks failed c leads done) fun p sent => ?_
      rcases List.mem_append.mp sent with old | new
      · exact .inl old
      · obtain ⟨dst, -, rfl⟩ := List.mem_map.mp new
        refine .inr fun h msg => ⟨mem, leads, ?_⟩
        cases msg
        rfl
  · refine .move mem rfl (.other _ _ (electLeader_keepsRing _)) fun p sent => ?_
    rcases List.mem_append.mp sent with old | new
    · exact .inl old
    · obtain ⟨dst, -, rfl⟩ := List.mem_map.mp new
      exact .inr fun h msg => by cases msg
  · exact .move mem rfl (.other _ _ ⟨rfl, rfl, rfl, rfl, rfl⟩) fun p sent => .inl sent

theorem arrive_stepped {p : Packet} (flying : p ∈ s.packets) :
    Stepped cfg m s (.deliver p) (s.arrive cfg m p) := by
  have fewer : ∀ q ∈ s.packets.erase p, q ∈ s.packets := fun q mem => List.mem_of_mem_erase mem
  unfold Net.arrive
  cases msg : p.msg with
  | health h =>
    dsimp only
    split_ifs with idle
    · cases done : (s.nodes p.dst).onHealth cfg h with
      | ok c =>
        exact .move idle.1 rfl (.health p h c flying rfl msg done) fun q sent => .inl (fewer q sent)
      | error panic => exact .still rfl fewer
    · exact .still rfl fun q old => old
  | voteRequest req =>
    dsimp only
    by_cases idle : s.idle m p.dst
    · rw [if_pos idle]
      refine .move idle.1 rfl (.other _ _ (onVote_keepsRing _ req)) fun q sent => ?_
      rcases List.mem_append.mp sent with old | new
      · exact .inl (fewer q old)
      · cases List.mem_singleton.mp new
        exact .inr fun h msg => by cases msg
    · rw [if_neg idle]
      exact .still rfl fun q old => old
  | voteResponse election resp =>
    dsimp only
    split
    · next e waits =>
      split_ifs
      · exact .move (awaits_some waits).1 rfl (.other _ _ (voteCompleted_keepsRing _ _ _ _))
          fun q sent => .inl (fewer q sent)
      · exact .still rfl fewer
    · exact .still rfl fewer

theorem step_stepped (s : Net) (e : NetEvent) : Stepped cfg m s e (s.step cfg m e) := by
  cases e with
  | tick n failed =>
    dsimp [Net.step]
    split_ifs with idle
    · exact tick_stepped idle.1 failed
    · exact .still rfl fun q old => old
  | deliver p =>
    dsimp [Net.step]
    split_ifs with flying
    · exact arrive_stepped flying
    · exact .still rfl fun q old => old
  | lose p => exact .still rfl fun q mem => List.mem_of_mem_erase mem
  | callFailed n node =>
    dsimp [Net.step]
    split
    · next election waits =>
      exact .move (awaits_some waits).1 rfl (.other _ _ (voteCompleted_keepsRing _ _ _ _))
        fun q sent => .inl sent
    · exact .still rfl fun q old => old
  | timeout n =>
    dsimp [Net.step]
    split_ifs with alive
    · split
      · next election running =>
        exact .move alive.1 rfl (.other _ _ (awaitVotes_keepsRing _ _)) fun q sent => .inl sent
      · exact .still rfl fun q old => old
    · exact .still rfl fun q old => old

/-- Every node knows its own name and has the other configured nodes in its table. -/
def Tables (m : Membership) (s : Net) : Prop :=
  ∀ n, (s.nodes n).thisNodeName = n ∧ (s.nodes n).names = m.others n

theorem initial_tables : Tables m (Net.initial cfg m) := fun n => ⟨rfl, failoverInit_names n _⟩

theorem step_tables (tables : Tables m s) (e : NetEvent) : Tables m (s.step cfg m e) := by
  intro n
  have stepped : Stepped cfg m s e (s.step cfg m e) := step_stepped s e
  rcases stepped.nodes with same | ⟨k, -, c, moved, how⟩
  · rw [same]
    exact tables n
  · rw [moved]
    by_cases here : n = k
    · subst here
      rw [Function.update_self]
      have kept : c.thisNodeName = (s.nodes n).thisNodeName ∧ c.names = (s.nodes n).names := by
        cases how with
        | checks failed _ leads done =>
          have role := sendHealthChecks_sameRole done
          exact ⟨role.self, role.table⟩
        | health p h _ flying dst msg done =>
          obtain ⟨self, table, -⟩ := onHealth_role done
          exact ⟨self, table⟩
        | other _ _ kept => exact ⟨kept.self, congrArg (List.map ClusterNode.name) kept.nodes⟩
      exact ⟨kept.1.trans (tables n).1, kept.2.trans (tables n).2⟩
    · rw [Function.update_of_ne here]
      exact tables n

theorem Tables.distinct (tables : Tables m s) (n : String) :
    ((s.nodes n).thisNodeName :: (s.nodes n).names).Nodup := by
  rw [(tables n).1, (tables n).2]
  exact List.nodup_cons.mpr ⟨fun other => (mem_others.mp other).2 rfl, others_nodup n⟩

end LastochkaServer.Source.Clustering
