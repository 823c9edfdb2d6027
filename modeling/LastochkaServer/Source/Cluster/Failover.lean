import LastochkaServer.Lib.Except
import LastochkaServer.Source.Cluster.Ring
import LastochkaServer.Source.SliceDelta

/-!
# Failover of a cluster node

The goroutine `run` of `server/cluster_leader.go:87-347` and what it calls of
`server/cluster.go:822-835, 1111-1195`: a leader checks the health of the other nodes and takes
failed ones out of the ring, followers vote and rehash at the leader's request.

The goroutine serves one event at a time. It waits in `electLeader`, whose local variables are kept
in `election` until the loop ends; every other case of `run` is one step. Terms are unbounded: a
node does not live to see 2^63 elections. An empty list of nodes stands for nil. Left out:
statistics, the topics and sessions that a rehash affects, and the rehashing of topics in the hub.
-/

namespace LastochkaServer.Source.Clustering

open Lib

def clusterHashReplicas : Nat := 20

structure ClusterHealth where
  leader : String
  term : Nat
  signature : String
  nodes : List String
  deriving DecidableEq, Repr

structure ClusterVoteRequest where
  node : String
  term : Nat
  deriving DecidableEq, Repr

structure ClusterVoteResponse where
  result : Bool
  term : Nat
  deriving DecidableEq, Repr

/-- Another node of the cluster. -/
structure ClusterNode where
  name : String
  failCount : Nat := 0
  /-- The multiplexing sessions of the node. -/
  msess : List String := []
  deriving DecidableEq, Repr

/-- The local variables of `electLeader`, and the calls that have not completed. -/
structure Election where
  pending : List String
  i : Nat
  voteCount : Nat
  deriving DecidableEq, Repr

structure FailoverConfig where
  hashing : Hashing
  voteTimeout : Nat
  nodeFailCountLimit : Nat

/-- A configuration for small examples. Its signatures tell rings with different numbers of nodes
apart. -/
def sampleConfig : FailoverConfig where
  hashing := { hashfunc := (UInt32.ofNat ·.length), digest := (toString ·.length) }
  voteTimeout := 1
  nodeFailCountLimit := 1

/-- `Cluster` with its failover data and the local variables of `run`. -/
structure Cluster where
  thisNodeName : String
  nodes : List ClusterNode
  ring : Ring
  leader : String := ""
  term : Nat := 0
  activeNodes : List String
  missed : Nat := 0
  rehashSkipped : Bool := false
  election : Option Election := none
  deriving DecidableEq, Repr

/-- The names in the table of nodes. -/
def Cluster.names (c : Cluster) : List String := c.nodes.map (·.name)

/-- The lookup of a node that is not in the table gives nil, which is dereferenced. -/
inductive NodePanic
  | nilDereference (node : String)
  deriving DecidableEq, Repr

variable (cfg : FailoverConfig) (c : Cluster)

/-- The ring over a list of nodes. -/
def ringOver (nodes : List String) : Ring := Ring.add cfg.hashing clusterHashReplicas {} nodes

def Cluster.rehash (nodes : List String) : Cluster :=
  { c with ring := ringOver cfg (if nodes = [] then c.names ++ [c.thisNodeName] else nodes) }

def Cluster.isPartitioned : Bool := (c.nodes.length + 1) / 2 ≥ c.activeNodes.length

/-- `failoverInit`, for a node with the given name in a cluster with the given other nodes. -/
def failoverInit (thisNodeName : String) (others : List String) : Cluster :=
  let activeNodes := others ++ [thisNodeName]
  { thisNodeName, nodes := others.map fun name => { name }, ring := ringOver cfg activeNodes,
      activeNodes }

def Cluster.gcProxySessionsForNode (node : String) : Except NodePanic Cluster :=
  if node ∈ c.names then
    .ok { c with nodes := c.nodes.map fun n => if n.name = node then { n with msess := [] } else n }
  else .error (.nilDereference node)

def Cluster.gcProxySessions (activeNodes : List String) : Except NodePanic Cluster :=
  let allNodes := c.thisNodeName :: c.names
  (stringSliceDelta allNodes activeNodes).removed.foldlM Cluster.gcProxySessionsForNode c

def Cluster.healthMessage : ClusterHealth :=
  { leader := c.thisNodeName, term := c.term, signature := c.ring.signature, nodes := c.activeNodes }

/-- The outcome of the call to one node; `failed` says whether it returned an error. -/
def ClusterNode.checked (failed : Bool) (n : ClusterNode) : ClusterNode :=
  { n with failCount := if failed then n.failCount + 1 else 0 }

/-- The node has just failed too many times, or has recovered. -/
def ClusterNode.changed (limit : Nat) (failed : Bool) (n : ClusterNode) : Bool :=
  if failed then n.failCount + 1 = limit else n.failCount ≥ limit

/-- `sendHealthChecks`; `failed` lists the nodes for which the call returns an error. -/
def Cluster.sendHealthChecks (failed : List String) : Except NodePanic Cluster :=
  let limit := cfg.nodeFailCountLimit
  let c' := { c with nodes := c.nodes.map fun n => n.checked (n.name ∈ failed) }
  if c.nodes.any fun n => n.changed limit (n.name ∈ failed) then do
    let activeNodes := c.thisNodeName :: (c'.nodes.filter (·.failCount < limit)).map (·.name)
    let c'' ← (c'.rehash cfg activeNodes).gcProxySessions activeNodes
    -- `stringSliceDelta` has sorted the slice in place.
    return { c'' with activeNodes := sortStrings activeNodes }
  else .ok c'

/-- The branch for a health check from a wrong leader, which "should never happen". -/
def Cluster.wrongLeader (h : ClusterHealth) : Bool :=
  !(h.term < c.term) && !(h.term > c.term) && h.leader != c.leader && c.leader != ""

/-- The term and the leader that a health check leaves. -/
def Cluster.follow (h : ClusterHealth) : Cluster :=
  if h.term > c.term then { c with term := h.term, leader := h.leader }
  else if h.leader ≠ c.leader then { c with leader := h.leader }
  else c

/-- The health check from a leader in `run`. -/
def Cluster.onHealth (h : ClusterHealth) : Except NodePanic Cluster :=
  if h.term < c.term then .ok c
  else
    let c' := { c.follow h with missed := 0 }
    if h.signature ≠ c'.ring.signature then
      if c'.rehashSkipped then do
        let c'' ← (c'.rehash cfg h.nodes).gcProxySessions h.nodes
        return { c'' with rehashSkipped := false }
      else .ok { c' with rehashSkipped := true }
    else .ok c'

/-- The request for a vote in `run`. -/
def Cluster.onVote (req : ClusterVoteRequest) : Cluster × ClusterVoteResponse :=
  if c.term < req.term then
    ({ c with term := req.term, leader := "" }, { result := true, term := req.term })
  else (c, { result := false, term := c.term })

/-- The number of votes needed to elect the leader. -/
def Cluster.expectVotes : Nat := (c.nodes.length + 1) / 2 + 1

/-- The head of the loop of `electLeader`, and what follows the loop. -/
def Cluster.awaitVotes (e : Election) : Cluster :=
  if e.i < c.nodes.length ∧ e.voteCount < c.expectVotes then { c with election := some e }
  else if e.voteCount ≥ c.expectVotes then { c with election := none, leader := c.thisNodeName }
  else { c with election := none }

/-- `electLeader` up to its loop. -/
def Cluster.electLeader : Cluster :=
  let c' := { c with term := c.term + 1, leader := "" }
  c'.awaitVotes { pending := c.names, i := 0, voteCount := 1 }

/-- A call to a node has completed, with an error if there is no response. -/
def Cluster.voteCompleted (e : Election) (node : String) (resp : Option ClusterVoteResponse) :
    Cluster :=
  let pending := e.pending.erase node
  match resp with
  | none => c.awaitVotes { e with pending, i := e.i + 1 }
  | some r =>
    if r.result then c.awaitVotes { pending, i := e.i + 1, voteCount := e.voteCount + 1 }
    else if c.term < r.term then c.awaitVotes { pending, i := c.nodes.length + 1, voteCount := 0 }
    else c.awaitVotes { e with pending, i := e.i + 1 }

/-- The timer of `electLeader` fires. -/
def Cluster.voteTimedOut (e : Election) : Cluster := c.awaitVotes { e with i := c.nodes.length }

/-- What the ticker of `run` does. -/
inductive Ticked
  /-- The leader has sent the message to all other nodes. -/
  | healthChecks (h : ClusterHealth) (c : Cluster)
  /-- The node has asked all other nodes for their votes. -/
  | election (req : ClusterVoteRequest) (c : Cluster)
  | waiting (c : Cluster)

def Cluster.onTick (failed : List String) : Except NodePanic Ticked :=
  if c.leader = c.thisNodeName then do
    let c' ← c.sendHealthChecks cfg failed
    return .healthChecks c.healthMessage c'
  else if c.missed + 1 ≥ cfg.voteTimeout then
    .ok (.election { node := c.thisNodeName, term := c.term + 1 } { c with missed := 0 }.electLeader)
  else .ok (.waiting { c with missed := c.missed + 1 })

variable {cfg : FailoverConfig} {c c' : Cluster} {failed : List String} {h : ClusterHealth}

theorem failoverInit_names (thisNodeName : String) (others : List String) :
    (failoverInit cfg thisNodeName others).names = others := by
  change (others.map fun name => ({ name } : ClusterNode)).map (·.name) = others
  rw [List.map_map]
  exact List.map_id _

/-- The identity of a node and its part in the election are the same. -/
structure SameRole (c c' : Cluster) : Prop where
  self : c'.thisNodeName = c.thisNodeName
  table : c'.names = c.names
  term : c'.term = c.term
  leader : c'.leader = c.leader
  election : c'.election = c.election

theorem SameRole.refl (c : Cluster) : SameRole c c := ⟨rfl, rfl, rfl, rfl, rfl⟩

theorem SameRole.trans {c₁ c₂ c₃ : Cluster} (first : SameRole c₁ c₂) (second : SameRole c₂ c₃) :
    SameRole c₁ c₃ :=
  ⟨second.self.trans first.self, second.table.trans first.table, second.term.trans first.term,
    second.leader.trans first.leader, second.election.trans first.election⟩

/-- Garbage collection touches the multiplexing sessions only. -/
structure Collected (c c' : Cluster) : Prop extends SameRole c c' where
  ring : c'.ring = c.ring
  activeNodes : c'.activeNodes = c.activeNodes
  failCounts : c'.nodes.map (·.failCount) = c.nodes.map (·.failCount)
  missed : c'.missed = c.missed
  rehashSkipped : c'.rehashSkipped = c.rehashSkipped

theorem gcProxySessionsForNode_collected {node : String} (collected : Collected c c') {c'' : Cluster}
    (done : c'.gcProxySessionsForNode node = .ok c'') : Collected c c'' := by
  unfold Cluster.gcProxySessionsForNode at done
  split at done
  · cases done
    have names :
        (c'.nodes.map fun n => if n.name = node then { n with msess := [] } else n).map (·.name) =
        c'.nodes.map (·.name) := by
      rw [List.map_map]
      exact List.map_congr_left fun n _ => by simp only [Function.comp]; split <;> rfl
    have counts :
        (c'.nodes.map fun n => if n.name = node then { n with msess := [] } else n).map
        (·.failCount) =
        c'.nodes.map (·.failCount) := by
      rw [List.map_map]
      exact List.map_congr_left fun n _ => by simp only [Function.comp]; split <;> rfl
    exact { collected with
      table := names.trans collected.table
      failCounts := counts.trans collected.failCounts }
  · cases done

theorem gcProxySessions_collected {activeNodes : List String}
    (done : c.gcProxySessions activeNodes = .ok c') : Collected c c' :=
  foldlM_invariant (fun _ _ _ collected step => gcProxySessionsForNode_collected collected step)
    ⟨SameRole.refl c, rfl, rfl, rfl, rfl, rfl⟩ done

theorem sendHealthChecks_sameRole (done : c.sendHealthChecks cfg failed = .ok c') :
    SameRole c c' := by
  have names :
      (c.nodes.map fun n => n.checked (n.name ∈ failed)).map (·.name) = c.nodes.map (·.name) := by
    rw [List.map_map]
    rfl
  unfold Cluster.sendHealthChecks at done
  dsimp only at done
  split at done
  · obtain ⟨c'', collected, done⟩ := bind_ok done
    cases done
    obtain ⟨role, -⟩ := gcProxySessions_collected collected
    exact { role with table := role.table.trans names }
  · cases done
    exact ⟨rfl, names, rfl, rfl, rfl⟩

/-- A health check is ignored, or its sender is the leader of the node's term. -/
theorem onHealth_role (done : c.onHealth cfg h = .ok c') :
    c'.thisNodeName = c.thisNodeName ∧ c'.names = c.names ∧ c'.election = c.election ∧
      ((h.term < c.term ∧ c' = c) ∨ (c.term ≤ h.term ∧ c'.term = h.term ∧ c'.leader = h.leader)) := by
  unfold Cluster.onHealth at done
  by_cases stale : h.term < c.term
  · rw [if_pos stale] at done
    cases done
    exact ⟨rfl, rfl, rfl, .inl ⟨stale, rfl⟩⟩
  · rw [if_neg stale] at done
    have followed :
        SameRole { c with term := h.term, leader := h.leader } { c.follow h with missed := 0 } := by
      unfold Cluster.follow
      split_ifs with newer other
      · exact ⟨rfl, rfl, rfl, rfl, rfl⟩
      · have same : c.term = h.term := by omega
        exact ⟨rfl, rfl, same, rfl, rfl⟩
      · have same : c.term = h.term := by omega
        exact ⟨rfl, rfl, same, (not_not.mp other).symm, rfl⟩
    have kept : SameRole { c.follow h with missed := 0 } c' := by
      dsimp only at done
      split_ifs at done
      · obtain ⟨c'', collected, done⟩ := bind_ok done
        cases done
        obtain ⟨role, -⟩ := gcProxySessions_collected collected
        exact { role with }
      · cases done
        exact ⟨rfl, rfl, rfl, rfl, rfl⟩
      · cases done
        exact SameRole.refl _
    obtain ⟨self, table, term, leader, election⟩ := followed.trans kept
    exact ⟨self, table, election, .inr ⟨Nat.not_lt.mp stale, term, leader⟩⟩

/-- The health check makes the node rehash to the nodes that it lists. -/
def Rehashes (c : Cluster) (h : ClusterHealth) : Prop :=
  c.term ≤ h.term ∧ h.signature ≠ c.ring.signature ∧ c.rehashSkipped
  deriving Decidable

theorem ringOver_congr {nodes nodes' : List String} (same : nodes.Perm nodes') :
    ringOver cfg nodes = ringOver cfg nodes' := add_congr cfg.hashing clusterHashReplicas {} same

theorem follow_keeps (c : Cluster) (h : ClusterHealth) :
    ∃ term leader, c.follow h = { c with term, leader } := by
  unfold Cluster.follow
  split_ifs <;> exact ⟨_, _, rfl⟩

/-- A follower that rehashes leaves its list of active nodes as it is. -/
theorem onHealth_ring (done : c.onHealth cfg h = .ok c') :
    c'.activeNodes = c.activeNodes ∧
      (c'.ring = c.ring ∨ (Rehashes c h ∧ c'.ring = (c.rehash cfg h.nodes).ring)) := by
  obtain ⟨term, leader, followed⟩ := follow_keeps c h
  unfold Cluster.onHealth at done
  rw [followed] at done
  dsimp only at done
  split_ifs at done with stale differs skipped
  · cases done
    exact ⟨rfl, .inl rfl⟩
  · obtain ⟨c'', collected, done⟩ := bind_ok done
    cases done
    have kept := gcProxySessions_collected collected
    exact ⟨kept.activeNodes, .inr ⟨⟨Nat.not_lt.mp stale, differs, skipped⟩, kept.ring⟩⟩
  · cases done
    exact ⟨rfl, .inl rfl⟩
  · cases done
    exact ⟨rfl, .inl rfl⟩

/-- A leader changes the ring and the list of active nodes together, and stays in both. -/
theorem sendHealthChecks_ring (done : c.sendHealthChecks cfg failed = .ok c') :
    (c'.ring = c.ring ∧ c'.activeNodes = c.activeNodes) ∨
      ∃ alive, alive.Sublist c.names ∧ c'.ring = ringOver cfg (c.thisNodeName :: alive) ∧
        c'.activeNodes = sortStrings (c.thisNodeName :: alive) := by
  have names : (c.nodes.map fun n => n.checked (n.name ∈ failed)).map (·.name) = c.names := by
    rw [List.map_map]
    rfl
  unfold Cluster.sendHealthChecks at done
  dsimp only at done
  split_ifs at done
  · obtain ⟨c'', collected, done⟩ := bind_ok done
    cases done
    refine .inr ⟨_, ?_, (gcProxySessions_collected collected).ring, rfl⟩
    rw [← names]
    exact List.filter_sublist.map _
  · cases done
    exact .inl ⟨rfl, rfl⟩

theorem gcForNodes_returns_iff (nodes : List String) (c : Cluster) :
    (∃ c', nodes.foldlM Cluster.gcProxySessionsForNode c = .ok c') ↔
    ∀ node ∈ nodes, node ∈ c.names := by
  induction nodes generalizing c with
  | nil => simp [pure, Except.pure]
  | cons node rest ih =>
    rw [List.foldlM_cons, List.forall_mem_cons]
    by_cases known : node ∈ c.names
    · cases done : c.gcProxySessionsForNode node with
      | error panic =>
        rw [Cluster.gcProxySessionsForNode, if_pos known] at done
        cases done
      | ok c' =>
        have same : c'.names = c.names :=
          (gcProxySessionsForNode_collected ⟨SameRole.refl c, rfl, rfl, rfl, rfl, rfl⟩ done).table
        have rest_iff := ih c'
        rw [same] at rest_iff
        exact rest_iff.trans ⟨fun all => ⟨known, all⟩, And.right⟩
    · rw [Cluster.gcProxySessionsForNode, if_neg known]
      refine iff_of_false ?_ fun all => known all.1
      rintro ⟨c', done⟩
      cases done

section

variable (distinct : (c.thisNodeName :: c.names).Nodup)
include distinct

/-- Garbage collection looks up this node, which is not in the table, unless it is listed as
active. -/
theorem gcProxySessions_returns_iff (activeNodes : List String) :
    (∃ c', c.gcProxySessions activeNodes = .ok c') ↔ c.thisNodeName ∈ activeNodes := by
  have outside : c.thisNodeName ∉ c.names := (List.nodup_cons.mp distinct).1
  rw [Cluster.gcProxySessions, gcForNodes_returns_iff]
  constructor
  · intro known
    by_contra missing
    exact outside (known _ ((mem_removed_iff distinct).mpr ⟨List.mem_cons_self .., missing⟩))
  · intro active node removed
    obtain ⟨configured, missing⟩ := (mem_removed_iff distinct).mp removed
    rcases List.mem_cons.mp configured with rfl | other
    · exact absurd active missing
    · exact other

theorem sendHealthChecks_returns (failed : List String) :
    ∃ c', c.sendHealthChecks cfg failed = .ok c' := by
  unfold Cluster.sendHealthChecks
  dsimp only
  split_ifs
  · generalize listed : (c.thisNodeName :: _ : List String) = activeNodes
    have names : (c.nodes.map fun n => n.checked (n.name ∈ failed)).map (·.name) = c.names := by
      rw [List.map_map]
      rfl
    have table :
        (c.thisNodeName ::
          (c.nodes.map fun n => n.checked (n.name ∈ failed)).map (·.name)).Nodup := by
      rwa [names]
    obtain ⟨c', done⟩ := (gcProxySessions_returns_iff
      (c := Cluster.rehash cfg { c with nodes := c.nodes.map fun n => n.checked (n.name ∈ failed) }
        activeNodes)
      table activeNodes).mpr (listed ▸ List.mem_cons_self ..)
    rw [done]
    exact ⟨_, rfl⟩
  · exact ⟨_, rfl⟩

/-- A node survives a health check unless it rehashes to nodes without itself. -/
theorem onHealth_returns_iff (h : ClusterHealth) :
    (∃ c', c.onHealth cfg h = .ok c') ↔ (Rehashes c h → c.thisNodeName ∈ h.nodes) := by
  obtain ⟨term, leader, followed⟩ := follow_keeps c h
  unfold Cluster.onHealth
  rw [followed]
  dsimp only
  split_ifs with stale differs skipped
  · exact iff_of_true ⟨_, rfl⟩ fun rehashes => absurd stale (Nat.not_lt.mpr rehashes.1)
  · have collects := gcProxySessions_returns_iff
      (c := { c with term, leader, missed := 0 }.rehash cfg h.nodes) distinct h.nodes
    have rehashes : Rehashes c h := ⟨Nat.not_lt.mp stale, differs, skipped⟩
    rw [forall_prop_of_true rehashes]
    refine Iff.trans ?_ collects
    constructor
    · rintro ⟨c', done⟩
      obtain ⟨c'', collected, -⟩ := bind_ok done
      exact ⟨c'', collected⟩
    · rintro ⟨c'', collected⟩
      rw [collected]
      exact ⟨_, rfl⟩
  · exact iff_of_true ⟨_, rfl⟩ fun rehashes => absurd rehashes.2.2 skipped
  · exact iff_of_true ⟨_, rfl⟩ fun rehashes => absurd rehashes.2.1 differs

end

end LastochkaServer.Source.Clustering
