import LastochkaServer.Source.Cluster.Network

/-!
# The ring and the active nodes

A leader that takes nodes out of the ring changes the ring and its list of active nodes together. A
follower that rehashes at the leader's request changes the ring only: its list of active nodes is
the one it started with, or the one from its own time as a leader. `isPartitioned` reads that list,
and a follower that is elected later sends it in its health checks next to the signature of another
ring.

As long as no follower rehashes to nodes other than its active ones, the two agree on every node.
-/

namespace LastochkaServer.Guarantees.RingAgreement

open Lib Lib.Run Source Source.Clustering

variable {cfg : FailoverConfig} {m : Membership}

/-- The configured nodes that are in the ring of a node. -/
def inRing (m : Membership) (c : Cluster) : List String := m.members.filter (· ∈ c.ring.nodes)

/-- The ring, the active nodes, `isPartitioned` and the health checks tell the same. -/
structure Consistent (cfg : FailoverConfig) (m : Membership) (s : Net) : Prop where
  ring : ∀ n ∈ m.members, (s.nodes n).ring = ringOver cfg (s.nodes n).activeNodes
  health : ∀ p ∈ s.packets, ∀ h, p.msg = .health h → h.signature = (ringOver cfg h.nodes).signature
  partitioned : ∀ n ∈ m.members,
    (s.nodes n).isPartitioned ↔ (inRing m (s.nodes n)).length < m.members.length / 2 + 1

/-- The event does not make a follower rehash to nodes other than its active ones. -/
def Agreeing (s : Net) : NetEvent → Prop
  | .deliver { dst, msg := .health h, .. } =>
    Rehashes (s.nodes dst) h → h.nodes.Perm (s.nodes dst).activeNodes
  | _ => True

instance (s : Net) : (e : NetEvent) → Decidable (Agreeing s e)
  | .deliver ⟨_, dst, .health h⟩ =>
    inferInstanceAs (Decidable (Rehashes (s.nodes dst) h → h.nodes.Perm (s.nodes dst).activeNodes))
  | .deliver ⟨_, _, .voteRequest _⟩ | .deliver ⟨_, _, .voteResponse _ _⟩ => .isTrue trivial
  | .tick _ _ | .lose _ | .callFailed _ _ | .timeout _ => .isTrue trivial

/-- What makes the ring of a node agree with its active nodes, step by step. -/
structure RingOk (cfg : FailoverConfig) (m : Membership) (n : String) (c : Cluster) : Prop where
  self : c.thisNodeName = n
  table : c.names = m.others n
  own : n ∈ c.activeNodes
  distinct : c.activeNodes.Nodup
  known : ∀ k ∈ c.activeNodes, k ∈ m.members
  ring : c.ring = ringOver cfg c.activeNodes

structure Ok (cfg : FailoverConfig) (m : Membership) (s : Net) : Prop where
  nodes : ∀ n ∈ m.members, RingOk cfg m n (s.nodes n)
  health : ∀ p ∈ s.packets, ∀ h, p.msg = .health h → h.signature = (ringOver cfg h.nodes).signature

theorem initial_ok : Ok cfg m (Net.initial cfg m) where
  nodes n mem := by
    refine ⟨rfl, failoverInit_names n _, List.mem_append_right _ (List.mem_singleton.mpr rfl), ?_,
      fun k active => ?_, rfl⟩
    · refine List.nodup_append.mpr
        ⟨others_nodup n, List.nodup_singleton n, fun k other k' self same => ?_⟩
      exact (mem_others.mp other).2 (same.trans (List.mem_singleton.mp self))
    · rcases List.mem_append.mp active with other | self
      · exact (mem_others.mp other).1
      · cases List.mem_singleton.mp self
        exact mem
  health := by simp [Net.initial]

section

variable {n : String} {c c' : Cluster} (ok : RingOk cfg m n c)

include ok

theorem RingOk.keep (kept : KeepsRing c c') : RingOk cfg m n c' := by
  have names : c'.names = c.names := by rw [Cluster.names, kept.nodes, Cluster.names]
  refine ⟨kept.self.trans ok.self, names.trans ok.table, ?_, ?_, ?_, ?_⟩ <;> rw [kept.activeNodes]
  · exact ok.own
  · exact ok.distinct
  · exact ok.known
  · exact kept.ring.trans ok.ring

/-- A leader keeps itself among the active nodes and takes the others from its table. -/
theorem RingOk.checks (mem : n ∈ m.members) {failed : List String}
    (done : c.sendHealthChecks cfg failed = .ok c') : RingOk cfg m n c' := by
  have role := sendHealthChecks_sameRole done
  rcases sendHealthChecks_ring done with ⟨ring, active⟩ | ⟨alive, some_others, ring, active⟩
  · exact ⟨role.self.trans ok.self, role.table.trans ok.table, active ▸ ok.own, active ▸ ok.distinct,
      active ▸ ok.known, by rw [ring, active, ok.ring]⟩
  · have sorted : c'.activeNodes.Perm (n :: alive) := by
      rw [active, ← ok.self]
      exact List.perm_insertionSort _ _
    have others : ∀ k ∈ alive, k ∈ m.members ∧ k ≠ n := fun k here =>
      mem_others.mp (ok.table ▸ some_others.subset here)
    have nodup : alive.Nodup := some_others.nodup (ok.table ▸ m.distinct.filter _)
    refine ⟨role.self.trans ok.self, role.table.trans ok.table, ?_, ?_, fun k here => ?_, ?_⟩
    · exact sorted.mem_iff.mpr (List.mem_cons_self ..)
    · exact sorted.nodup_iff.mpr (List.nodup_cons.mpr ⟨fun here => (others n here).2 rfl, nodup⟩)
    · rcases List.mem_cons.mp (sorted.mem_iff.mp here) with rfl | here
      · exact mem
      · exact (others k here).1
    · rw [ring, ok.self]
      exact ringOver_congr sorted.symm

theorem RingOk.health {h : ClusterHealth} (agrees : Rehashes c h → h.nodes.Perm c.activeNodes)
    (done : c.onHealth cfg h = .ok c') : RingOk cfg m n c' := by
  obtain ⟨self, table, -, -⟩ := onHealth_role done
  obtain ⟨active, ring⟩ := onHealth_ring done
  have agreed : c'.ring = ringOver cfg c.activeNodes := by
    rcases ring with same | ⟨rehashes, rehashed⟩
    · rw [same, ok.ring]
    · have nodes := agrees rehashes
      have listed : h.nodes ≠ [] := by
        intro empty
        rw [empty] at nodes
        exact List.not_mem_nil (nodes.nil_eq ▸ ok.own)
      rw [rehashed, Cluster.rehash, if_neg listed]
      exact ringOver_congr nodes
  refine ⟨self.trans ok.self, table.trans ok.table, ?_, ?_, ?_, ?_⟩ <;> rw [active]
  · exact ok.own
  · exact ok.distinct
  · exact ok.known
  · exact agreed

end

theorem step_ok {s : Net} {e : NetEvent} (ok : Ok cfg m s) (agrees : Agreeing s e) :
    Ok cfg m (s.step cfg m e) := by
  have stepped : Stepped cfg m s e (s.step cfg m e) := step_stepped s e
  obtain ⟨nodes, packets⟩ := stepped
  refine ⟨fun n mem => ?_, fun p flying h msg => ?_⟩
  · rcases nodes with same | ⟨k, known, c, moved, how⟩
    · rw [same]
      exact ok.nodes n mem
    · rw [moved]
      by_cases here : n = k
      · subst here
        rw [Function.update_self]
        cases how with
        | checks failed _ leads done => exact (ok.nodes n mem).checks mem done
        | health p h _ flying dst msg done =>
          obtain ⟨src, dst', msg'⟩ := p
          cases dst
          cases msg
          exact (ok.nodes _ mem).health agrees done
        | other _ _ kept => exact (ok.nodes n mem).keep kept
      · rw [Function.update_of_ne here]
        exact ok.nodes n mem
  · rcases packets p flying with old | sent
    · exact ok.health p old h msg
    · obtain ⟨mem, -, rfl⟩ := sent h msg
      exact congrArg Ring.signature (ok.nodes _ mem).ring

theorem run_ok {events : List NetEvent}
    (agrees : Guarded (Net.step cfg m) Agreeing (Net.initial cfg m) events) :
    Ok cfg m (Net.after cfg m events) := by
  have preserved : ∀ (s : Net) (e : NetEvent), Ok cfg m s → Agreeing s e →
      Ok cfg m (s.step cfg m e) :=
    fun _ _ => step_ok
  exact run_invariant preserved initial_ok agrees

theorem RingOk.inRing_length {n : String} {c : Cluster} (ok : RingOk cfg m n c) :
    (inRing m c).length = c.activeNodes.length := by
  have same : (inRing m c).Perm c.activeNodes := by
    refine (List.perm_ext_iff_of_nodup (m.distinct.filter _) ok.distinct).mpr fun k => ?_
    rw [List.mem_filter, decide_eq_true_iff, ok.ring, ringOver, mem_nodes_add (by decide)]
    exact ⟨And.right, fun active => ⟨ok.known k active, active⟩⟩
  exact same.length_eq

/-- In a run in which no follower rehashes to nodes other than its active ones, rings, lists of
active nodes, `isPartitioned` and health checks agree in every state. -/
theorem consistent_while_agreeing (cfg : FailoverConfig) (m : Membership) (events : List NetEvent)
    (agrees : Guarded (Net.step cfg m) Agreeing (Net.initial cfg m) events) :
    Consistent cfg m (Net.after cfg m events) := by
  have ok : Ok cfg m (Net.after cfg m events) := run_ok agrees
  refine ⟨fun n member => (ok.nodes n member).ring, ok.health, fun n member => ?_⟩
  have node := ok.nodes n member
  have size : ((Net.after cfg m events).nodes n).nodes.length + 1 = m.members.length := by
    rw [← others_length member, ← node.table, Cluster.names, List.length_map]
  rw [Cluster.isPartitioned, decide_eq_true_iff, node.inRing_length, size]
  omega

def fiveNodes : Membership where
  members := ["A", "B", "C", "D", "E"]
  distinct := by decide
  named := by decide

/-- The candidate asks for votes and two other nodes vote for it. -/
def electedBy (candidate first second : String) (term : Nat) : List NetEvent :=
  let request (dst : String) : NetEvent :=
    .deliver { src := candidate, dst, msg := .voteRequest { node := candidate, term } }
  let response (src : String) : NetEvent :=
    .deliver { src, dst := candidate, msg := .voteResponse term { result := true, term } }
  [.tick candidate [], request first, request second, response first, response second]

/-- `A` loses three nodes, and `B` gets two health checks with the new list of nodes. -/
def followerRehash : List NetEvent :=
  let health : NetEvent :=
    .deliver
      { src := "A", dst := "B"
        msg := .health
          { leader := "A", term := 1, signature := (ringOver sampleConfig ["A", "B"]).signature,
            nodes := ["A", "B"] } }
  electedBy "A" "B" "C" 1 ++
    [.tick "A" ["C", "D", "E"], .tick "A" ["C", "D", "E"], .tick "A" ["C", "D", "E"], health, health]

/-- `B` keeps all five nodes as active with two of them in its ring and does not take itself for
partitioned. Once elected, it sends the five names next to the signature of the ring of two. -/
theorem follower_rehash_disagrees :
    ((Net.after sampleConfig fiveNodes followerRehash).nodes "B").ring ≠
        ringOver sampleConfig
          ((Net.after sampleConfig fiveNodes followerRehash).nodes "B").activeNodes ∧
      ((Net.after sampleConfig fiveNodes followerRehash).nodes "B").isPartitioned = false ∧
      inRing fiveNodes ((Net.after sampleConfig fiveNodes followerRehash).nodes "B") = ["A", "B"] ∧
      (∃ p ∈ (Net.after sampleConfig fiveNodes
          (followerRehash ++ electedBy "B" "C" "D" 2 ++ [.tick "B" []])).packets,
        p.msg = .health
          { leader := "B", term := 2, signature := "40", nodes := ["A", "C", "D", "E", "B"] }) ∧
      (ringOver sampleConfig ["A", "C", "D", "E", "B"]).signature = "100" := by
  decide +kernel

/-- A leader alone with two of five nodes agrees with its ring and is partitioned. -/
theorem leader_rehash_consistent :
    Guarded (Net.step sampleConfig fiveNodes) Agreeing (Net.initial sampleConfig fiveNodes)
        (electedBy "A" "B" "C" 1 ++ [.tick "A" ["C", "D", "E"]]) ∧
      Consistent sampleConfig fiveNodes
        (Net.after sampleConfig fiveNodes
          (electedBy "A" "B" "C" 1 ++ [.tick "A" ["C", "D", "E"]])) := by
  have agrees :
      Guarded (Net.step sampleConfig fiveNodes) Agreeing (Net.initial sampleConfig fiveNodes)
      (electedBy "A" "B" "C" 1 ++ [.tick "A" ["C", "D", "E"]]) := by decide +kernel
  exact ⟨agrees, consistent_while_agreeing sampleConfig fiveNodes _ agrees⟩

end LastochkaServer.Guarantees.RingAgreement
