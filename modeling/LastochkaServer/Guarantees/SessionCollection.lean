import LastochkaServer.Source.Cluster.Network

/-!
# Garbage collection of proxy sessions

After a rehash a node terminates the proxy sessions of the nodes that are not in the ring any more.
It computes them from the names of all nodes, itself included, and looks each one up in the table of
the other nodes. A leader is always among its active nodes. A follower rehashes to the nodes that a
health check lists: if it is not one of them, it looks up itself, finds nil and dereferences it.

A follower is missing from the list when it has been out of reach. The first health check after its
return sets `rehashSkipped`, the next lists all nodes again and does not reset it, so that the first
health check after another absence is acted upon at once.
-/

namespace LastochkaServer.Guarantees.SessionCollection

open Lib Lib.Run Source Source.Clustering

variable {cfg : FailoverConfig} {m : Membership}

/-- A node that a health check makes rehash is in the list of nodes that it carries. -/
def Listed (m : Membership) (s : Net) : NetEvent → Prop
  | .deliver { src, dst, msg := .health h } =>
    { src, dst, msg := .health h } ∈ s.packets → s.idle m dst → Rehashes (s.nodes dst) h →
    dst ∈ h.nodes
  | _ => True

/-- No node has panicked. -/
def AllRun (s : Net) : Prop := ∀ n, s.stopped n = false

theorem stop_not_allRun (s : Net) (n : String) : ¬ AllRun (s.stop n) := by
  intro running
  have stopped := running n
  rw [Net.stop] at stopped
  simp at stopped

variable {s : Net}

theorem tick_stopped (tables : Tables m s) (n : String) (failed : List String) :
    (s.tick cfg m n failed).stopped = s.stopped := by
  unfold Net.tick Cluster.onTick
  split_ifs
  · have returns : ∃ c, (s.nodes n).sendHealthChecks cfg failed = .ok c :=
      sendHealthChecks_returns (tables.distinct n) failed
    obtain ⟨c, done⟩ := returns
    rw [done]
    rfl
  · rfl
  · rfl

/-- The only step that stops a node is a health check without that node. -/
theorem arrive_allRun_iff (tables : Tables m s) {p : Packet} (flying : p ∈ s.packets) :
    AllRun (s.arrive cfg m p) ↔ AllRun s ∧ Listed m s (.deliver p) := by
  obtain ⟨src, dst, msg⟩ := p
  unfold Net.arrive
  cases msg with
  | health h =>
    dsimp only
    split_ifs with idle
    · have returns : (∃ c, (s.nodes dst).onHealth cfg h = .ok c) ↔ _ :=
        onHealth_returns_iff (tables.distinct dst) h
      rw [(tables dst).1] at returns
      cases done : (s.nodes dst).onHealth cfg h with
      | ok c =>
        have listed := returns.mp ⟨c, done⟩
        exact ⟨fun running => ⟨running, fun _ _ => listed⟩, And.left⟩
      | error panic =>
        refine iff_of_false (stop_not_allRun _ dst) fun ⟨_, listed⟩ => ?_
        obtain ⟨c, done'⟩ := returns.mpr (listed flying idle)
        cases done.symm.trans done'
    · exact ⟨fun running => ⟨running, fun _ free => absurd free idle⟩, And.left⟩
  | voteRequest req =>
    dsimp only
    split <;> exact (and_iff_left trivial).symm
  | voteResponse election resp =>
    dsimp only
    split
    · split <;> exact (and_iff_left trivial).symm
    · exact (and_iff_left trivial).symm

theorem step_allRun_iff (tables : Tables m s) (e : NetEvent) :
    AllRun (s.step cfg m e) ↔ AllRun s ∧ Listed m s e := by
  cases e with
  | tick n failed =>
    dsimp [Net.step]
    split_ifs
    · rw [AllRun, tick_stopped tables]
      exact (and_iff_left trivial).symm
    · exact (and_iff_left trivial).symm
  | deliver p =>
    dsimp [Net.step]
    split_ifs with flying
    · exact arrive_allRun_iff tables flying
    · refine ⟨fun running => ⟨running, ?_⟩, And.left⟩
      obtain ⟨src, dst, msg⟩ := p
      cases msg with
      | health h => exact fun there => absurd there flying
      | voteRequest _ | voteResponse _ _ => trivial
  | lose p => exact (and_iff_left trivial).symm
  | callFailed n node =>
    dsimp [Net.step]
    split <;> exact (and_iff_left trivial).symm
  | timeout n =>
    dsimp [Net.step]
    split_ifs
    · split <;> exact (and_iff_left trivial).symm
    · exact (and_iff_left trivial).symm

theorem run_allRun_iff (events : List NetEvent) (tables : Tables m s) :
    AllRun (run (Net.step cfg m) s events) ↔ AllRun s ∧
      Guarded (Net.step cfg m) (Listed m) s events := by
  induction events generalizing s with
  | nil => exact (and_iff_left trivial).symm
  | cons e rest ih =>
    rw [run_cons, ih (step_tables tables e), step_allRun_iff tables, Guarded, and_assoc]

/-- In a run of the cluster every lookup of garbage collection finds its node, at every node,
exactly if no health check makes a node rehash without that node being listed. -/
theorem lookups_found_iff (cfg : FailoverConfig) (m : Membership) (events : List NetEvent) :
    (∀ n, (Net.after cfg m events).stopped n = false) ↔
      Guarded (Net.step cfg m) (Listed m) (Net.initial cfg m) events := by
  have tables : Tables m (Net.initial cfg m) := initial_tables
  exact (run_allRun_iff events tables).trans ⟨And.right, fun guarded => ⟨fun n => rfl, guarded⟩⟩

def threeNodes : Membership where
  members := ["A", "B", "C"]
  distinct := by decide
  named := by decide

/-- `A` is elected. `C` is out of reach for one health check, twice, and gets the health checks that
`A` sends when it has returned. -/
def lostTwice : List NetEvent :=
  let health (nodes : List String) : NetEvent :=
    .deliver
      { src := "A", dst := "C"
        msg := .health
          { leader := "A", term := 1, signature := (ringOver sampleConfig nodes).signature, nodes } }
  [.tick "A" [],
    .deliver { src := "A", dst := "B", msg := .voteRequest { node := "A", term := 1 } },
    .deliver { src := "B", dst := "A", msg := .voteResponse 1 { result := true, term := 1 } },
    -- `C` is lost, and found by the check that still lists `A` and `B` only.
    .tick "A" ["C"], .tick "A" [], health ["A", "B"],
    -- The next check lists all nodes.
    .tick "A" [], health ["A", "B", "C"],
    -- `C` is lost and found again.
    .tick "A" ["C"], .tick "A" [], health ["A", "B"]]

/-- The follower stops: it looks up itself in the table of the other nodes. -/
theorem lost_twice_stops : (Net.after sampleConfig threeNodes lostTwice).stopped "C" := by
  decide +kernel

end LastochkaServer.Guarantees.SessionCollection
