import Mathlib.Data.Finset.Card

/-!
# Majorities

Members vote for candidates. A candidate is elected by the votes of more than half of the members.
Where every member votes for one candidate at most, no two candidates are elected.
-/

namespace LastochkaServer.Lib.Majority

variable {V C : Type} {members : Finset V} {voted : V → C → Prop} {c : C}

/-- More than half of the members have voted for the candidate. -/
def Elected (members : Finset V) (voted : V → C → Prop) (c : C) : Prop :=
  ∃ voters ⊆ members, members.card < 2 * voters.card ∧ ∀ v ∈ voters, voted v c

theorem Elected.mono {voted' : V → C → Prop}
    (kept : ∀ v, voted v c → voted' v c) (elected : Elected members voted c) :
    Elected members voted' c := by
  obtain ⟨voters, known, many, votes⟩ := elected
  exact ⟨voters, known, many, fun v mem => kept v (votes v mem)⟩

/-- Two majorities share a voter. -/
theorem Elected.unique [DecidableEq V]
    (once : ∀ v c c', voted v c → voted v c' → c = c') {c' : C} (elected : Elected members voted c)
    (elected' : Elected members voted c') : c = c' := by
  obtain ⟨voters, known, many, votes⟩ := elected
  obtain ⟨voters', known', many', votes'⟩ := elected'
  have overlap : (voters ∩ voters').Nonempty :=
    Finset.inter_nonempty_of_card_lt_card_add_card known known' (by omega)
  obtain ⟨v, shared⟩ := overlap
  obtain ⟨mem, member'⟩ := Finset.mem_inter.mp shared
  exact once v c c' (votes v mem) (votes' v member')

end LastochkaServer.Lib.Majority
