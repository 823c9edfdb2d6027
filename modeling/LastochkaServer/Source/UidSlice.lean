import LastochkaServer.Lib.Search
import LastochkaServer.Source.TopicName

/-!
# Sorted slices of users

`UidSlice` of `server/store/types/types.go:245-292`. An id is looked up by binary search, after a
look at both ends.
-/

namespace LastochkaServer.Source

open Lib

/-- `find`: where the id is or would be, and whether it is there. -/
def findUid (us : List Uid) (uid : Uid) : Nat × Bool :=
  if us.head?.all (uid < ·) then (0, false)
  else if us.getLast?.any (· < uid) then (us.length, false)
  else
    let idx := search us.length fun i => us[i]?.any (uid ≤ ·)
    (idx, us[idx]? == some uid)

/-- `Add`. The slice grows by one, and what is behind the place is moved. -/
def addUid (us : List Uid) (uid : Uid) : List Uid × Bool :=
  let (idx, found) := findUid us uid
  if found then (us, false)
  else
    let grown := us ++ [0]
    ((grown.take (idx + 1) ++ (grown.drop idx).take (us.length - idx)).set idx uid, true)

/-- `Rem`. -/
def remUid (us : List Uid) (uid : Uid) : List Uid × Bool :=
  let (idx, found) := findUid us uid
  if !found then (us, false)
  else if idx + 1 = us.length then (us.take idx, true)
  else (us.eraseIdx idx, true)

/-- `Contains`. -/
def containsUid (us : List Uid) (uid : Uid) : Bool := (findUid us uid).2

variable {us before after : List Uid} {uid : Uid}

/-- An ascending slice is cut where the id is or would be. -/
theorem findIdx_cut (ascends : us.Pairwise (· < ·)) (uid : Uid) :
    ∃ before after, us = before ++ after ∧ us.findIdx (uid ≤ ·) = before.length ∧
      (∀ v ∈ before, v < uid) ∧
      ∀ v ∈ after, uid ≤ v := by
  induction us with
  | nil => exact ⟨[], [], rfl, rfl, by simp, by simp⟩
  | cons first rest ih =>
    rw [List.pairwise_cons] at ascends
    by_cases here : uid ≤ first
    · exact ⟨[], first :: rest, rfl, by simp [List.findIdx_cons, here], by simp, by grind⟩
    · obtain ⟨before, after, rfl, place, below, above⟩ := ih ascends.2
      exact ⟨first :: before, after, rfl, by simp [List.findIdx_cons, here, place], by grind, above⟩

/-- The early answers are those of the search. With the id the slice is `before ++ uid :: after`,
without it `before ++ after`. -/
theorem findUid_cases (ascends : us.Pairwise (· < ·)) (uid : Uid) :
    ∃ before after, (before ++ uid :: after).Pairwise (· < ·) ∧
      (us = before ++ uid :: after ∧ findUid us uid = (before.length, true) ∨
        us = before ++ after ∧ findUid us uid = (before.length, false)) := by
  have mono : us.Pairwise fun a b => decide (uid ≤ a) → decide (uid ≤ b) := ascends.imp (by grind)
  obtain ⟨before, after, rfl, place, below, above⟩ := findIdx_cut ascends uid
  have answer : findUid (before ++ after) uid = (before.length, after.head? == some uid) := by
    unfold findUid
    rw [search_eq_findIdx mono, place]
    split
    · next early => cases before <;> cases after <;> simp at early ⊢ <;> grind
    split
    · next late =>
      have last : after.getLast? = none := by grind
      simp [List.getLast?_eq_none_iff.mp last]
    · simp [List.head?_eq_getElem?, List.getElem?_append_right]
  rw [answer]
  rw [List.pairwise_append] at ascends
  cases after with
  | nil => exact ⟨before, [], by grind, .inr ⟨rfl, rfl⟩⟩
  | cons v rest =>
    by_cases same : v = uid
    · exact ⟨before, rest, by grind, .inl ⟨by rw [same], by simp [same]⟩⟩
    · exact ⟨before, v :: rest, by grind, .inr ⟨rfl, by simp [same]⟩⟩

theorem addUid_absent
    (absent : findUid (before ++ after) uid = (before.length, false)) :
    addUid (before ++ after) uid = (before ++ uid :: after, true) := by
  simp only [addUid, absent]
  cases after <;> simp [List.take_append]

theorem remUid_present
    (present : findUid (before ++ uid :: after) uid = (before.length, true)) :
    remUid (before ++ uid :: after) uid = (before ++ after, true) := by
  simp only [remUid, present]
  cases after <;> simp [List.eraseIdx_append_of_length_le]

end LastochkaServer.Source
