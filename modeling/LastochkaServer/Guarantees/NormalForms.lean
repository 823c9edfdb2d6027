import LastochkaServer.Source.RegistrationOutcome
import LastochkaServer.Source.TagSets

/-!
# Normal forms of tags and credentials

`normalizeTags` and `normalizeCredentials` (`server/utils.go:116-136, 438-486`).

The tags that are left are sorted and different, and stay as they are when they are normalised again
(`tags_normalised`). Of several credentials of a method the comment in the source keeps the first.
The loop overwrites the entry of the method, so it is the last that is kept
(`credentials_first_iff`).
-/

namespace LastochkaServer.Guarantees.NormalForms

open Lib Source Wire

/-- Two ascending lists of the same tags are the same list. -/
theorem normalizeTags_again (u : Unicode) (limit : Nat) (src : List String) :
    (normalizeTags u limit ((normalizeTags u limit src).getD [])).getD [] =
    (normalizeTags u limit src).getD [] := by
  have same (tag : String) :
      tag ∈ (normalizeTags u limit ((normalizeTags u limit src).getD [])).getD [] ↔
      tag ∈ (normalizeTags u limit src).getD [] := by
    have kept : tag ∈ tagSet u limit ((normalizeTags u limit src).getD [] ++ []) ↔ _ :=
      mem_tagSet_append u (by simp)
    simpa [mem_normalizeTags] using kept
  have perm :=
    (List.perm_ext_iff_of_nodup (normalizeTags_nodup u limit _)
      (normalizeTags_nodup u limit src)).mpr same
  exact perm.eq_of_pairwise (fun _ _ _ _ first second => absurd second (lt_asymm first))
    (normalizeTags_ascending u limit _) (normalizeTags_ascending u limit src)

/-- The tags that are left ascend and are not more than allowed; each is the form of one that was
given, and each form that is acceptable is among them, unless a deleted value is looked at. -/
theorem tags_normalised (u : Unicode) (limit : Nat) (src : List String) :
    let tags := (normalizeTags u limit src).getD []
    tags.Pairwise (· < ·) ∧ tags.length ≤ limit ∧
      (∀ tag ∈ tags, wellFormedTag u tag ∧ ∃ raw ∈ src, u.lowerTrim raw = tag) ∧
      ((∀ raw ∈ src.take limit, u.lowerTrim raw ≠ nullValue) →
        ∀ raw ∈ src.take limit, wellFormedTag u (u.lowerTrim raw) → u.lowerTrim raw ∈ tags) ∧
      (normalizeTags u limit tags).getD [] = tags := by
  refine ⟨normalizeTags_ascending u limit src, ?_, fun tag kept => ?_,
    fun clean raw looked formed => ?_, normalizeTags_again u limit src⟩
  · rw [normalizeTags_length]
    exact tagSet_card_le u limit src
  · rw [mem_normalizeTags] at kept
    refine ⟨(tagSet_normal u kept).2, ?_⟩
    by_cases null : nullValue ∈ (src.take limit).map u.lowerTrim
    · rw [tagSet, if_pos null] at kept
      cases kept
    · obtain ⟨raw, looked, form⟩ := List.mem_map.mp ((mem_tagSet u null).mp kept).1
      exact ⟨raw, List.mem_of_mem_take looked, form⟩
  · have clean : nullValue ∉ (src.take limit).map u.lowerTrim := by
      intro null
      obtain ⟨raw, looked, form⟩ := List.mem_map.mp null
      exact clean raw looked form
    rw [mem_normalizeTags, mem_tagSet u clean]
    exact ⟨List.mem_map_of_mem looked, formed⟩

section

variable (validators : GoMap String Validator) (valueRequired : Bool)

/-- One credential is kept for each method of an acceptable one, and it is the first. -/
def FirstKept (creds kept : List MsgCredClient) : Prop :=
  (kept.map (·.method)).Nodup ∧ ∀ c, c ∈ kept ↔
    firstCredential validators valueRequired creds c.method = some c

/-- The first credential of each method is kept just when it is the last one as well. -/
theorem credentials_first_iff (visit : Visit) (creds : List MsgCredClient) :
    FirstKept validators valueRequired creds
      (normalizedCredentials validators valueRequired visit creds) ↔
      ∀ method, firstCredential validators valueRequired creds method =
        firstCredential validators valueRequired creds.reverse method := by
  simp only [FirstKept, normalizedCredentials_nodup, mem_normalizedCredentials, true_and]
  constructor
  · intro kept method
    refine Option.ext fun c => ⟨fun found => ?_, fun found => ?_⟩
    · obtain ⟨-, -, rfl⟩ := firstCredential_eq found
      exact (kept c).mpr found
    · obtain ⟨-, -, rfl⟩ := firstCredential_eq found
      exact (kept c).mp found
  · intro same c
    rw [same]

end

def email : GoMap String Validator :=
  (∅ : GoMap String Validator).insert "email"
    { preCheck := fun _ => .ok "", request := fun _ _ => .ok true }

def twoAddresses : List MsgCredClient :=
  [{ method := "email", value := "a@x.org" }, { method := "email", value := "b@x.org" }]

/-- Two addresses are given and the second is kept. -/
theorem second_address_kept :
    ¬ FirstKept email true twoAddresses
      (normalizedCredentials email true ⟨id, fun _ => .refl _⟩ twoAddresses) := by
  intro kept
  have first :=
    congrArg (Option.map (·.value)) ((kept.2 { method := "email", value := "b@x.org" }).mp (.head _))
  revert first
  decide

end LastochkaServer.Guarantees.NormalForms
