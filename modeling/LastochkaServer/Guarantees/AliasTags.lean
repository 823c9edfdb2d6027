import LastochkaServer.Source.Topic.SetTags
import LastochkaServer.Guarantees.InviteAccounting

/-!
# New tags are checked

A request to set the tags of a group is accepted only if the new alias has been looked up and is
free, and there is one alias at most. In `me` the new tags are replaced by their prefixes before the
lookup, so that no alias is looked up, and the tags without a prefix are stored with the others.
-/

namespace LastochkaServer.Guarantees.AliasTags

open Source

variable (env : TagEnv) (t : TaggedTopic)

/-- If tags are stored, each new alias has been looked up and is free, there is one alias at most,
and in `me` each new tag has a prefix. -/
def Checked (result : SetTagsResult) : Prop :=
  ∀ tags, result.stored = some tags →
    (∀ tag ∈ tags, tag ∉ t.tags → inNamespace env.unicode env.aliasTagNS tag →
      tag ∈ result.lookups ∧ env.findOne tag = .ok "") ∧
    (tags.filter (inNamespace env.unicode env.aliasTagNS)).length ≤ 1 ∧
    (t.cat = .me → ∀ tag ∈ tags, tag ∉ t.tags → (prefixedTag env.unicode tag).isSome)

/-- A user sets new tags, one of which is an alias or has no prefix, and the request is accepted: it
leaves the restricted tags alone, has one alias at most, changes something that counts as a change,
and the store does not fail. -/
structure Slips (request : List String) : Prop where
  me : t.cat = .me
  restricted : restrictedTagsEqual env.unicode t.tags (requestedTags env request) env.immutableTagNS
  single : hasDuplicateNamespaceTags env.unicode (requestedTags env request) env.aliasTagNS = false
  changes : (∃ tag ∈ requestedTags env request, tag ∉ t.tags ∧ (prefixedTag env.unicode tag).isSome) ∨
    (stringSliceDelta t.tags (requestedTags env request)).removed ≠ []
  works : env.updateFails = false
  careless : ∃ tag ∈ requestedTags env request, tag ∉ t.tags ∧
    (inNamespace env.unicode env.aliasTagNS tag ∨ prefixedTag env.unicode tag = none)

variable {env t} {asUid : Uid} {request : List String}

theorem mem_newTags {tag : String} :
    tag ∈ (stringSliceDelta t.tags (requestedTags env request)).added ↔
      tag ∈ requestedTags env request ∧ tag ∉ t.tags :=
  mem_added_iff (normalizeTags_nodup env.unicode env.maxTagCount request)

/-- In `me` the tags to be compared are the prefixes of new tags. -/
theorem mem_addedTags_me (me : t.cat = .me) {p : String} :
    p ∈ addedTags env t (requestedTags env request) ↔
      ∃ tag ∈ requestedTags env request, tag ∉ t.tags ∧ (validateTag env.unicode tag).1 = p ∧
        p ≠ "" := by
  simp only [addedTags, me, List.mem_filter, List.mem_map, mem_newTags, decide_eq_true_eq]
  constructor
  · rintro ⟨⟨tag, ⟨mem, new⟩, same⟩, named⟩
    exact ⟨tag, mem, new, same, named⟩
  · rintro ⟨tag, mem, new, same, named⟩
    exact ⟨⟨tag, ⟨mem, new⟩, same⟩, named⟩

theorem addedTags_me_ne_nil (me : t.cat = .me) :
    addedTags env t (requestedTags env request) ≠ [] ↔
      ∃ tag ∈ requestedTags env request, tag ∉ t.tags ∧ (prefixedTag env.unicode tag).isSome := by
  rw [ne_eq, List.eq_nil_iff_forall_not_mem, not_forall]
  simp only [not_not, mem_addedTags_me me]
  constructor
  · rintro ⟨_, tag, mem, new, rfl, named⟩
    exact ⟨tag, mem, new, prefixed_iff.mp named⟩
  · rintro ⟨tag, mem, new, named⟩
    exact ⟨_, tag, mem, new, rfl, prefixed_iff.mpr named⟩

/-- Prefixes are in no namespace, so nothing is looked up in `me`. -/
theorem filterTags_addedTags_me (me : t.cat = .me) (ns : String) :
    filterTags env.unicode (addedTags env t (requestedTags env request)) [ns] = [] := by
  rw [List.eq_nil_iff_forall_not_mem]
  intro p mem
  obtain ⟨added, inside⟩ := mem_filterTags.mp mem
  obtain ⟨tag, -, -, rfl, -⟩ := (mem_addedTags_me me).mp added
  simp [inNamespace, validateTag_prefix] at inside

theorem replySetTags_stored {tags : List String}
    (stored : (replySetTags env t asUid request).stored = some tags) :
    tags = requestedTags env request ∧ (t.cat = .me ∨ t.cat = .grp) ∧
      restrictedTagsEqual env.unicode t.tags tags env.immutableTagNS ∧
      hasDuplicateNamespaceTags env.unicode tags env.aliasTagNS = false ∧
      (addedTags env t tags ≠ [] ∨ (stringSliceDelta t.tags tags).removed ≠ []) ∧
      env.updateFails = false ∧
      checkUnique env.findOne (filterTags env.unicode (addedTags env t tags) [env.aliasTagNS]) =
        ((replySetTags env t asUid request).lookups, none) := by
  unfold replySetTags at stored ⊢
  simp only [] at stored ⊢
  split_ifs at stored ⊢ with cat owner empty restricted duplicate same fails
  · split at stored <;> cases stored
  · split at stored
    · cases stored
    next lookups free =>
    obtain rfl := Option.some.inj stored
    simp only [free]
    refine ⟨trivial, ?_, Bool.of_not_eq_false restricted, Bool.of_not_eq_true duplicate,
      not_and_or.mp same, Bool.of_not_eq_true fails, trivial⟩
    by_contra neither
    exact cat (not_or.mp neither)

/-- In `me` everything that passes the checks is stored without a lookup. -/
theorem replySetTags_slips (asUid : Uid) (slips : Slips env t request) :
    (replySetTags env t asUid request).stored = some (requestedTags env request) ∧
      (replySetTags env t asUid request).lookups = [] := by
  obtain ⟨tag, mem, -⟩ := slips.careless
  have asked : requestedTags env request ≠ [] := List.ne_nil_of_mem mem
  have change : ¬ (addedTags env t (requestedTags env request) = [] ∧
      (stringSliceDelta t.tags (requestedTags env request)).removed = []) := by
    rintro ⟨added, kept⟩
    rcases slips.changes with new | removed
    · exact (addedTags_me_ne_nil slips.me).mpr new added
    · exact removed kept
  unfold replySetTags
  simp [slips.me, asked, slips.restricted, slips.single, change, filterTags_addedTags_me slips.me,
    checkUnique, slips.works]

/-- The tags of a request are checked before they are stored, unless a user sets a new alias or new
tags of which one has no prefix. -/
theorem new_tags_checked (env : TagEnv) (t : TaggedTopic) (asUid : Uid) (request : List String) :
    Checked env t (replySetTags env t asUid request) ↔ ¬ Slips env t request := by
  constructor
  · intro checked slips
    obtain ⟨stored, lookups⟩ := replySetTags_slips asUid slips
    obtain ⟨lookedUp, -, prefixed⟩ := checked _ stored
    obtain ⟨tag, member, new, inAlias | unprefixed⟩ := slips.careless
    · have found := (lookedUp tag member new inAlias).1
      rw [lookups] at found
      exact List.not_mem_nil found
    · have found := prefixed slips.me tag member new
      simp [unprefixed] at found
  · intro safe tags stored
    obtain ⟨rfl, cat, restricted, single, changes, works, free⟩ := replySetTags_stored stored
    obtain ⟨lookups, everyFree⟩ := checkUnique_none free
    -- A careless tag in `me` is what the condition excludes.
    have careful : t.cat = .me → ∀ tag ∈ requestedTags env request, tag ∉ t.tags →
        ¬ (inNamespace env.unicode env.aliasTagNS tag ∨ prefixedTag env.unicode tag = none) := by
      intro me tag member new careless
      exact safe ⟨me, restricted, single, changes.imp_left (addedTags_me_ne_nil me).mp, works, tag,
        member, new, careless⟩
    refine ⟨fun tag member new inAlias => ?_, (duplicateNamespace_false single).1,
      fun me tag member new => ?_⟩
    · rcases cat with me | grp
      · exact absurd (.inl inAlias) (careful me tag member new)
      · have added : tag ∈ addedTags env t (requestedTags env request) := by
          simp only [addedTags, grp]
          exact mem_newTags.mpr ⟨member, new⟩
        have chosen := mem_filterTags.mpr ⟨added, inAlias⟩
        exact ⟨lookups ▸ chosen, everyFree tag chosen⟩
    · rw [Option.isSome_iff_ne_none]
      exact fun unprefixed => careful me tag member new (.inr unprefixed)

/-- Somebody has the alias of Bob. -/
def bobTaken : TagEnv where
  unicode := InviteAccounting.ascii
  maxTagCount := 16
  immutableTagNS := ["basic"]
  aliasTagNS := "alias"
  findOne tag := .ok (if tag = "alias:bob" then "usrAQAAAAAAAAA" else "")
  updateFails := false

/-- Another user takes the alias of Bob, and a tag without a prefix, and nothing is looked up. -/
theorem taken_alias_stored :
    (replySetTags bobTaken ⟨.me, 0, ["basic:eve"]⟩ 2 ["basic:eve", "alias:bob", "flowers"]).stored =
        some ["alias:bob", "basic:eve", "flowers"] ∧
      (replySetTags bobTaken ⟨.me, 0, ["basic:eve"]⟩ 2
        ["basic:eve", "alias:bob", "flowers"]).lookups = [] ∧
      bobTaken.findOne "alias:bob" = .ok "usrAQAAAAAAAAA" ∧
      prefixedTag bobTaken.unicode "flowers" = none :=
  ⟨by decide, by decide, rfl, by decide⟩

end LastochkaServer.Guarantees.AliasTags
