import LastochkaServer.Source.TagSets

/-!
# Setting tags

`replySetTags` (`server/topic.go:2955-3048`) and `hasDuplicateNamespaceTags`
(`server/utils.go:501-521`). The reply, the tags that are written to the store and the tags that
have been looked up are the result. Left out: notifications, and time stamps.
-/

namespace LastochkaServer.Source

/-- The topic, as far as tags go. -/
structure TaggedTopic where
  cat : TopicCat
  owner : Uid
  tags : List String

structure TagEnv where
  unicode : Unicode
  maxTagCount : Nat
  immutableTagNS : List String
  /-- Blank if there is none. -/
  aliasTagNS : String
  /-- `store.Users.FindOne`: the user or topic with the tag, or a blank. -/
  findOne : String → Except StoreError String
  updateFails : Bool

inductive TagsReply
  | operationNotAllowed | permissionDenied | notModified | malformed | unknown
  | noError (added removed : Nat)
  deriving DecidableEq

structure SetTagsResult where
  topic : TaggedTopic
  reply : TagsReply
  /-- The tags written to the store. -/
  stored : Option (List String) := none
  lookups : List String := []

section

variable (u : Unicode)

/-- The loop of `hasDuplicateNamespaceTags`, with the namespaces found so far. -/
def duplicateNamespace (uniqueNS : String) (found : List String) : List String → Bool
  | [] => false
  | tag :: rest =>
    match prefixedTag u tag with
    | none => duplicateNamespace uniqueNS found rest
    | some (p, _) =>
      (uniqueNS == p && found.contains p) || duplicateNamespace uniqueNS (p :: found) rest

def hasDuplicateNamespaceTags (src : List String) (uniqueNS : String) : Bool :=
  duplicateNamespace u uniqueNS [] src

/-- The tag is in the namespace. -/
def inNamespace (ns tag : String) : Bool := (prefixedTag u tag).any (·.1 == ns)

end

/-- The loop over tags that have to be unique: the tags looked up, and the reply if one is not
free. -/
def checkUnique (findOne : String → Except StoreError String) :
    List String → List String × Option TagsReply
  | [] => ([], none)
  | tag :: rest =>
    match findOne tag with
    | .error _ => ([tag], some .unknown)
    | .ok result =>
      if result ≠ "" then ([tag], some .malformed)
      else
        let (lookups, reply) := checkUnique findOne rest
        (tag :: lookups, reply)

section

variable (env : TagEnv) (t : TaggedTopic)

/-- The tags of the request in normal form. -/
def requestedTags (request : List String) : List String :=
  (normalizeTags env.unicode env.maxTagCount request).getD []

/-- The tags that are compared with those of others. In `me` these are the prefixes of the new
tags. -/
def addedTags (tags : List String) : List String :=
  let added := (stringSliceDelta t.tags tags).added
  match t.cat with
  | .me => (added.map fun tag => (validateTag env.unicode tag).1).filter (· ≠ "")
  | _ => added

def replySetTags (asUid : Uid) (request : List String) : SetTagsResult :=
  if t.cat ≠ .me ∧ t.cat ≠ .grp then { topic := t, reply := .operationNotAllowed }
  else if t.cat = .grp ∧ t.owner ≠ asUid then { topic := t, reply := .permissionDenied }
  else
    let tags := requestedTags env request
    if tags = [] then { topic := t, reply := .notModified }
    else if restrictedTagsEqual env.unicode t.tags tags env.immutableTagNS = false then
      { topic := t, reply := .permissionDenied }
    else if hasDuplicateNamespaceTags env.unicode tags env.aliasTagNS then
      { topic := t, reply := .malformed }
    else
      let added := addedTags env t tags
      let removed := (stringSliceDelta t.tags tags).removed
      if added = [] ∧ removed = [] then { topic := t, reply := .notModified }
      else
        -- It's not inside a transaction, so a race may happen.
        match checkUnique env.findOne (filterTags env.unicode added [env.aliasTagNS]) with
        | (lookups, some reply) => { topic := t, reply, lookups }
        | (lookups, none) =>
          if env.updateFails then { topic := t, reply := .unknown, lookups }
          else
            { topic := { t with tags }, reply := .noError added.length removed.length
              stored := some tags, lookups }

end

section

variable {u : Unicode} {tag ns : String} {tags : List String}

theorem prefixedTag_of_colon (absent : ':' ∉ tag.toList) : prefixedTag u tag = none := by
  unfold prefixedTag
  simp [absent]

theorem validateTag_prefix (tag : String) : prefixedTag u (validateTag u tag).1 = none := by
  refine prefixedTag_of_colon fun colon => ?_
  unfold validateTag at colon
  split at colon
  · next parts split =>
    unfold prefixedTag at split
    simp only [] at split
    split_ifs at split
    obtain rfl := Option.some.inj split
    simp only [String.toList_ofList] at colon
    exact absurd (List.mem_takeWhile_imp colon) (by simp)
  · split_ifs at colon <;> simp at colon

theorem prefixed_iff : (validateTag u tag).1 ≠ "" ↔ (prefixedTag u tag).isSome := by
  unfold validateTag
  split
  · next parts split =>
    refine iff_of_true ?_ (by simp [split])
    unfold prefixedTag at split
    simp only [] at split
    split_ifs at split with shape
    obtain rfl := Option.some.inj split
    intro blank
    have empty := congrArg String.toList blank
    rw [String.toList_ofList] at empty
    rw [empty] at shape
    exact absurd shape.2.1 (by simp)
  · next split =>
    split_ifs <;> simp [split]

theorem duplicateNamespace_false {found : List String}
    (clear : duplicateNamespace u ns found tags = false) :
    (tags.filter (inNamespace u ns)).length ≤ 1 ∧
    (ns ∈ found → tags.filter (inNamespace u ns) = []) := by
  induction tags generalizing found with
  | nil => simp
  | cons tag rest ih =>
    unfold duplicateNamespace at clear
    cases split : prefixedTag u tag with
    | none =>
      rw [split] at clear
      have outside : inNamespace u ns tag = false := by simp [inNamespace, split]
      rw [List.filter_cons, outside, if_neg Bool.false_ne_true]
      exact ih clear
    | some parts =>
      rw [split, Bool.or_eq_false_iff] at clear
      obtain ⟨here, later⟩ := clear
      by_cases inside : parts.1 = ns
      · have rest' := (ih later).2 (by simp [inside])
        have mem : inNamespace u ns tag := by simp [inNamespace, split, inside]
        rw [List.filter_cons, mem, if_pos rfl, rest']
        refine ⟨by simp, fun already => ?_⟩
        simp [inside, already] at here
      · have outside : inNamespace u ns tag = false := by simp [inNamespace, split, inside]
        rw [List.filter_cons, outside, if_neg Bool.false_ne_true]
        exact ⟨(ih later).1, fun already => (ih later).2 (List.mem_cons_of_mem _ already)⟩

theorem mem_filterTags :
    tag ∈ filterTags u tags [ns] ↔ tag ∈ tags ∧ inNamespace u ns tag := by
  simp [filterTags, inNamespace, beq_eq_decide]

end

theorem checkUnique_none {findOne : String → Except StoreError String} {tags lookups : List String}
    (free : checkUnique findOne tags = (lookups, none)) :
    lookups = tags ∧ ∀ tag ∈ tags, findOne tag = .ok "" := by
  induction tags generalizing lookups with
  | nil =>
    cases free
    exact ⟨rfl, by simp⟩
  | cons tag rest ih =>
    unfold checkUnique at free
    cases found : findOne tag with
    | error e =>
      rw [found] at free
      cases (Prod.mk.inj free).2
    | ok res =>
      rw [found] at free
      simp only [] at free
      split_ifs at free with taken
      · cases (Prod.mk.inj free).2
      · obtain ⟨rfl, last⟩ := Prod.mk.inj free
        obtain ⟨same, others⟩ := ih (Prod.ext rfl last)
        refine ⟨congrArg (tag :: ·) same, ?_⟩
        intro other mem
        rcases List.mem_cons.mp mem with rfl | mem
        · rw [found, not_not.mp taken]
        · exact others other mem

end LastochkaServer.Source
