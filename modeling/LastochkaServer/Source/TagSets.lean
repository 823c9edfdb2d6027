import LastochkaServer.Source.Tags

/-!
# The tags that are kept

`normalizeTags` looks at the first tags of a list only, up to a maximum. `tagSet` says which tags it
keeps, and `normalizeTags_length` that it keeps each of them once; so the number of places that are
left for more tags is known (`mem_tagSet_append`).
-/

namespace LastochkaServer.Source

variable {tag prev : String} {maxTags : Nat} {src tags kept : List String}

/-- The front of a list that starts with no blank does not start with one either. -/
theorem dropWhile_front {p : Char → Bool} {l whole : List Char} (front : l <+: whole.dropWhile p) :
    l.dropWhile p = l := by
  cases l with
  | nil => rfl
  | cons c rest =>
    obtain ⟨tail, appended⟩ := front
    have first := List.head?_dropWhile_not p whole
    rw [← appended] at first
    exact List.dropWhile_cons_of_neg (by simpa using first)

namespace Unicode

variable (u : Unicode)

theorem dropWhile_lower (chars : List Char) :
    (chars.map u.lower).dropWhile u.isSpace = (chars.dropWhile u.isSpace).map u.lower := by
  rw [List.dropWhile_map]
  congr 1
  have same : u.isSpace ∘ u.lower = u.isSpace := funext u.space_lower
  rw [same]

theorem trimSpace_toList (s : String) :
    (u.trimSpace s).toList = ((s.toList.dropWhile u.isSpace).reverse.dropWhile u.isSpace).reverse :=
  String.toList_ofList

theorem trimSpace_toLower (s : String) : u.trimSpace (u.toLower s) = u.toLower (u.trimSpace s) := by
  rw [← String.toList_inj]
  simp [trimSpace_toList, LetterCase.toLower_toList, dropWhile_lower, ← List.map_reverse]

/-- What is left has a blank neither before nor after it. -/
theorem trimSpace_trimSpace (s : String) : u.trimSpace (u.trimSpace s) = u.trimSpace s := by
  rw [← String.toList_inj]
  simp only [trimSpace_toList]
  have front : ((s.toList.dropWhile u.isSpace).reverse.dropWhile u.isSpace).reverse <+:
      s.toList.dropWhile u.isSpace := List.rdropWhile_prefix _ _
  rw [dropWhile_front front, List.reverse_reverse, List.dropWhile_idempotent]

@[simp] theorem lowerTrim_lowerTrim (s : String) : u.lowerTrim (u.lowerTrim s) = u.lowerTrim s := by
  unfold lowerTrim
  rw [trimSpace_toLower, trimSpace_trimSpace, LetterCase.toLower_toLower]

/-- Text of ASCII without blanks and capital letters. -/
def plain (s : String) : Bool :=
  s.toList.all fun c => decide (c.toNat < 128 ∧ c.toLower = c) && !asciiSpace c

theorem lowerTrim_plain {s : String} (ascii : plain s) : u.lowerTrim s = s := by
  have each {c : Char} (mem : c ∈ s.toList) : u.lower c = c ∧ u.isSpace c = false := by
    have facts := List.all_eq_true.mp ascii c mem
    simp only [Bool.and_eq_true, decide_eq_true_eq, Bool.not_eq_true'] at facts
    exact ⟨(u.ascii c facts.1.1).trans facts.1.2, (u.space_ascii c facts.1.1).trans facts.2⟩
  have noBlank {l : List Char} (inside : ∀ c ∈ l, c ∈ s.toList) : l.dropWhile u.isSpace = l := by
    cases l with
    | nil => rfl
    | cons c rest =>
      exact List.dropWhile_cons_of_neg (by simp [(each (inside c (List.mem_cons_self ..))).2])
  have lower : s.toList.map u.lower = s.toList := by
    conv_rhs => rw [← List.map_id s.toList]
    exact List.map_congr_left fun c mem => (each mem).1
  rw [← String.toList_inj, lowerTrim, LetterCase.toLower_toList, trimSpace_toList,
    noBlank fun _ mem => mem,
    noBlank fun _ mem => List.mem_reverse.mp mem, List.reverse_reverse, lower]

end Unicode

section

variable (u : Unicode)

/-- The tags of a list that are kept: those among the first that are well formed, and none if a
deleted value is among the first. -/
def tagSet (maxTags : Nat) (src : List String) : Finset String :=
  let looked := (src.take maxTags).map u.lowerTrim
  if nullValue ∈ looked then ∅ else (looked.filter (wellFormedTag u)).toFinset

theorem mem_tagSet (noNull : nullValue ∉ (src.take maxTags).map u.lowerTrim) :
    tag ∈ tagSet u maxTags src ↔ tag ∈ (src.take maxTags).map u.lowerTrim ∧ wellFormedTag u tag := by
  unfold tagSet
  rw [if_neg noNull, List.mem_toFinset, List.mem_filter]

theorem wellFormedTag_ne_empty (formed : wellFormedTag u tag) : tag ≠ "" := by
  intro empty
  rw [empty] at formed
  cases formed

theorem wellFormedTag_ne_null (formed : wellFormedTag u tag) : tag ≠ nullValue := by
  intro null
  rw [null] at formed
  cases formed

theorem keepTags_none : keepTags u prev tags = none ↔ nullValue ∈ tags := by
  induction tags generalizing prev with
  | nil => simp [keepTags]
  | cons curr rest ih =>
    unfold keepTags
    by_cases null : curr = nullValue
    · simp [null]
    · rw [if_neg null]
      split
      · simp [ih, Ne.symm null]
      · simp [ih, Ne.symm null]

/-- The loop keeps what is well formed; what it has kept before is not kept again. -/
theorem mem_keepTags (looped : keepTags u prev tags = some kept) :
    tag ∈ kept ∨ tag = prev ↔ tag ∈ tags ∧ wellFormedTag u tag ∨ tag = prev := by
  induction tags generalizing prev kept with
  | nil =>
    cases looped
    simp
  | cons curr rest ih =>
    unfold keepTags at looped
    split at looped
    · cases looped
    split at looped
    · next good =>
      obtain ⟨kept', looped', rfl⟩ := Option.map_eq_some_iff.mp looped
      have rest_kept := ih looped'
      rw [List.mem_cons, List.mem_cons]
      constructor
      · rintro ((rfl | mem) | rfl)
        · exact .inl ⟨.inl rfl, good.1⟩
        · rcases rest_kept.mp (.inl mem) with ⟨there, formed⟩ | rfl
          · exact .inl ⟨.inr there, formed⟩
          · exact .inl ⟨.inl rfl, good.1⟩
        · exact .inr rfl
      · rintro (⟨rfl | there, formed⟩ | rfl)
        · exact .inl (.inl rfl)
        · rcases rest_kept.mpr (.inl ⟨there, formed⟩) with mem | rfl
          · exact .inl (.inr mem)
          · exact .inl (.inl rfl)
        · exact .inr rfl
    next bad =>
    rw [ih looped, List.mem_cons]
    constructor
    · rintro (⟨there, formed⟩ | rfl)
      · exact .inl ⟨.inr there, formed⟩
      · exact .inr rfl
    · rintro (⟨rfl | there, formed⟩ | rfl)
      · right
        by_contra other
        exact bad ⟨formed, other⟩
      · exact .inl ⟨there, formed⟩
      · exact .inr rfl

theorem keepTags_ascending (looped : keepTags u prev tags = some kept)
    (sorted : (prev :: tags).Pairwise (· ≤ ·)) :
    (prev :: kept).IsChain (· < ·) := by
  induction tags generalizing prev kept with
  | nil =>
    cases looped
    exact .singleton _
  | cons curr rest ih =>
    unfold keepTags at looped
    split at looped
    · cases looped
    split at looped
    · next good =>
      obtain ⟨kept', looped', rfl⟩ := Option.map_eq_some_iff.mp looped
      have above : prev ≤ curr := List.rel_of_pairwise_cons sorted (List.mem_cons_self ..)
      exact .cons_cons (lt_of_le_of_ne above (Ne.symm good.2))
        (ih looped' (List.pairwise_cons.mp sorted).2)
    · exact ih looped (sorted.sublist (List.sublist_cons_self curr rest |>.cons_cons prev))

theorem mem_sortedTags : tag ∈ sortedTags u maxTags src ↔ tag ∈ (src.take maxTags).map u.lowerTrim :=
  (List.perm_insertionSort _ _).mem_iff

theorem normalizeTags_getD (maxTags : Nat) (src : List String) :
    (normalizeTags u maxTags src).getD [] = (keepTags u "" (sortedTags u maxTags src)).getD [] := by
  unfold normalizeTags
  split
  · next dropped => rw [dropped, Option.getD_none, Option.getD_some]
  · next empty => rw [empty, Option.getD_none, Option.getD_some]
  · next kept => rw [kept]

theorem empty_le (s : String) : "" ≤ s := by
  exact List.not_lt_nil _

theorem keepTags_sortedTags (looped : keepTags u "" (sortedTags u maxTags src) = some kept) :
    ("" :: kept).Pairwise (· < ·) :=
  List.isChain_iff_pairwise.mp (keepTags_ascending u looped
    (List.pairwise_cons.mpr ⟨fun tag _ => empty_le tag, List.pairwise_insertionSort _ _⟩))

theorem mem_normalizeTags :
    tag ∈ (normalizeTags u maxTags src).getD [] ↔ tag ∈ tagSet u maxTags src := by
  rw [normalizeTags_getD]
  cases looped : keepTags u "" (sortedTags u maxTags src) with
  | none =>
    have null := (mem_sortedTags u).mp ((keepTags_none u).mp looped)
    have nothing : tagSet u maxTags src = ∅ := if_pos null
    rw [nothing]
    exact iff_of_false List.not_mem_nil (Finset.notMem_empty tag)
  | some kept =>
    have noNull : ¬ nullValue ∈ (src.take maxTags).map u.lowerTrim := by
      intro null
      have refused : keepTags u "" (sortedTags u maxTags src) = none :=
        (keepTags_none u).mpr ((mem_sortedTags u).mpr null)
      exact Option.some_ne_none kept (looped.symm.trans refused)
    rw [Option.getD_some, mem_tagSet u noNull, ← mem_sortedTags]
    constructor
    · intro mem
      rcases (mem_keepTags u looped).mp (.inl mem) with found | rfl
      · exact found
      · exact absurd (List.rel_of_pairwise_cons (keepTags_sortedTags u looped) mem) (lt_irrefl _)
    · intro found
      rcases (mem_keepTags u looped).mpr (.inl found) with mem | rfl
      · exact mem
      · exact absurd rfl (wellFormedTag_ne_empty u found.2)

theorem normalizeTags_ascending (maxTags : Nat) (src : List String) :
    ((normalizeTags u maxTags src).getD []).Pairwise (· < ·) := by
  rw [normalizeTags_getD]
  cases looped : keepTags u "" (sortedTags u maxTags src) with
  | none => exact .nil
  | some kept => exact (List.pairwise_cons.mp (keepTags_sortedTags u looped)).2

theorem normalizeTags_nodup (maxTags : Nat) (src : List String) :
    ((normalizeTags u maxTags src).getD []).Nodup :=
  (normalizeTags_ascending u maxTags src).imp ne_of_lt

theorem normalizeTags_length (maxTags : Nat) (src : List String) :
    ((normalizeTags u maxTags src).getD []).length = (tagSet u maxTags src).card := by
  have same : ((normalizeTags u maxTags src).getD []).toFinset = tagSet u maxTags src := by
    ext tag
    rw [List.mem_toFinset, mem_normalizeTags]
  rw [← same, List.toFinset_card_of_nodup (normalizeTags_nodup u maxTags src)]

theorem tagSet_card_le (maxTags : Nat) (src : List String) :
    (tagSet u maxTags src).card ≤ maxTags := by
  unfold tagSet
  dsimp only
  split
  · exact Nat.zero_le _
  · have filtered := ((src.take maxTags).map u.lowerTrim).length_filter_le (wellFormedTag u)
    have counted := (((src.take maxTags).map u.lowerTrim).filter (wellFormedTag u)).toFinset_card_le
    have taken := List.length_take_le maxTags src
    rw [List.length_map] at filtered
    omega

theorem tagSet_normal (kept : tag ∈ tagSet u maxTags src) :
    u.lowerTrim tag = tag ∧ wellFormedTag u tag := by
  unfold tagSet at kept
  dsimp only at kept
  split at kept
  · cases kept
  · obtain ⟨looked, formed⟩ := List.mem_filter.mp (List.mem_toFinset.mp kept)
    obtain ⟨raw, -, rfl⟩ := List.mem_map.mp looked
    exact ⟨u.lowerTrim_lowerTrim raw, formed⟩

/-- More tags after a list in normal form: they get the places that are left. -/
theorem mem_tagSet_append {more : List String}
    (noNull : nullValue ∉ (more.take (maxTags - (tagSet u maxTags src).card)).map u.lowerTrim) :
    tag ∈ tagSet u maxTags ((normalizeTags u maxTags src).getD [] ++ more) ↔
      tag ∈ tagSet u maxTags src ∨
        tag ∈ (more.take (maxTags - (tagSet u maxTags src).card)).map u.lowerTrim ∧
        wellFormedTag u tag := by
  set kept := (normalizeTags u maxTags src).getD [] with normal
  have counted : kept.length = (tagSet u maxTags src).card := normalizeTags_length u maxTags src
  have fits : kept.length ≤ maxTags := counted ▸ tagSet_card_le u maxTags src
  have each {t : String} (mem : t ∈ kept) : u.lowerTrim t = t ∧ wellFormedTag u t :=
    tagSet_normal u ((mem_normalizeTags u).mp mem)
  have same : kept.map u.lowerTrim = kept := by
    conv_rhs => rw [← List.map_id kept]
    exact List.map_congr_left fun t mem => (each mem).1
  have looked : ((kept ++ more).take maxTags).map u.lowerTrim =
      kept ++ (more.take (maxTags - (tagSet u maxTags src).card)).map u.lowerTrim := by
    rw [List.take_append, List.take_of_length_le fits, List.map_append, same, counted]
  have clean :
      nullValue ∉ kept ++ (more.take (maxTags - (tagSet u maxTags src).card)).map u.lowerTrim := by
    rw [List.mem_append, not_or]
    exact ⟨fun mem => wellFormedTag_ne_null u (each mem).2 rfl, noNull⟩
  rw [← looked] at clean
  rw [mem_tagSet u clean, looked, List.mem_append, ← mem_normalizeTags u, ← normal]
  constructor
  · rintro ⟨old | new, formed⟩
    · exact .inl old
    · exact .inr ⟨new, formed⟩
  · rintro (old | new)
    · exact ⟨.inl old, (each old).2⟩
    · exact ⟨.inr new.1, new.2⟩

end

end LastochkaServer.Source
