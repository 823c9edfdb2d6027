import LastochkaServer.Source.AccessMode

/-!
# Changes of access modes as text

`Delta`, `ApplyMutation` and `ApplyDelta` of `server/store/types/types.go:712-787`. A mutation is
either a mode, which is assigned, or a list of chunks, each with a sign, of permissions to add or to
remove. The source reads bytes; a text is read here by characters, which differ only where both are
refused.

Applied to what a mutation was computed from, `delta` gives the new mode (`applyMutation_delta`).
Any mutation only sets and clears bits, so that a second application has no effect
(`applyMutation_again`).
-/

namespace LastochkaServer.Source.AccessMode

variable {m bits n : AccessMode} {text : String} {letters rest : List Char}
  {f : AccessMode → Except String AccessMode} {ch : Char}

/-- `IsDefined`: neither invalid nor unset. -/
def isDefined (m : AccessMode) : Bool := m ≠ modeInvalid ∧ m ≠ modeUnset

def isZero (m : AccessMode) : Bool := m = modeNone

/-- A sign and the permissions, nothing if there are none. -/
def signed (sign : String) (bits : AccessMode) : String :=
  if bits ≠ 0 then
    let text := bits.string
    if text ≠ "" then sign ++ text else ""
  else ""

/-- `o.Delta(n)`: what is added and what is removed. -/
def delta (o n : AccessMode) : String :=
  let removed := signed "-" (modeBitmask &&& o &&& ~~~n)
  let added := signed "+" (modeBitmask &&& n &&& ~~~o)
  added ++ removed

def isSign (c : Char) : Bool := c = '+' || c = '-'

/-- One chunk of a delta. -/
def applyChunk (text : String) (m0 : AccessMode) (ch : Char) (chunk : List Char) :
    Except String AccessMode := do
  let upd ← parseAcsFrom modeUnset chunk
  if ch = '+' then return if upd ≠ modeUnset then m0 ||| (upd &&& modeBitmask) else m0
  else if ch = '-' then return if upd ≠ modeUnset then m0 &&& ~~~(upd &&& modeBitmask) else m0
  else throw ("Invalid acs delta string: '" ++ text ++ "'")

/-- The loop of `ApplyDelta`. It stops at the last character: a sign with nothing after it is not
read. -/
def applyDeltaFrom (text : String) (m0 : AccessMode) : List Char → Except String AccessMode
  | [] => .ok m0
  | [_] => .ok m0
  | ch :: c :: rest => do
    let m0 ← applyChunk text m0 ch ((c :: rest).takeWhile fun c => !isSign c)
    applyDeltaFrom text m0 ((c :: rest).dropWhile fun c => !isSign c)
termination_by delta => delta.length
decreasing_by
  have shorter := (List.dropWhile_sublist (l := c :: rest) fun c => !isSign c).length_le
  simp only [List.length_cons] at shorter ⊢
  omega

def applyDelta (m : AccessMode) (delta : String) : Except String AccessMode :=
  if delta = "" ∨ delta = "N" then .ok m else applyDeltaFrom delta m delta.toList

def applyMutation (m : AccessMode) (mutation : String) : Except String AccessMode :=
  if mutation = "" then .ok m
  else if mutation.toList.any isSign then applyDelta m mutation
  else m.unmarshalText mutation

/-- The function fails on all modes alike, or keeps some bits and sets some. -/
def Masking (f : AccessMode → Except String AccessMode) : Prop :=
  (∃ e, ∀ m, f m = .error e) ∨ ∃ keep put : AccessMode, ∀ m, f m = .ok (m &&& keep ||| put)

theorem masking_ok : Masking .ok :=
  .inr ⟨BitVec.allOnes 64, 0#64, fun m => by rw [BitVec.and_allOnes, BitVec.or_zero]⟩

theorem masking_error (e : String) : Masking fun _ => .error e := .inl ⟨e, fun _ => rfl⟩

theorem Masking.bind {g : AccessMode → Except String AccessMode} (first : Masking f)
    (second : Masking g) :
    Masking fun m => f m >>= g := by
  rcases first with ⟨e, fails⟩ | ⟨keep, put, acts⟩
  · exact .inl ⟨e, fun m => congrArg (· >>= g) (fails m)⟩
  · rcases second with ⟨e, fails⟩ | ⟨keep', put', acts'⟩
    · exact .inl ⟨e, fun m => (congrArg (· >>= g) (acts m)).trans (fails _)⟩
    · refine .inr ⟨keep &&& keep', put &&& keep' ||| put', fun m => ?_⟩
      refine ((congrArg (· >>= g) (acts m)).trans (acts' _)).trans (congrArg _ ?_)
      ext i
      simp [BitVec.getElem_or, BitVec.getElem_and, Bool.and_or_distrib_right, Bool.and_assoc,
        Bool.or_assoc]

/-- A second application finds all bits as the first has left them. -/
theorem Masking.again (masking : Masking f) {m' : AccessMode} (applied : f m = .ok m') :
    f m' = .ok m' := by
  rcases masking with ⟨e, fails⟩ | ⟨keep, put, acts⟩
  · rw [fails] at applied
    cases applied
  · rw [acts] at applied
    cases applied
    rw [acts]
    congr 1
    ext i
    simp only [BitVec.getElem_or, BitVec.getElem_and]
    cases m[i] <;> cases keep[i] <;> cases put[i] <;> rfl

theorem masking_unmarshalText (text : String) : Masking fun m => m.unmarshalText text := by
  unfold unmarshalText
  cases parseAcs text with
  | error e => exact masking_error e
  | ok m0 =>
    by_cases unset : m0 ≠ modeUnset
    · exact .inr
        ⟨0, m0 &&& modeBitmask, fun m => by simp [bind, Except.bind, unset, pure, Except.pure]⟩
    · simpa [bind, Except.bind, unset, pure, Except.pure] using masking_ok

theorem masking_applyChunk (text : String) (ch : Char) (chunk : List Char) :
    Masking fun m => applyChunk text m ch chunk := by
  unfold applyChunk
  cases parseAcsFrom modeUnset chunk with
  | error e => exact masking_error e
  | ok upd =>
    change Masking fun m => (if ch = '+' then _ else _)
    by_cases unset : upd ≠ modeUnset
    · split_ifs
      · exact .inr ⟨BitVec.allOnes 64, upd &&& modeBitmask, fun m => by rw [BitVec.and_allOnes]; rfl⟩
      · exact .inr ⟨~~~(upd &&& modeBitmask), 0#64, fun m => by rw [BitVec.or_zero]; rfl⟩
      · exact masking_error _
    · split_ifs
      · exact masking_ok
      · exact masking_ok
      · exact masking_error _

theorem masking_applyDeltaFrom (text : String) (delta : List Char) :
    Masking fun m => applyDeltaFrom text m delta := by
  induction length : delta.length using Nat.strong_induction_on generalizing delta with
  | _ n ih =>
    match delta with
    | []
    | [_] =>
      simp only [applyDeltaFrom]
      exact masking_ok
    | ch :: c :: rest =>
      simp only [applyDeltaFrom]
      refine (masking_applyChunk text ch _).bind (ih _ ?_ _ rfl)
      have shorter := (List.dropWhile_sublist (l := c :: rest) fun c => !isSign c).length_le
      simp only [List.length_cons] at shorter length
      omega

theorem masking_applyMutation (mutation : String) : Masking fun m => m.applyMutation mutation := by
  unfold applyMutation applyDelta
  split_ifs
  · exact masking_ok
  · exact masking_ok
  · exact masking_applyDeltaFrom mutation mutation.toList
  · exact masking_unmarshalText mutation

theorem applyMutation_again {m' : AccessMode} {mutation : String}
    (applied : m.applyMutation mutation = .ok m') :
    m'.applyMutation mutation = .ok m' :=
  (masking_applyMutation mutation).again applied

/-- A mode of permissions only. -/
def Valid (m : AccessMode) : Prop := m &&& modeBitmask = m
  deriving Decidable

theorem Valid.isDefined (valid : m.Valid) : m.isDefined := by
  have set : m ≠ modeInvalid ∧ m ≠ modeUnset := by
    constructor <;> rintro rfl <;> exact absurd valid (by decide)
  exact decide_eq_true set

theorem Valid.eq_ofNat (valid : m.Valid) : ∃ k : Fin 256, m = BitVec.ofNat 64 k := by
  have small : m.toNat < 256 := by
    have masked := congrArg BitVec.toNat valid
    rw [BitVec.toNat_and] at masked
    have bound : m.toNat &&& modeBitmask.toNat ≤ 255 := Nat.and_le_right
    omega
  exact ⟨⟨m.toNat, small⟩, (BitVec.ofNat_toNat 64 m).symm⟩

/-- The text of some permissions holds no signs and is parsed as the permissions. -/
structure TextOf (m : AccessMode) (letters : List Char) : Prop where
  parsed : parseAcsFrom modeUnset letters = .ok (modeUnset ||| m)
  some_letter : letters ≠ []
  unsigned : ∀ c ∈ letters, isSign c = false

theorem Valid.string (valid : m.Valid) (some_bit : m ≠ 0) :
    ∃ letters, m.string = String.ofList letters ∧ String.ofList letters ≠ "" ∧ TextOf m letters := by
  have each : ∀ k : Fin 256, BitVec.ofNat 64 k ≠ 0 →
      ∃ letters ∈ AccessMode.marshalText (BitVec.ofNat 64 k),
        parseAcsFrom modeUnset letters = .ok (modeUnset ||| BitVec.ofNat 64 k) ∧
        letters ≠ [] ∧ letters.any isSign = false := by
    decide +kernel
  obtain ⟨k, rfl⟩ := valid.eq_ofNat
  obtain ⟨letters, found, parsed, some_letter, unsigned⟩ := each k some_bit
  refine ⟨letters, by rw [AccessMode.string, found], ?_, parsed, some_letter, fun c mem => ?_⟩
  · intro empty
    exact some_letter (by simpa using congrArg String.toList empty)
  · exact Bool.eq_false_iff.mpr (List.any_eq_false.mp unsigned c mem)

theorem Valid.masked (valid : m.Valid) : (modeUnset ||| m) &&& modeBitmask = m := by
  have apart : modeUnset &&& modeBitmask = 0#64 := by decide
  have distrib :
      (modeUnset ||| m) &&& modeBitmask = (modeUnset &&& modeBitmask) ||| (m &&& modeBitmask) := by
    ext i
    simp [Bool.and_or_distrib_right]
  rw [distrib, apart, valid, BitVec.zero_or]

theorem Valid.set_ne_unset (valid : m.Valid) (some_bit : m ≠ 0) : modeUnset ||| m ≠ modeUnset := by
  intro same
  have apart : modeUnset &&& modeBitmask = 0 := by decide
  exact some_bit (valid.masked.symm.trans ((congrArg (· &&& modeBitmask) same).trans apart))

theorem applyMutation_string (valid : n.Valid) (m : AccessMode) :
    m.applyMutation n.string = .ok n := by
  by_cases none_given : n = 0
  · subst none_given
    rfl
  · obtain ⟨letters, string, nonempty, text⟩ := valid.string none_given
    have unsigned : ¬ letters.any isSign := by
      rw [List.any_eq_true]
      rintro ⟨c, mem, sign⟩
      rw [text.unsigned c mem] at sign
      cases sign
    rw [string, applyMutation, if_neg nonempty, String.toList_ofList, if_neg unsigned,
      unmarshalText, parseAcs, String.toList_ofList, text.parsed]
    change (if modeUnset ||| n ≠ modeUnset then _ else _) = _
    rw [if_pos (valid.set_ne_unset none_given), valid.masked]
    rfl

section

variable (valid : bits.Valid)
include valid

theorem signed_cases (sign : String) :
    (bits = 0 ∧ signed sign bits = "") ∨
      ∃ letters, bits ≠ 0 ∧ TextOf bits letters ∧ (signed sign bits).toList =
        sign.toList ++ letters := by
  by_cases none_changed : bits = 0
  · exact .inl ⟨none_changed, if_neg (not_not.mpr none_changed)⟩
  · obtain ⟨letters, string, nonempty, text⟩ := valid.string none_changed
    refine .inr ⟨letters, none_changed, text, ?_⟩
    rw [signed, if_pos none_changed]
    rw [string, if_pos nonempty, String.toList_append, String.toList_ofList]

omit valid in
/-- The first chunk of a delta is read up to the next sign. -/
theorem applyDeltaFrom_chunk (some_letter : letters ≠ []) (unsigned : ∀ c ∈ letters, isSign c = false)
    (ends : ∀ c ∈ rest.head?, isSign c) :
    applyDeltaFrom text m (ch :: letters ++ rest) =
      applyChunk text m ch letters >>= fun m => applyDeltaFrom text m rest := by
  obtain ⟨c, more, rfl⟩ := List.exists_cons_of_ne_nil some_letter
  have all : ∀ a ∈ c :: more, (!isSign a) := fun a mem => by rw [unsigned a mem]; rfl
  have taken : ((c :: more) ++ rest).takeWhile (fun c => !isSign c) = c :: more := by
    rw [List.takeWhile_append_of_pos all]
    cases rest with
    | nil => rw [List.takeWhile_nil, List.append_nil]
    | cons a rest =>
      have sign : isSign a := ends a rfl
      rw [List.takeWhile_cons_of_neg (by rw [sign]; decide), List.append_nil]
  have dropped : ((c :: more) ++ rest).dropWhile (fun c => !isSign c) = rest := by
    rw [List.dropWhile_append_of_pos all]
    cases rest with
    | nil => rfl
    | cons a rest =>
      have sign : isSign a := ends a rfl
      rw [List.dropWhile_cons_of_neg (by rw [sign]; decide)]
  change applyDeltaFrom text m (ch :: c :: (more ++ rest)) = _
  rw [applyDeltaFrom]
  exact congrArg₂ (fun chunk left => applyChunk text m ch chunk >>= fun m =>
    applyDeltaFrom text m left) taken dropped

theorem applyChunk_text (some_bit : bits ≠ 0) (made : TextOf bits letters) :
    applyChunk text m '+' letters = .ok (m ||| bits) ∧
      applyChunk text m '-' letters = .ok (m &&& ~~~bits) := by
  rw [applyChunk, applyChunk, made.parsed]
  change Except.ok (if modeUnset ||| bits ≠ modeUnset then _ else _) = _ ∧
    Except.ok (if modeUnset ||| bits ≠ modeUnset then _ else _) = _
  rw [if_pos (valid.set_ne_unset some_bit), if_pos (valid.set_ne_unset some_bit), valid.masked]
  exact ⟨rfl, rfl⟩

theorem applyDeltaFrom_added (m : AccessMode) (ends : ∀ c ∈ rest.head?, isSign c) :
    applyDeltaFrom text m ((signed "+" bits).toList ++ rest) =
      applyDeltaFrom text (m ||| bits) rest := by
  rcases signed_cases valid "+" with ⟨rfl, empty⟩ | ⟨letters, some_bit, made, chars⟩
  · have all : m ||| (0 : AccessMode) = m := BitVec.or_zero
    rw [empty, all]
    rfl
  · have plus : "+".toList = ['+'] := by decide
    rw [chars, plus, List.singleton_append, applyDeltaFrom_chunk made.some_letter made.unsigned ends,
      (applyChunk_text valid some_bit made).1]
    rfl

theorem applyDeltaFrom_removed (m : AccessMode) :
    applyDeltaFrom text m (signed "-" bits).toList = .ok (m &&& ~~~bits) := by
  rcases signed_cases valid "-" with ⟨rfl, empty⟩ | ⟨letters, some_bit, made, chars⟩
  · have all : m &&& ~~~(0 : AccessMode) = m := by
      change m &&& ~~~0#64 = m
      rw [BitVec.not_zero, BitVec.and_allOnes]
    rw [empty, all]
    change applyDeltaFrom text m [] = _
    rw [applyDeltaFrom]
  · have minus : "-".toList = ['-'] := by decide
    have last : ∀ c ∈ ([] : List Char).head?, isSign c := fun _ nothing => by cases nothing
    rw [chars, minus, List.singleton_append, ← List.append_nil ('-' :: letters),
      applyDeltaFrom_chunk made.some_letter made.unsigned last,
      (applyChunk_text valid some_bit made).2]
    change applyDeltaFrom text (m &&& ~~~bits) [] = _
    rw [applyDeltaFrom]

theorem signed_head {sign : String} (one : sign.toList = [ch]) :
    ∀ c ∈ (signed sign bits).toList.head?, c = ch := by
  intro c first
  rcases signed_cases valid sign with ⟨-, empty⟩ | ⟨letters, -, -, chars⟩
  · rw [empty] at first
    cases first
  · rw [chars, one] at first
    exact (Option.some_inj.mp first).symm

end

theorem valid_mask_and (m m' : AccessMode) : (modeBitmask &&& m &&& m').Valid := by
  ext i
  simp only [BitVec.getElem_and]
  cases modeBitmask[i] <;> simp

theorem Valid.apply_changes {o : AccessMode} (old : o.Valid) (new : n.Valid) :
    (o ||| (modeBitmask &&& n &&& ~~~o)) &&& ~~~(modeBitmask &&& o &&& ~~~n) = n := by
  ext i bound
  have old_bit : (o[i] && modeBitmask[i]) = o[i] := by
    rw [← BitVec.getElem_and, show o &&& modeBitmask = o from old]
  have new_bit : (n[i] && modeBitmask[i]) = n[i] := by
    rw [← BitVec.getElem_and, show n &&& modeBitmask = n from new]
  simp only [BitVec.getElem_or, BitVec.getElem_and, BitVec.getElem_not]
  revert old_bit new_bit
  cases o[i] <;> cases n[i] <;> cases modeBitmask[i] <;> decide

theorem delta_toList (o n : AccessMode) :
    (o.delta n).toList =
      (signed "+" (modeBitmask &&& n &&& ~~~o)).toList ++
      (signed "-" (modeBitmask &&& o &&& ~~~n)).toList :=
  String.toList_append

theorem delta_head (o n : AccessMode) : ∀ c ∈ (o.delta n).toList.head?, isSign c := by
  intro c first
  have minus := signed_head (valid_mask_and o (~~~n)) (show "-".toList = ['-'] by decide)
  have plus := signed_head (valid_mask_and n (~~~o)) (show "+".toList = ['+'] by decide)
  rw [delta_toList, List.head?_append, Option.mem_def, Option.or_eq_some_iff] at first
  rcases first with first | ⟨-, first⟩
  · rw [plus c first]
    rfl
  · rw [minus c first]
    rfl

/-- Applied to the mode it was computed from, a delta gives the new mode. -/
theorem applyMutation_delta {o : AccessMode} (old : o.Valid) (new : n.Valid) :
    o.applyMutation (o.delta n) = .ok n := by
  have applied : applyDeltaFrom (o.delta n) o (o.delta n).toList = .ok n := by
    have added := valid_mask_and n (~~~o)
    have removed := valid_mask_and o (~~~n)
    have ends : ∀ c ∈ (signed "-" (modeBitmask &&& o &&& ~~~n)).toList.head?, isSign c := by
      intro c first
      rw [signed_head removed (show "-".toList = ['-'] by decide) c first]
      rfl
    rw [delta_toList, applyDeltaFrom_added added o ends, applyDeltaFrom_removed removed,
      old.apply_changes new]
  have head := delta_head o n
  rw [applyMutation]
  split_ifs with empty signs
  · rw [empty] at applied
    change applyDeltaFrom "" o [] = _ at applied
    rwa [applyDeltaFrom] at applied
  · have letter : ¬ (o.delta n = "" ∨ o.delta n = "N") := by
      rintro (none_changed | none_given)
      · exact empty none_changed
      · rw [none_given] at head
        exact absurd (head 'N' rfl) (by decide)
    rw [applyDelta, if_neg letter, applied]
  · exfalso
    cases chars : (o.delta n).toList with
    | nil => exact empty (String.toList_inj.mp chars)
    | cons c rest =>
      rw [chars] at head signs
      exact signs (List.any_eq_true.mpr ⟨c, List.mem_cons_self .., head c rfl⟩)

end LastochkaServer.Source.AccessMode
