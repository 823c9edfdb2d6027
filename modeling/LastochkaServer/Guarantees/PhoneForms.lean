import LastochkaServer.Guarantees.LoginMigration

/-!
# Forms of telephone numbers

The number that the availability check looks for and the one that the migration endpoint takes
(`server/check_availability.go:163-184`, `server/legacy_migration.go:222-245`).

Both normal forms stay as they are when they are normalised again. The check keeps every decimal
digit of Unicode and the endpoint only those of ASCII, so they take a text for the same number just
when it has no other digits (`forms_agree_iff`).
-/

namespace LastochkaServer.Guarantees.PhoneForms

open Source

variable (u : Unicode)

def asciiDigit (c : Char) : Bool := '0' ≤ c ∧ c ≤ '9'

/-- What `normalizeRussianPhone` makes of the digits. -/
def russianDigits (digits : List Char) : List Char :=
  let digits := match digits with
    | '8' :: rest => '7' :: rest
    | digits => digits
  if digits.length = 10 then '7' :: digits else digits

/-- Both normal forms are fixed points, and the check and the endpoint mean the same number by the
text. -/
structure Agree (value : String) : Prop where
  russian : normalizeRussianPhone u (normalizeRussianPhone u value) = normalizeRussianPhone u value
  digits : normalizePhoneForAvailability u (normalizePhoneForAvailability u value).1 =
    normalizePhoneForAvailability u value
  e164 : normalizePhoneForAvailability u (normalizePhoneForAvailability u value).2 =
    normalizePhoneForAvailability u value
  same : isValidRussianMobilePhone (normalizeRussianPhone u value) →
    normalizePhoneForAvailability u value =
    (normalizeRussianPhone u value, "+" ++ normalizeRussianPhone u value)

variable {u} {c : Char} {digits : List Char}

theorem asciiDigit_isDigit (digit : asciiDigit c) :
    u.isDigit c ∧ u.isSpace c = false ∧ c.utf8Size = 1 := by
  have range : 48 ≤ c.toNat ∧ c.toNat ≤ 57 := by
    simpa [asciiDigit, Char.le_def, UInt32.le_iff_toNat_le] using digit
  rw [u.digit_ascii c (by omega), u.space_ascii c (by omega)]
  refine ⟨?_, ?_, ?_⟩
  · simpa [Char.isDigit, UInt32.le_iff_toNat_le] using range
  · have other : c ≠ ' ' := fun same => by simp [same] at range
    rw [asciiSpace, Bool.or_eq_false_iff, beq_eq_false_iff_ne, decide_eq_false_iff_not]
    exact ⟨other, by omega⟩
  · have small : c.val ≤ 127 := UInt32.le_iff_toNat_le.mpr (le_trans range.2 (by decide))
    simp [Char.utf8Size, small]

theorem filter_dropWhile {p q : Char → Bool} (apart : ∀ c, p c → q c = false) (l : List Char) :
    (l.dropWhile q).filter p = l.filter p := by
  induction l with
  | nil => rfl
  | cons c l ih =>
    rw [List.dropWhile_cons]
    split
    · next dropped =>
      have other : ¬ p c := fun kept => by simp [apart c kept] at dropped
      rw [ih, List.filter_cons_of_neg other]
    · rfl

variable (value : String)

theorem normalizeRussianPhone_toList :
    (normalizeRussianPhone u value).toList = russianDigits (value.toList.filter asciiDigit) := by
  have apart (c : Char) (digit : asciiDigit c) : u.isSpace c = false := (asciiDigit_isDigit digit).2.1
  have trimmed : (u.trimSpace value).toList.filter asciiDigit = value.toList.filter asciiDigit := by
    rw [Unicode.trimSpace, String.toList_ofList, List.filter_reverse, filter_dropWhile apart,
      List.filter_reverse, List.reverse_reverse, filter_dropWhile apart]
  rw [← trimmed]
  exact String.toList_ofList

theorem mem_russianDigits (mem : c ∈ russianDigits digits) : c = '7' ∨ c ∈ digits := by
  unfold russianDigits at mem
  grind

theorem of_mem_completeDigits (mem : c ∈ completeDigits digits) : c = '7' ∨ c ∈ digits := by
  unfold completeDigits at mem
  grind

theorem mem_completeDigits (mem : c ∈ digits) : c = '8' ∨ c ∈ completeDigits digits := by
  unfold completeDigits
  grind

theorem russianDigits_again : russianDigits (russianDigits digits) = russianDigits digits := by
  unfold russianDigits
  grind

theorem byteLength_cons :
    byteLength (String.ofList (c :: digits)) = c.utf8Size + byteLength (String.ofList digits) := by
  simp [byteLength]

theorem byteLength_ascii (ascii : ∀ c ∈ digits, asciiDigit c) :
    byteLength (String.ofList digits) = digits.length := by
  induction digits with
  | nil => rfl
  | cons c digits ih =>
    obtain ⟨first, rest⟩ := List.forall_mem_cons.mp ascii
    rw [byteLength_cons, ih rest, (asciiDigit_isDigit (u := InviteAccounting.ascii) first).2.2,
      List.length_cons, Nat.add_comm]

theorem completeDigits_again : completeDigits (completeDigits digits) = completeDigits digits := by
  have seven : '7'.utf8Size = 1 := rfl
  unfold completeDigits
  grind [byteLength_cons]

/-- A mobile number is completed in the same way, if it is written in characters of one byte. -/
theorem completeDigits_valid (bytes : byteLength (String.ofList digits) = digits.length)
    (long : (russianDigits digits).length = 11) (mobile : ['7', '9'] <+: russianDigits digits) :
    completeDigits digits = russianDigits digits := by
  have seven : '7'.utf8Size = 1 := rfl
  have eight : '8'.utf8Size = 1 := rfl
  unfold completeDigits russianDigits at *
  grind [byteLength_cons]

theorem isDigit_of_mem {value : String} (mem : c ∈ completeDigits (value.toList.filter u.isDigit)) :
    u.isDigit c := by
  rcases of_mem_completeDigits mem with rfl | mem
  · exact u.digit_ascii '7' (by decide)
  · exact (List.mem_filter.mp mem).2

theorem availability_fst :
    (normalizePhoneForAvailability u value).1.toList =
    completeDigits (value.toList.filter u.isDigit) := by
  simp only [normalizePhoneForAvailability]
  split
  · next empty => rw [empty]; rfl
  · exact String.toList_ofList

theorem availability_snd :
    (normalizePhoneForAvailability u value).2.toList.filter u.isDigit =
    completeDigits (value.toList.filter u.isDigit) := by
  have plus : u.isDigit '+' = false := u.digit_ascii '+' (by decide)
  simp only [normalizePhoneForAvailability]
  split
  · next empty => rw [empty]; rfl
  · simpa [plus] using fun c => isDigit_of_mem

theorem availability_again {form value : String}
    (same : form.toList.filter u.isDigit = completeDigits (value.toList.filter u.isDigit)) :
    normalizePhoneForAvailability u form = normalizePhoneForAvailability u value := by
  simp only [normalizePhoneForAvailability, same, completeDigits_again]
  by_cases noDigits : value.toList.filter u.isDigit = []
  · rw [noDigits]
    rfl
  · obtain ⟨c, mem⟩ := List.exists_mem_of_ne_nil _ noDigits
    have someDigits : completeDigits (value.toList.filter u.isDigit) ≠ [] := by
      unfold completeDigits
      grind
    rw [if_neg someDigits, if_neg noDigits]

theorem normalizeRussianPhone_again :
    normalizeRussianPhone u (normalizeRussianPhone u value) = normalizeRussianPhone u value := by
  have digits : ∀ c ∈ russianDigits (value.toList.filter asciiDigit), asciiDigit c := by
    intro c mem
    rcases mem_russianDigits mem with rfl | mem
    · decide
    · exact (List.mem_filter.mp mem).2
  rw [← String.toList_inj, normalizeRussianPhone_toList, normalizeRussianPhone_toList,
    List.filter_eq_self.mpr digits, russianDigits_again]

/-- The check keeps a digit that the endpoint drops. -/
theorem same_iff {value : String}
    (valid : isValidRussianMobilePhone (normalizeRussianPhone u value)) :
    normalizePhoneForAvailability u value =
      (normalizeRussianPhone u value, "+" ++ normalizeRussianPhone u value) ↔
      ∀ c ∈ value.toList, u.isDigit c → asciiDigit c := by
  have number := normalizeRussianPhone_toList (u := u) value
  constructor
  · intro same c mem digit
    have digits := availability_fst (u := u) value
    rw [same, number] at digits
    rcases mem_completeDigits (List.mem_filter.mpr ⟨mem, digit⟩) with rfl | mem
    · decide
    · rw [← digits] at mem
      rcases mem_russianDigits mem with rfl | mem
      · decide
      · exact (List.mem_filter.mp mem).2
  · intro ascii
    have same : value.toList.filter u.isDigit = value.toList.filter asciiDigit :=
      List.filter_congr fun c mem =>
        Bool.eq_iff_iff.mpr ⟨ascii c mem, fun digit => (asciiDigit_isDigit digit).1⟩
    obtain ⟨long, mobile⟩ : (russianDigits (value.toList.filter asciiDigit)).length = 11 ∧
        ['7', '9'] <+: russianDigits (value.toList.filter asciiDigit) := by
      simpa [isValidRussianMobilePhone, number] using valid
    have nonempty : value.toList.filter asciiDigit ≠ [] :=
      fun empty => by simp [empty, russianDigits] at long
    have complete :=
      completeDigits_valid (byteLength_ascii fun c mem => (List.mem_filter.mp mem).2) long mobile
    simp only [normalizePhoneForAvailability, same, if_neg nonempty, complete, ← number,
      String.ofList_toList]

/-- The text has no digits that only the availability check takes for digits, if it is a mobile
number. -/
theorem forms_agree_iff (u : Unicode) (value : String) :
    Agree u value ↔ (isValidRussianMobilePhone (normalizeRussianPhone u value) →
      ∀ c ∈ value.toList, u.isDigit c → asciiDigit c) := by
  have digits : (normalizePhoneForAvailability u value).1.toList.filter u.isDigit =
      completeDigits (value.toList.filter u.isDigit) := by
    rw [availability_fst]
    exact List.filter_eq_self.mpr fun c => isDigit_of_mem
  refine ⟨fun agree valid => (same_iff valid).mp (agree.same valid), fun ascii => ?_⟩
  exact ⟨normalizeRussianPhone_again value, availability_again digits,
    availability_again (availability_snd value), fun valid => (same_iff valid).mpr (ascii valid)⟩

/-- ASCII and the Arabic digit three. -/
def withArabicThree : Unicode :=
  { InviteAccounting.ascii with
    isDigit := fun c => c.isDigit || c == '٣'
    digit_ascii := fun c small => by
      have other : c ≠ '٣' := fun same => by simp [same] at small
      simp [other] }

theorem arabic_three_kept : ¬ Agree withArabicThree "79161234567٣" := by
  intro agree
  have same := agree.same (by decide)
  revert same
  decide

end LastochkaServer.Guarantees.PhoneForms
