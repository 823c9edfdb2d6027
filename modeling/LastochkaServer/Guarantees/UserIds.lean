import LastochkaServer.Source.Topic.Contacts

/-!
# User ids as texts

`uid_texts` says which texts of an id are the one it is printed as, and `p2p_names` which names of
P2P topics are those that `P2PName` makes. The decoder ignores the bits of the last character that
belong to no byte, so that both have other spellings as well.
-/

namespace LastochkaServer.Guarantees.UserIds

open Lib Lib.Bytes Source

theorem uidText_parseUid {text : List Char} (someone : parseUid text ≠ 0) :
    (uidText (parseUid text)).toList = text ↔ spareBits text = 0 := by
  rw [uidText, if_neg someone, String.toList_ofList]
  unfold parseUid at *
  split at someone
  next eleven =>
    rw [if_pos eleven]
    cases decoded : decodeBase64 text with
    | none => simp [decoded] at someone
    | some bytes =>
      have eight : bytes.length = 8 := by rw [decodeBase64_length decoded, eleven]
      dsimp only
      rw [List.take_of_length_le eight.le, encodeLE_word eight]
      exact base64_decoded_iff decoded
  · exact absurd rfl someone

/-- Every id is read back from its text, and a text of a user is the one printed exactly when its
two spare bits are zero. -/
theorem uid_texts :
    (∀ uid, parseUid (uidText uid).toList = uid) ∧
      ∀ text, parseUid text ≠ 0 → ((uidText (parseUid text)).toList = text ↔ spareBits text = 0) :=
  ⟨parseUid_uidText, fun _ someone => uidText_parseUid someone⟩

theorem first_user_text :
    parseUid "AQAAAAAAAAA".toList ≠ 0 ∧ (uidText (parseUid "AQAAAAAAAAA".toList)).toList =
      "AQAAAAAAAAA".toList :=
  ⟨by decide, (uid_texts.2 "AQAAAAAAAAA".toList (by decide)).mpr (by decide)⟩

/-- The user 1 has another text. -/
theorem first_user_respelled :
    parseUid "AQAAAAAAAAB".toList = 1 ∧ (uidText (parseUid "AQAAAAAAAAB".toList)).toList ≠
      "AQAAAAAAAAB".toList := by
  decide

/-- The name of the topic of two users in ascending order. -/
def pairText (a b : Uid) : String :=
  "p2p" ++ String.ofList (base64 (encodeLE 8 a.toNat ++ encodeLE 8 b.toNat))

theorem p2pName_pair {a b : Uid} (someone : a ≠ 0) (less : a < b) :
    p2pName a b = pairText a b ∧ p2pName b a = pairText a b := by
  have other : b ≠ 0 := fun zero => by
    rw [zero] at less
    exact absurd less UInt64.not_lt_zero
  have after : ¬ b < a := UInt64.lt_asymm less
  simp [p2pName, pairText, someone, other, less, after]

theorem pairText_drop (a b : Uid) :
    (pairText a b).toList.drop 3 = base64 (encodeLE 8 a.toNat ++ encodeLE 8 b.toNat) := by
  have three : "p2p".toList.length = 3 := by decide
  rw [pairText, String.toList_append]
  exact (List.drop_left' three).trans String.toList_ofList

theorem parseP2P_pairText (a b : Uid) : parseP2P (pairText a b) = some (a, b) := by
  have length : (base64 (encodeLE 8 a.toNat ++ encodeLE 8 b.toNat)).length = 22 := by
    simp [base64_length]
  unfold parseP2P
  rw [pairText_drop, if_pos ⟨hasPrefix_append .., length⟩, decodeBase64_base64, Option.map_some,
    List.take_left' (encodeLE_length ..), drop_encodeLE,
    List.take_of_length_le (encodeLE_length ..).le, word_encodeLE, word_encodeLE]

/-- A name that is parsed is its prefix and a text of sixteen bytes. -/
theorem parseP2P_text {name : String} {u v : Uid} (parsed : parseP2P name = some (u, v)) :
    name.toList = "p2p".toList ++ name.toList.drop 3 ∧
      decodeBase64 (name.toList.drop 3) = some (encodeLE 8 u.toNat ++ encodeLE 8 v.toNat) := by
  unfold parseP2P at parsed
  dsimp only at parsed
  split at parsed
  next shape =>
    obtain ⟨rest, same⟩ := hasPrefix_iff.mp shape.1
    obtain ⟨bytes, decoded, words⟩ := Option.map_eq_some_iff.mp parsed
    obtain ⟨rfl, rfl⟩ := Prod.mk.inj words
    have length : bytes.length = 16 := by rw [decodeBase64_length decoded, shape.2]
    refine ⟨?_, ?_⟩
    · have three : "p2p".toList.length = 3 := by decide
      rw [← same, List.drop_left' three]
    · rw [encodeLE_word (by simp [length]), encodeLE_word (by simp [length]), decoded,
        List.take_of_length_le (l := bytes.drop 8) (by simp [length]), List.take_append_drop]
  · cases parsed

/-- What is true of the names of the topic of two users. -/
structure PairNamed (a b : Uid) : Prop where
  symmetric : p2pName a b = p2pName b a
  distinct : ∀ c d, c ≠ 0 → d ≠ 0 → c ≠ d → p2pName a b = p2pName c d → a = c ∧ b = d ∨ a = d ∧ b = c
  ascending : parseP2P (p2pName a b) = some (if a < b then (a, b) else (b, a))
  first : p2pNameForUser a (p2pName a b) = some (userId b)
  second : p2pNameForUser b (p2pName a b) = some (userId a)
  /-- Anybody else sees the first of the two. -/
  third : ∀ u, u ≠ a → u ≠ b → p2pNameForUser u (p2pName a b) = some (userId (if a < b then a else b))

theorem parseP2P_p2pName {a b : Uid} (one : a ≠ 0) (two : b ≠ 0) (apart : a ≠ b) :
    parseP2P (p2pName a b) = some (if a < b then (a, b) else (b, a)) := by
  by_cases less : a < b
  · rw [(p2pName_pair one less).1, parseP2P_pairText, if_pos less]
  · have more : b < a := UInt64.lt_of_le_of_ne (UInt64.not_lt.mp less) apart.symm
    rw [(p2pName_pair two more).2, parseP2P_pairText, if_neg less]

theorem pair_named {a b : Uid} (one : a ≠ 0) (two : b ≠ 0) (apart : a ≠ b) : PairNamed a b where
  symmetric := by
    rcases UInt64.lt_or_lt_of_ne apart with less | more
    · rw [(p2pName_pair one less).1, (p2pName_pair one less).2]
    · rw [(p2pName_pair two more).1, (p2pName_pair two more).2]
  distinct c d one' two' apart' same := by
    have pairs := congrArg parseP2P same
    rw [parseP2P_p2pName one two apart, parseP2P_p2pName one' two' apart'] at pairs
    split_ifs at pairs <;> simp_all
  ascending := parseP2P_p2pName one two apart
  first := by
    rw [p2pNameForUser, parseP2P_p2pName one two apart]
    split_ifs <;> simp [apart]
  second := by
    rw [p2pNameForUser, parseP2P_p2pName one two apart]
    split_ifs <;> simp [apart.symm]
  third u first second := by
    rw [p2pNameForUser, parseP2P_p2pName one two apart]
    split_ifs <;> simp [first, second]

/-- The names of P2P topics, and which of the names that are parsed are those of the pairs they are
parsed to. -/
theorem p2p_names :
    (∀ a b, a ≠ 0 → b ≠ 0 → a ≠ b → PairNamed a b) ∧
      ∀ name u v, parseP2P name = some (u, v) →
        (p2pName u v = name ↔ u ≠ 0 ∧ u < v ∧ spareBits (name.toList.drop 3) = 0) := by
  refine ⟨fun a b => pair_named, fun name u v parsed => ?_⟩
  obtain ⟨shape, decoded⟩ := parseP2P_text parsed
  have spelled : pairText u v = name ↔ spareBits (name.toList.drop 3) = 0 := by
    rw [← base64_decoded_iff decoded, ← String.toList_inj, pairText, String.toList_append]
    nth_rewrite 1 [shape]
    rw [List.append_cancel_left_eq, String.toList_ofList]
  constructor
  · intro same
    have named : p2pName u v ≠ "" := fun empty => by
      rw [← same, empty] at parsed
      cases parsed
    have someone : u ≠ 0 ∧ v ≠ 0 := not_or.mp fun zero => named (if_pos zero)
    have apart : u ≠ v := by
      rintro rfl
      exact named (by simp [p2pName])
    have order := parseP2P_p2pName someone.1 someone.2 apart
    rw [same, parsed, Option.some.injEq] at order
    split_ifs at order with less
    · rw [(p2pName_pair someone.1 less).1] at same
      exact ⟨someone.1, less, spelled.mp same⟩
    · exact absurd (congrArg Prod.fst order) apart
  · rintro ⟨someone, less, spare⟩
    rw [(p2pName_pair someone less).1, spelled.mpr spare]

theorem first_pair_named : PairNamed 1 2 ∧ p2pName 1 2 = "p2pAQAAAAAAAAACAAAAAAAAAA" :=
  ⟨p2p_names.1 1 2 (by decide) (by decide) (by decide),
    (p2p_names.2 "p2pAQAAAAAAAAACAAAAAAAAAA" 1 2 (by decide)).mpr (by decide)⟩

/-- A third user gets no error, and there are other names that are parsed: with spare bits, with the
pair in descending order, and with a user twice. -/
theorem pair_respelled :
    p2pNameForUser 3 (p2pName 1 2) = some (userId 1) ∧
      parseP2P "p2pAQAAAAAAAAACAAAAAAAAAB" = some (1, 2) ∧ p2pName 1 2 ≠ "p2pAQAAAAAAAAACAAAAAAAAAB" ∧
      parseP2P "p2pAgAAAAAAAAABAAAAAAAAAA" = some (2, 1) ∧ p2pName 2 1 ≠ "p2pAgAAAAAAAAABAAAAAAAAAA" ∧
      parseP2P "p2pAQAAAAAAAAABAAAAAAAAAA" = some (1, 1) ∧
      p2pName 1 1 ≠ "p2pAQAAAAAAAAABAAAAAAAAAA" := by
  decide

end LastochkaServer.Guarantees.UserIds
