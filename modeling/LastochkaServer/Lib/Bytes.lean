import Mathlib.Data.List.Basic
import Mathlib.Tactic.Ring

/-!
# Bytes

Little-endian numbers of a fixed width, as `encoding/binary` writes and reads them, and the base64
text of a sequence of bytes in the alphabet for URLs, without padding.
-/

namespace LastochkaServer.Lib.Bytes

def encodeLE : Nat → Nat → List UInt8
  | 0, _ => []
  | k + 1, n => UInt8.ofNat n :: encodeLE k (n / 256)

def decodeLE : List UInt8 → Nat
  | [] => 0
  | b :: bs => b.toNat + 256 * decodeLE bs

@[simp] theorem encodeLE_length (k n : Nat) : (encodeLE k n).length = k := by
  induction k generalizing n with
  | zero => rfl
  | succ k ih => rw [encodeLE, List.length_cons, ih]

theorem decodeLE_encodeLE (k n : Nat) : decodeLE (encodeLE k n) = n % 256 ^ k := by
  induction k generalizing n with
  | zero => simp [encodeLE, decodeLE, Nat.mod_one]
  | succ k ih =>
    rw [encodeLE, decodeLE, ih, pow_succ', Nat.mod_mul]
    rfl

@[simp] theorem decodeLE_take_encodeLE (k n : Nat) (rest : List UInt8) :
    decodeLE ((encodeLE k n ++ rest).take k) = n % 256 ^ k := by
  rw [List.take_left' (encodeLE_length k n), decodeLE_encodeLE]

@[simp] theorem drop_encodeLE (k n : Nat) (rest : List UInt8) :
    (encodeLE k n ++ rest).drop k = rest := List.drop_left' (encodeLE_length k n)

def base64Alphabet : List Char :=
  "ABCDEFGHIJKLMNOPQRSTUVWXYZabcdefghijklmnopqrstuvwxyz0123456789-_".toList

def base64Char (n : Nat) : Char := base64Alphabet.getD (n % 64) 'A'

/-- `base64.RawURLEncoding`. -/
def base64 : List UInt8 → List Char
  | [] => []
  | [a] => [base64Char (a.toNat / 4), base64Char (a.toNat * 16)]
  | [a, b] =>
    [base64Char (a.toNat / 4), base64Char (a.toNat * 16 + b.toNat / 16), base64Char (b.toNat * 4)]
  | a :: b :: c :: rest =>
    base64Char (a.toNat / 4) :: base64Char (a.toNat * 16 + b.toNat / 16) ::
      base64Char (b.toNat * 4 + c.toNat / 64) :: base64Char c.toNat :: base64 rest

theorem base64Char_mem (n : Nat) : base64Char n ∈ base64Alphabet := by
  have index : n % 64 < base64Alphabet.length := Nat.mod_lt _ (by decide)
  rw [base64Char, List.getD_eq_getElem?_getD, List.getElem?_eq_getElem index, Option.getD_some]
  exact List.getElem_mem index

theorem base64_alphabet (bs : List UInt8) : ∀ c ∈ base64 bs, c ∈ base64Alphabet := by
  fun_induction base64 bs with
  | case1 => simp
  | case2
  | case3 => simp [base64Char_mem]
  | case4 a b c rest ih => simpa [base64Char_mem] using ih

theorem base64_length (bs : List UInt8) : (base64 bs).length = (bs.length * 8 + 5) / 6 := by
  fun_induction base64 bs with
  | case1 => rfl
  | case2 => simp
  | case3 => simp
  | case4 a b c rest ih =>
    simp only [List.length_cons, ih]
    omega

/-- The value of a character of the alphabet. -/
def base64Digit (c : Char) : Option Nat := base64Alphabet.idxOf? c

/-- What `base64.RawURLEncoding` decodes a text to; the bits left over at its end are ignored. -/
def decodeBase64 : List Char → Option (List UInt8)
  | [] => some []
  | [_] => none
  | [a, b] => do
    let a ← base64Digit a
    let b ← base64Digit b
    return [UInt8.ofNat (a * 4 + b / 16)]
  | [a, b, c] => do
    let a ← base64Digit a
    let b ← base64Digit b
    let c ← base64Digit c
    return [UInt8.ofNat (a * 4 + b / 16), UInt8.ofNat (b * 16 + c / 4)]
  | a :: b :: c :: d :: rest => do
    let a ← base64Digit a
    let b ← base64Digit b
    let c ← base64Digit c
    let d ← base64Digit d
    let bytes ← decodeBase64 rest
    return UInt8.ofNat (a * 4 + b / 16) :: UInt8.ofNat (b * 16 + c / 4) ::
      UInt8.ofNat (c * 64 + d) :: bytes

@[simp] theorem base64Digit_base64Char (n : Nat) : base64Digit (base64Char n) = some (n % 64) := by
  have every : ∀ i : Fin 64, base64Digit (base64Alphabet.getD i 'A') = some i.val := by decide +kernel
  exact every ⟨n % 64, Nat.mod_lt _ (by decide)⟩

variable {n : Nat} {c : Char} {text : List Char} {bytes : List UInt8}

theorem ofNat_eq_byte {b : UInt8} (low : n % 256 = b.toNat) : UInt8.ofNat n = b := by
  apply UInt8.toNat_inj.mp
  exact low

theorem decodeBase64_base64 (bs : List UInt8) : decodeBase64 (base64 bs) = some bs := by
  fun_induction base64 bs with
  | case1 => rfl
  | case2 a =>
    have low : a.toNat < 256 := a.toNat_lt
    simp only [decodeBase64, base64Digit_base64Char, Option.bind_eq_bind, Option.bind_some]
    rw [ofNat_eq_byte (b := a) (by omega)]
    rfl
  | case3 a b =>
    have lowA : a.toNat < 256 := a.toNat_lt
    have lowB : b.toNat < 256 := b.toNat_lt
    simp only [decodeBase64, base64Digit_base64Char, Option.bind_eq_bind, Option.bind_some]
    rw [ofNat_eq_byte (b := a) (by omega), ofNat_eq_byte (b := b) (by omega)]
    rfl
  | case4 a b c rest ih =>
    have lowA : a.toNat < 256 := a.toNat_lt
    have lowB : b.toNat < 256 := b.toNat_lt
    have lowC : c.toNat < 256 := c.toNat_lt
    simp only [decodeBase64, base64Digit_base64Char, Option.bind_eq_bind, Option.bind_some, ih]
    rw [ofNat_eq_byte (b := a) (by omega), ofNat_eq_byte (b := b) (by omega),
      ofNat_eq_byte (b := c) (by omega)]
    rfl

theorem base64Digit_lt (read : base64Digit c = some n) : n < 64 :=
  (List.idxOf?_eq_some_iff.mp read).1

/-- A character of the alphabet is written for its own value only. -/
theorem base64Char_eq_iff (read : base64Digit c = some n) (m : Nat) :
    base64Char m = c ↔ m % 64 = n := by
  constructor
  · rintro rfl
    exact Option.some.inj ((base64Digit_base64Char m).symm.trans read)
  · rintro rfl
    obtain ⟨index, found, -⟩ := List.idxOf?_eq_some_iff.mp read
    rw [base64Char, List.getD_eq_getElem?_getD, List.getElem?_eq_getElem index, found,
      Option.getD_some]

/-- The bits of the last character that belong to no byte: the decoder ignores them. -/
def spareBits : List Char → Nat
  | [_, b] => (base64Digit b).getD 0 % 16
  | [_, _, c] => (base64Digit c).getD 0 % 4
  | _ :: _ :: _ :: _ :: rest => spareBits rest
  | _ => 0

theorem decodeBase64_length (decoded : decodeBase64 text = some bytes) :
    bytes.length = text.length * 6 / 8 := by
  fun_induction decodeBase64 text generalizing bytes with
  | case1 =>
    cases decoded
    rfl
  | case2 => cases decoded
  | case3 | case4 =>
    simp only [Option.bind_eq_bind, Option.bind_eq_some_iff, Option.some.injEq,
      Option.pure_def] at decoded
    grind
  | case5 a b c d rest ih =>
    simp only [Option.bind_eq_bind, Option.bind_eq_some_iff, Option.some.injEq,
      Option.pure_def] at decoded
    obtain ⟨-, -, -, -, -, -, -, -, bytes, read, rfl⟩ := decoded
    simp only [List.length_cons, ih read]
    omega

/-- A text that is decoded is the text of its bytes exactly when its spare bits are zero. -/
theorem base64_decoded_iff (decoded : decodeBase64 text = some bytes) :
    base64 bytes = text ↔ spareBits text = 0 := by
  fun_induction decodeBase64 text generalizing bytes with
  | case1 =>
    cases decoded
    simp [base64, spareBits]
  | case2 => cases decoded
  | case3 a b =>
    simp only [Option.bind_eq_bind, Option.bind_eq_some_iff, Option.some.injEq,
      Option.pure_def] at decoded
    obtain ⟨x, readA, y, readB, rfl⟩ := decoded
    have lowA := base64Digit_lt readA
    have lowB := base64Digit_lt readB
    simp only [base64, List.cons.injEq, and_true, base64Char_eq_iff readA, base64Char_eq_iff readB,
      spareBits, readB, Option.getD_some, UInt8.toNat_ofNat']
    omega
  | case4 a b c =>
    simp only [Option.bind_eq_bind, Option.bind_eq_some_iff, Option.some.injEq,
      Option.pure_def] at decoded
    obtain ⟨x, readA, y, readB, z, readC, rfl⟩ := decoded
    have lowA := base64Digit_lt readA
    have lowB := base64Digit_lt readB
    have lowC := base64Digit_lt readC
    simp only [base64, List.cons.injEq, and_true, base64Char_eq_iff readA, base64Char_eq_iff readB,
      base64Char_eq_iff readC, spareBits, readC, Option.getD_some, UInt8.toNat_ofNat']
    omega
  | case5 a b c d rest ih =>
    simp only [Option.bind_eq_bind, Option.bind_eq_some_iff, Option.some.injEq,
      Option.pure_def] at decoded
    obtain ⟨x, readA, y, readB, z, readC, t, readD, bytes, read, rfl⟩ := decoded
    have lowA := base64Digit_lt readA
    have lowB := base64Digit_lt readB
    have lowC := base64Digit_lt readC
    have lowD := base64Digit_lt readD
    have same := ih read
    simp only [base64, List.cons.injEq, base64Char_eq_iff readA, base64Char_eq_iff readB,
      base64Char_eq_iff readC, base64Char_eq_iff readD, spareBits, same, UInt8.toNat_ofNat']
    omega

theorem decodeLE_lt (bs : List UInt8) : decodeLE bs < 256 ^ bs.length := by
  induction bs with
  | nil => simp [decodeLE]
  | cons b rest ih =>
    have low : b.toNat < 256 := b.toNat_lt
    rw [decodeLE, List.length_cons, pow_succ]
    omega

theorem encodeLE_decodeLE (bs : List UInt8) : encodeLE bs.length (decodeLE bs) = bs := by
  induction bs with
  | nil => rfl
  | cons b rest ih =>
    have low : b.toNat < 256 := b.toNat_lt
    have next : (b.toNat + 256 * decodeLE rest) / 256 = decodeLE rest := by omega
    rw [List.length_cons, decodeLE, encodeLE, next, ih, ofNat_eq_byte (b := b) (by omega)]

theorem word_encodeLE (n : UInt64) : UInt64.ofNat (decodeLE (encodeLE 8 n.toNat)) = n := by
  rw [decodeLE_encodeLE, Nat.mod_eq_of_lt (n.toNat_lt.trans_eq (by norm_num))]
  exact UInt64.ofNat_toNat

theorem encodeLE_word {bs : List UInt8} (eight : bs.length = 8) :
    encodeLE 8 (UInt64.ofNat (decodeLE bs)).toNat = bs := by
  have low : decodeLE bs < 2 ^ 64 := (decodeLE_lt bs).trans_eq (by rw [eight]; norm_num)
  rw [UInt64.toNat_ofNat', Nat.mod_eq_of_lt low]
  nth_rewrite 1 [← eight]
  exact encodeLE_decodeLE bs

end LastochkaServer.Lib.Bytes
