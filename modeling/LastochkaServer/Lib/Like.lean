import Mathlib.Computability.Language

/-!
# SQL `LIKE`

The patterns of `LIKE`: `%` stands for any text, `_` for any character, and a backslash takes the
character after it literally. A pattern denotes a language, and concatenation of patterns is the
product of languages; `like` is the matcher.
-/

namespace LastochkaServer.Lib.Like

inductive Token
  | any
  | one
  | char (c : Char)
  deriving DecidableEq, Repr

/-- A pattern that ends in a backslash is invalid. -/
def parse : List Char → Option (List Token)
  | [] => some []
  | ['\\'] => none
  | '\\' :: c :: pattern => (parse pattern).map (.char c :: ·)
  | '%' :: pattern => (parse pattern).map (.any :: ·)
  | '_' :: pattern => (parse pattern).map (.one :: ·)
  | c :: pattern => (parse pattern).map (.char c :: ·)

def accepts : List Token → List Char → Bool
  | [], s => s.isEmpty
  | .any :: p, s => s.tails.any (accepts p)
  | .one :: p, s =>
    match s with
    | [] => false
    | _ :: s => accepts p s
  | .char c :: p, s =>
    match s with
    | [] => false
    | d :: s => d == c && accepts p s

/-- `s LIKE pattern`; nothing is like an invalid pattern. -/
def like (s pattern : List Char) : Bool := (parse pattern).any (accepts · s)

def Token.language : Token → Language Char
  | .any => ⊤
  | .one => { s | s.length = 1 }
  | .char c => {[c]}

def language (p : List Token) : Language Char := (p.map Token.language).prod

@[simp] theorem language_nil : language [] = 1 := rfl

@[simp] theorem language_cons (t : Token) (p : List Token) :
    language (t :: p) = t.language * language p := List.prod_cons

theorem language_append (p q : List Token) : language (p ++ q) = language p * language q := by
  rw [language, List.map_append, List.prod_append, language, language]

theorem language_chars (w : List Char) : language (w.map .char) = {w} := by
  induction w with
  | nil => rfl
  | cons c w ih =>
    rw [List.map_cons, language_cons, ih]
    ext s
    constructor
    · rintro ⟨_, ⟨rfl⟩, _, ⟨rfl⟩, rfl⟩
      rfl
    · rintro ⟨rfl⟩
      exact ⟨[c], rfl, w, rfl, rfl⟩

/-- The matcher decides the language of the pattern. -/
theorem accepts_iff (p : List Token) (s : List Char) : accepts p s ↔ s ∈ language p := by
  induction p generalizing s with
  | nil => simp [accepts, Language.mem_one, List.isEmpty_iff]
  | cons t p ih =>
    cases t with
    | any =>
      rw [accepts, List.any_eq_true]
      constructor
      · rintro ⟨rest, suffix, found⟩
        obtain ⟨front, rfl⟩ := (List.mem_tails _ _).mp suffix
        exact ⟨front, Set.mem_univ _, rest, (ih rest).mp found, rfl⟩
      · rintro ⟨front, -, rest, found, rfl⟩
        exact ⟨rest, (List.mem_tails _ _).mpr (List.suffix_append _ _), (ih rest).mpr found⟩
    | one =>
      cases s with
      | nil =>
        refine iff_of_false (by simp [accepts]) ?_
        rintro ⟨front, one, rest, -, empty⟩
        rw [(List.append_eq_nil_iff.mp empty).1] at one
        cases one
      | cons c s =>
        rw [accepts, ih]
        constructor
        · exact fun found => ⟨[c], rfl, s, found, rfl⟩
        · rintro ⟨front, one, rest, found, whole⟩
          obtain ⟨d, rfl⟩ := List.length_eq_one_iff.mp one
          cases whole
          exact found
    | char d =>
      cases s with
      | nil =>
        refine iff_of_false (by simp [accepts]) ?_
        rintro ⟨front, one, rest, -, empty⟩
        rw [show front = [d] from one] at empty
        cases empty
      | cons c s =>
        rw [accepts, Bool.and_eq_true, beq_iff_eq, ih]
        constructor
        · rintro ⟨rfl, found⟩
          exact ⟨[c], rfl, s, found, rfl⟩
        · rintro ⟨front, one, rest, found, whole⟩
          rw [show front = [d] from one] at whole
          cases whole
          exact ⟨rfl, found⟩

/-- The character stands for itself. -/
def Plain (c : Char) : Prop := c ≠ '%' ∧ c ≠ '_' ∧ c ≠ '\\'
  deriving Decidable

theorem parse_cons_plain {c : Char} (plain : Plain c) (pattern : List Char) :
    parse (c :: pattern) = (parse pattern).map (.char c :: ·) := by
  obtain ⟨percent, underscore, backslash⟩ := plain
  rw [parse.eq_def]
  split <;> simp_all

theorem parse_append_plain {w : List Char} (plain : ∀ c ∈ w, Plain c) (pattern : List Char) :
    parse (w ++ pattern) = (parse pattern).map (w.map .char ++ ·) := by
  induction w with
  | nil => simp
  | cons c w ih =>
    rw [List.cons_append, parse_cons_plain (plain c (by simp)),
      ih fun d later => plain d (by simp [later])]
    simp [Function.comp_def]

theorem like_iff {s pattern : List Char} :
    like s pattern ↔ ∃ p, parse pattern = some p ∧ s ∈ language p := by
  rw [like, Option.any_eq_true]
  simp [accepts_iff]

/-- A pattern that is searched for after some literal text anywhere in `s`. -/
theorem like_any_plain {w : List Char} (plain : ∀ c ∈ w, Plain c) (s pattern : List Char) :
    like s ('%' :: (w ++ pattern)) ↔
      ∃ front rest, s = front ++ w ++ rest ∧ like rest pattern := by
  rw [like_iff, parse, parse_append_plain plain]
  constructor
  · rintro ⟨p, parsed, found⟩
    obtain ⟨_, inner, rfl⟩ := Option.map_eq_some_iff.mp parsed
    obtain ⟨q, valid, rfl⟩ := Option.map_eq_some_iff.mp inner
    rw [language_cons, language_append, language_chars, Language.mem_mul] at found
    obtain ⟨front, -, middle, found, rfl⟩ := found
    obtain ⟨text, same, rest, matched, rfl⟩ := Language.mem_mul.mp found
    rw [show text = w from same, ← List.append_assoc]
    exact ⟨front, rest, rfl, like_iff.mpr ⟨q, valid, matched⟩⟩
  · rintro ⟨front, rest, rfl, found⟩
    obtain ⟨q, parsed, found⟩ := like_iff.mp found
    refine ⟨.any :: (w.map .char ++ q), by simp [parsed], ?_⟩
    rw [language_cons, language_append, language_chars, List.append_assoc]
    exact Language.mem_mul.mpr ⟨front, Set.mem_univ _, w ++ rest,
      Language.mem_mul.mpr ⟨w, rfl, rest, found, rfl⟩, rfl⟩

end LastochkaServer.Lib.Like
