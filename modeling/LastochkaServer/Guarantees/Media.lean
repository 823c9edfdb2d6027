import LastochkaServer.Lib.Except
import LastochkaServer.Source.Media

/-!
# Media

The longer side of an avatar is brought down to the limit and the shorter one in proportion, rounded
down (`resized_iff`). Nothing keeps it from becoming zero.

An origin is allowed just when the list of allowed origins says so (`origin_allowed`).
-/

namespace LastochkaServer.Guarantees.Media

open Lib Source

/-- Neither side is zero or above the limit, the longer one is the limit if the source was larger,
and all pixels that are read are pixels of the source. -/
structure Resized (w h maxSide : Nat) (size : Nat × Nat) (sampled : List (Nat × Nat)) : Prop where
  width : 1 ≤ size.1 ∧ size.1 ≤ maxSide
  height : 1 ≤ size.2 ∧ size.2 ≤ maxSide
  longer : maxSide < max w h → max size.1 size.2 = maxSide
  inside : ∀ p ∈ sampled, p.1 < w ∧ p.2 < h

theorem scaled {a b : Nat} (maxSide : Nat) (pos : 0 < b) (less : a ≤ b) :
    (1 ≤ a * maxSide / b ↔ b ≤ a * maxSide) ∧ a * maxSide / b ≤ maxSide := by
  refine ⟨?_, Nat.div_le_of_le_mul (Nat.mul_le_mul_right _ less)⟩
  rw [Nat.le_div_iff_mul_le pos, Nat.one_mul]

/-- An image is resized properly unless its longer side is more than `maxSide` times the shorter
one. -/
theorem resized_iff (w h maxSide : Nat) (wide : 0 < w) (high : 0 < h) (positive : 0 < maxSide) :
    Resized w h maxSide (resizeImage w h maxSide).1 (resizeImage w h maxSide).2 ↔
      max w h ≤ min w h * maxSide := by
  have least := Nat.le_mul_of_pos_left maxSide (Nat.lt_min.mpr ⟨wide, high⟩)
  have inside (newW newH : Nat) :
      ∀ p ∈ (List.range newH).flatMap fun y => (List.range newW).map fun x =>
      (x * w / newW, y * h / newH), p.1 < w ∧ p.2 < h := by
    intro p sampled
    simp only [List.mem_flatMap, List.mem_map, List.mem_range] at sampled
    obtain ⟨y, below, x, before, rfl⟩ := sampled
    exact ⟨Nat.div_lt_of_lt_mul (Nat.mul_lt_mul_of_pos_right before wide),
      Nat.div_lt_of_lt_mul (Nat.mul_lt_mul_of_pos_right below high)⟩
  unfold resizeImage
  by_cases small : w ≤ maxSide ∧ h ≤ maxSide
  · rw [if_pos small]
    exact iff_of_true ⟨⟨wide, small.1⟩, ⟨high, small.2⟩, by omega, by simp⟩ (by omega)
  rw [if_neg small]
  by_cases landscape : h < w
  · have less := Nat.le_of_lt landscape
    obtain ⟨nonempty, shorter⟩ := scaled maxSide wide less
    simp only [if_pos landscape, max_eq_left less, min_eq_right less, ← nonempty]
    exact ⟨fun resized => resized.height.1, fun pixels =>
      ⟨⟨positive, le_rfl⟩, ⟨pixels, shorter⟩, fun _ => max_eq_left shorter, inside _ _⟩⟩
  · have less := Nat.not_lt.mp landscape
    obtain ⟨nonempty, shorter⟩ := scaled maxSide high less
    simp only [if_neg landscape, max_eq_right less, min_eq_left less, ← nonempty]
    exact ⟨fun resized => resized.width.1, fun pixels =>
      ⟨⟨pixels, shorter⟩, ⟨positive, le_rfl⟩, fun _ => max_eq_right shorter, inside _ _⟩⟩

theorem photo_resized : Resized 400 300 200 (200, 150) (resizeImage 400 300 200).2 :=
  (resized_iff 400 300 200 (by decide) (by decide) (by decide)).mpr (by decide)

/-- A line of 400 pixels becomes an image without pixels. -/
theorem line_vanishes : (resizeImage 400 1 200).1 = (200, 0) ∧
    ¬ Resized 400 1 200 (resizeImage 400 1 200).1 (resizeImage 400 1 200).2 :=
  ⟨rfl, fun resized => absurd resized.height.1 (by decide)⟩

/-- The entry has a wildcard, and the same scheme, port and labels as the origin where it has
none. -/
def Matches (lib : UrlParser) (entry origin : String) : Prop :=
  ∃ u o, lib.parse entry = .ok u ∧ lib.parse origin = .ok o ∧ '*' ∈ u.hostname.toList ∧
    o.scheme = u.scheme ∧
    o.port = u.port ∧ List.Forall₂ (fun part label => part = ['*'] ∨ part = label) u.labels o.labels

/-- What the list of allowed origins says. -/
def Allowed (lib : UrlParser) (entries : List String) (origin : String) : Prop :=
  entries ≠ [""] ∧ (entries = ["*"] ∨ origin ∈ entries ∨ ∃ entry ∈ entries, Matches lib entry origin)

variable {lib : UrlParser} {several : Bool} {val origin : String} {entry : AllowedOrigin}

theorem parseAllowed_ok (ran : parseAllowed lib several val = .ok entry) : entry.origin = val ∧
    ((val = "*" ∨ val = "") ∧ several = false ∨ val ≠ "*" ∧ val ≠ "" ∧ ∃ u, lib.parse val = .ok u ∧
      entry.url = u ∧ entry.hostParts = u.labels ∧
      entry.hasWildcard = decide ('*' ∈ u.hostname.toList)) := by
  unfold parseAllowed at ran
  split_ifs at ran with any many empty many
  · cases ran
    exact ⟨rfl, .inl ⟨.inl any, Bool.not_eq_true _ ▸ many⟩⟩
  · cases ran
    exact ⟨rfl, .inl ⟨.inr empty, Bool.not_eq_true _ ▸ many⟩⟩
  · obtain ⟨u, parsed, ran⟩ := bind_ok ran
    cases ran
    exact ⟨rfl, .inr ⟨any, empty, u, parsed, rfl, rfl, rfl⟩⟩

theorem mapM_ok {f : String → Except String AllowedOrigin} {entries : List String}
    {allowed : List AllowedOrigin}
    (ran : entries.mapM f = .ok allowed) :
    List.Forall₂ (fun val entry => f val = .ok entry) entries allowed := by
  induction entries generalizing allowed with
  | nil =>
    cases ran
    exact .nil
  | cons val rest ih =>
    rw [List.mapM_cons] at ran
    obtain ⟨entry, first, ran⟩ := bind_ok ran
    obtain ⟨others, later, ran⟩ := bind_ok ran
    cases ran
    exact .cons first (ih later)

theorem matches_iff {o u : Url} (parsed : lib.parse val = .ok u) (known : lib.parse origin = .ok o)
    (url : entry.url = u) (parts : entry.hostParts = u.labels)
    (wildcard : entry.hasWildcard = decide ('*' ∈ u.hostname.toList)) :
    entry.matches o ↔ Matches lib val origin := by
  have labels : List.Forall₂ (fun part label => part = ['*'] ∨ part = label) u.labels o.labels ↔ _ :=
    List.forall₂_iff_zip
  simp only [AllowedOrigin.matches, url, parts, wildcard, Bool.and_eq_true, Bool.or_eq_true,
    decide_eq_true_eq, List.all_eq_true, Prod.forall]
  constructor
  · rintro ⟨⟨⟨⟨starred, scheme⟩, port⟩, sizes⟩, pairs⟩
    exact ⟨u, o, parsed, known, starred, scheme, port, labels.mpr ⟨sizes.symm, pairs _ _⟩⟩
  · rintro ⟨u', o', parsed', known', starred, scheme, port, agree⟩
    cases parsed.symm.trans parsed'
    cases known.symm.trans known'
    obtain ⟨sizes, pairs⟩ := labels.mp agree
    exact ⟨⟨⟨⟨starred, scheme⟩, port⟩, sizes.symm⟩, fun _ _ => pairs⟩

theorem exists_mem_iff {α β : Type} {related : α → β → Prop} {p : α → Prop} {q : β → Prop}
    {xs : List α} {ys : List β}
    (pairs : List.Forall₂ related xs ys) (same : ∀ x ∈ xs, ∀ y, related x y → (p x ↔ q y)) :
    (∃ x ∈ xs, p x) ↔ ∃ y ∈ ys, q y := by
  induction pairs with
  | nil => simp
  | cons first _ ih =>
    obtain ⟨head, rest⟩ := List.forall_mem_cons.mp same
    simp [head _ first, ih rest]

/-- An origin that is allowed is returned, with `*` for a request without one; for any other the
answer is empty. -/
theorem origin_allowed (lib : UrlParser) {entries : List String} {allowed : List AllowedOrigin}
    (accepted : parseCORSAllow lib entries = .ok allowed) (origin : String) :
    (Allowed lib entries origin →
      matchCORSOrigin lib allowed origin = if origin = "" then "*" else origin) ∧
    (¬ Allowed lib entries origin → matchCORSOrigin lib allowed origin = "") := by
  have entered := mapM_ok accepted
  have pairs := entered
  cases entered with
  | nil => simp [Allowed, matchCORSOrigin]
  | @cons val entry rest others first later =>
    obtain ⟨named, ⟨special, single⟩ | ⟨any, noText, -⟩⟩ := parseAllowed_ok first
    · -- the entry is the only one
      have alone : rest = [] := by simpa using single
      subst alone
      cases later
      rcases special with rfl | rfl <;> simp [Allowed, matchCORSOrigin, named]
    have ordinary : ∀ x ∈ val :: rest, ∀ y, parseAllowed lib (1 < (val :: rest).length) x = .ok y →
        y.origin = x ∧ ∃ u, lib.parse x = .ok u ∧ ∀ o, lib.parse origin = .ok o →
          (y.matches o ↔ Matches lib x origin) := by
      intro x mem y ran
      obtain ⟨same, ⟨special, single⟩ | ⟨-, -, u, parsed, url, parts, wildcard⟩⟩ :=
        parseAllowed_ok ran
      · have alone : rest = [] := by simpa using single
        subst alone
        cases List.mem_singleton.mp mem
        exact absurd special (not_or.mpr ⟨any, noText⟩)
      · exact ⟨same, u, parsed, fun o known => matches_iff parsed known url parts wildcard⟩
    have said : Allowed lib (val :: rest) origin ↔ ∃ x ∈ val :: rest, x = origin ∨
        Matches lib x origin := by
      simp only [Allowed, ne_eq, List.cons.injEq, any, noText, false_and, not_false_eq_true,
        true_and, false_or, and_or_left, exists_or, exists_eq_right]
    rw [said]
    cases known : lib.parse origin with
    | error err =>
      have refused : ¬ ∃ x ∈ val :: rest, x = origin ∨ Matches lib x origin := by
        rw [exists_mem_iff (q := fun _ => False) pairs fun x mem y ran => iff_of_false ?_ id]
        · simp
        · obtain ⟨-, u, parsed, -⟩ := ordinary x mem y ran
          rintro (rfl | ⟨u, o, -, known', -⟩)
          · cases known.symm.trans parsed
          · cases known.symm.trans known'
      exact ⟨fun allowed => absurd allowed refused,
        fun _ => by simp [matchCORSOrigin, named, any, noText, known]⟩
    | ok o =>
      have sent : origin ≠ "" := by
        rintro rfl
        obtain ⟨err, empty⟩ := lib.empty
        cases empty.symm.trans known
      have found : (∃ x ∈ val :: rest, x = origin ∨ Matches lib x origin) ↔
          ∃ y ∈ entry :: others, y.origin = origin ∨ y.matches o := by
        refine exists_mem_iff pairs fun x mem y ran => ?_
        obtain ⟨same, u, parsed, agrees⟩ := ordinary x mem y ran
        rw [same, agrees o known]
      rw [found]
      simp only [matchCORSOrigin, named, any, noText, sent, known, if_false, false_and]
      constructor
      · intro listed
        exact if_pos (by simpa using listed)
      · intro missing
        exact if_neg (by simpa using missing)

/-- A parser that knows two texts. -/
def twoUrls : UrlParser where
  parse text :=
    if text = "https://*.org" then .ok { scheme := "https", hostname := "*.org" }
    else if text = "https://a.org" then .ok { scheme := "https", hostname := "a.org" }
    else .error "invalid URI for request"
  empty := ⟨_, rfl⟩

theorem wildcard_allowed : ∃ allowed, parseCORSAllow twoUrls ["https://*.org"] = .ok allowed ∧
    matchCORSOrigin twoUrls allowed "https://a.org" = "https://a.org" := by
  have accepted : parseCORSAllow twoUrls ["https://*.org"] = .ok _ := rfl
  refine ⟨_, accepted,
    (origin_allowed twoUrls accepted "https://a.org").1 ⟨by decide, .inr (.inr ?_)⟩⟩
  refine ⟨_, .head _, _, _, rfl, rfl, by decide, rfl, rfl, ?_⟩
  exact .cons (.inl rfl) (.cons (.inr rfl) .nil)

end LastochkaServer.Guarantees.Media
