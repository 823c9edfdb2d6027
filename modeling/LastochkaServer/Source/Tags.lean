import LastochkaServer.Source.Auth.Reset
import LastochkaServer.Source.SliceDelta

/-!
# Tags

Tags make users and topics searchable (`server/utils.go:30-39, 346-512`). A tag may have a prefix
that names a namespace. Namespaces of the server are restricted: clients must not assign their tags.

The Unicode tables that the source uses are a parameter.
-/

namespace LastochkaServer.Source

/-- The blanks of ASCII. -/
def asciiSpace (c : Char) : Bool := c == ' ' || decide (9 ≤ c.toNat ∧ c.toNat ≤ 13)

/-- The classes of characters that are asked for, of which ASCII is fixed. -/
structure Unicode extends LetterCase where
  isSpace : Char → Bool
  isLetter : Char → Bool
  isDigit : Char → Bool
  /-- `\pN`, of which the digits are a part. -/
  isNumber : Char → Bool
  space_lower : ∀ c, isSpace (lower c) = isSpace c
  space_ascii : ∀ c, c.toNat < 128 → isSpace c = asciiSpace c
  letter_ascii : ∀ c, c.toNat < 128 → isLetter c = c.isAlpha
  digit_ascii : ∀ c, c.toNat < 128 → isDigit c = c.isDigit
  number_ascii : ∀ c, c.toNat < 128 → isNumber c = c.isDigit

namespace Unicode

variable (u : Unicode)

def trimSpace (s : String) : String :=
  String.ofList ((s.toList.dropWhile u.isSpace).reverse.dropWhile u.isSpace).reverse

/-- `strings.ToLower(strings.TrimSpace(s))`. -/
def lowerTrim (s : String) : String := u.toLower (u.trimSpace s)

end Unicode

/-- The text that stands for a deleted value. -/
def nullValue : String := "␡"

def minTagLength : Nat := 2
def maxTagLength : Nat := 96

section

variable (u : Unicode)

/-- The length and the first character of a tag are acceptable. -/
def wellFormedTag (tag : String) : Bool :=
  let chars := tag.toList
  decide (minTagLength ≤ chars.length) && decide (chars.length ≤ maxTagLength) &&
    chars.head?.any fun c => u.isLetter c || u.isDigit c

/-- The loop over the sorted tags; `none` when a deleted value is met. -/
def keepTags (prev : String) : List String → Option (List String)
  | [] => some []
  | curr :: rest =>
    if curr = nullValue then none
    else if wellFormedTag u curr ∧ curr ≠ prev then (curr :: ·) <$> keepTags curr rest
    else keepTags prev rest

/-- The tags that are looked at, sorted: what `normalizeTags` makes of its argument in place. -/
def sortedTags (maxTags : Nat) (src : List String) : List String :=
  sortStrings ((src.take maxTags).map u.lowerTrim)

/-- `normalizeTags`. The result is nil when no tags are left, and empty but not nil when a deleted
value is among them. -/
def normalizeTags (maxTags : Nat) (src : List String) : Option (List String) :=
  match keepTags u "" (sortedTags u maxTags src) with
  | none => some []
  | some [] => none
  | some tags => some tags

/-- The argument of `normalizeTags` afterwards: the tags beyond the maximum are not touched. -/
def normalizedInPlace (maxTags : Nat) (src : List String) : List String :=
  sortedTags u maxTags src ++ src.drop maxTags

/-- `\w`. -/
def isWordChar (c : Char) : Bool := c.isAlphanum || c == '_'

def isTagChar (c : Char) : Bool :=
  ['-', '_', '+', '.', '!', '?', '#', '@'].contains c || u.isLetter c || u.isNumber c

/-- `tagRegexp`. -/
def isTagBody (body : List Char) : Bool :=
  decide (1 ≤ body.length) && decide (body.length ≤ 96) && body.all (isTagChar u)

/-- `prefixedTagRegexp`: the prefix and the body. -/
def prefixedTag (tag : String) : Option (String × String) :=
  let front := tag.toList.takeWhile (· ≠ ':')
  let body := (tag.toList.dropWhile (· ≠ ':')).drop 1
  let named :=
    decide (2 ≤ front.length) && decide (front.length ≤ 16) && front.head?.any Char.isLower &&
    front.all isWordChar
  if ':' ∈ tag.toList ∧ named ∧ isTagBody u body then some (String.ofList front, String.ofList body)
  else none

def validateTag (tag : String) : String × String :=
  match prefixedTag u tag with
  | some parts => parts
  | none => if isTagBody u tag.toList then ("", tag) else ("", "")

def filterTags (tags : List String) (namespaces : List String) : List String :=
  tags.filter fun tag => (prefixedTag u tag).any fun parts => namespaces.contains parts.1

def restrictedTagsEqual (oldTags newTags : List String) (namespaces : List String) : Bool :=
  sortStrings (filterTags u oldTags namespaces) = sortStrings (filterTags u newTags namespaces)

end

end LastochkaServer.Source
