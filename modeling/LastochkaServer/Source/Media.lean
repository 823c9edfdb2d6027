import Mathlib.Data.List.Forall2
import Mathlib.Data.Nat.Basic

/-!
# Media

`resizeImage` of `server/avatar_processor.go:123-155`. The colours are left out, and no product is
too large for an `int`, since decoders make images of less than 2^31 pixels a side.

`ParseCORSAllow` and `matchCORSOrigin` of `server/media/media.go:73-166`.
-/

namespace LastochkaServer.Source

/-- The size of the result, and the pixels of the source that are looked at. -/
def resizeImage (w h maxSide : Nat) : (Nat × Nat) × List (Nat × Nat) :=
  if w ≤ maxSide ∧ h ≤ maxSide then ((w, h), [])
  else
    let newW := if h < w then maxSide else w * maxSide / h
    let newH := if h < w then h * maxSide / w else maxSide
    ((newW, newH), (List.range newH).flatMap fun y => (List.range newW).map fun x =>
      (x * w / newW, y * h / newH))

/-- What is read of a `url.URL`. -/
structure Url where
  scheme : String := ""
  hostname : String := ""
  port : String := ""

/-- `url.ParseRequestURI`, which does not take an empty text. -/
structure UrlParser where
  parse : String → Except String Url
  empty : ∃ err, parse "" = .error err

structure AllowedOrigin where
  origin : String
  url : Url := {}
  hostParts : List (List Char) := []
  hasWildcard : Bool := false

variable (lib : UrlParser)

/-- `strings.Split(u.Hostname(), ".")`. -/
def Url.labels (u : Url) : List (List Char) := u.hostname.toList.splitOn '.'

/-- The body of the loop of `ParseCORSAllow`. -/
def parseAllowed (several : Bool) (val : String) : Except String AllowedOrigin :=
  if val = "*" then
    if several then .error "wildcard origin '*' must be the only entry"
    else .ok { origin := val, hasWildcard := true }
  else if val = "" then
    if several then .error "empty allowed origin '' must be the only entry" else .ok { origin := val }
  else do
    let u ← lib.parse val
    return { origin := val, url := u, hostParts := u.labels, hasWildcard := '*' ∈ u.hostname.toList }

def parseCORSAllow (allowed : List String) : Except String (List AllowedOrigin) :=
  allowed.mapM (parseAllowed lib (1 < allowed.length))

/-- The body of the loop of `matchCORSOrigin`. -/
def AllowedOrigin.matches (val : AllowedOrigin) (originUrl : Url) : Bool :=
  val.hasWildcard && originUrl.scheme = val.url.scheme && originUrl.port = val.url.port &&
    originUrl.labels.length = val.hostParts.length &&
    (val.hostParts.zip originUrl.labels).all fun (part, label) => part = ['*'] || part = label

def matchCORSOrigin (allowed : List AllowedOrigin) (origin : String) : String :=
  match allowed with
  | [] => ""
  | first :: _ =>
    if origin = "" ∧ first.origin ≠ "*" then ""
    else if first.origin = "*" then if origin = "" then "*" else origin
    else if first.origin = "" then ""
    else
      match lib.parse origin with
      | .error _ => ""
      | .ok originUrl =>
        if allowed.any fun val => val.origin = origin || val.matches originUrl then origin else ""

end LastochkaServer.Source
