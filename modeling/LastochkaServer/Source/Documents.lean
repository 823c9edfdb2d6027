import LastochkaServer.Source.Registration

/-!
# Documents

Public, trusted and private values are documents of clients. `mergeInterfaces` and `mergeMaps`
(`server/utils.go:799-877`) merge a document of a request into a stored one: maps are merged field
by field, a text that stands for deletion removes a field, and a null changes nothing.

A Go map is shared by everybody who holds it, so a map that is merged into is changed for its owner
at once, also where the change is not reported: `mergedInPlace` is what the owner sees. What is not
null, a text or a map is copied as it is.
-/

namespace LastochkaServer.Source

open Lib

/-- A value of a client. -/
inductive Doc
  | null
  | text (s : String)
  /-- A number, a truth value or a list. -/
  | other (json : String)
  | map (fields : List (String × Doc))

abbrev Fields := List (String × Doc)

namespace Fields

def field (fields : Fields) (key : String) : Option Doc :=
  (fields.find? fun entry => entry.1 = key).map (·.2)

def delete (fields : Fields) (key : String) : Fields := fields.filter fun entry => entry.1 ≠ key

def set (fields : Fields) (key : String) (val : Doc) : Fields := (key, val) :: delete fields key

end Fields

/-- The fields of a value that may be a map. -/
def Doc.fields : Option Doc → Fields
  | some (.map fields) => fields
  | _ => []

/-- The result of merging `src`. Without anything to merge a value that is no map becomes a nil
map. -/
def Doc.merged (dst : Option Doc) (src fields : Fields) : Doc :=
  match dst, src with
  | some (.map _), _ => .map fields
  | _, [] => .null
  | _, _ => .map fields

mutual

/-- `mergeMaps`: the map, and whether it has changed. -/
def mergeMaps (dst : Fields) : List (String × Doc) → Fields × Bool
  | [] => (dst, false)
  | entry :: rest =>
    let first := mergeEntry dst entry
    let others := mergeMaps first.1 rest
    (others.1, first.2 || others.2)

/-- The body of the loop of `mergeMaps`. -/
def mergeEntry (dst : Fields) : String × Doc → Fields × Bool
  | (key, val) => mergeField dst key val

def mergeField (dst : Fields) (key : String) : Doc → Fields × Bool
  | .null => (dst, false)
  | .text s => (if s = nullValue then Fields.delete dst key else Fields.set dst key (.text s), true)
  | .other json => (Fields.set dst key (.other json), true)
  | .map fields =>
    let inner := mergeMaps (Doc.fields (Fields.field dst key)) fields
    (Fields.set dst key (.merged (Fields.field dst key) fields inner.1), inner.2)

end

def mergeInterfaces (dst src : Doc) : Doc × Bool :=
  match src with
  | .null => (dst, false)
  | .text s =>
    if s = nullValue then (.null, match dst with | .null => false | _ => true) else (.text s, true)
  | .other json => (.other json, true)
  | .map fields =>
    let merged := mergeMaps (Doc.fields (some dst)) fields
    (.merged (some dst) fields merged.1, merged.2)

/-- What the holder of `dst` has afterwards. -/
def mergedInPlace (dst src : Doc) : Doc :=
  match dst, src with
  | .map _, .map _ => (mergeInterfaces dst src).1
  | _, _ => dst

/-- What is read of a public value. -/
def profileOf : Doc → Option Profile
  | .map fields => some
      { uname := match Fields.field fields "uname" with | some (.text s) => s | _ => ""
        fn := match Fields.field fields "fn" with | some (.text s) => some s | _ => none }
  | _ => none

/-- `extractPublicAddress`. -/
def addressOf (env : AccountEnv) (pub : Doc) : Option String :=
  extractPublicAddress env (profileOf pub)

/-- `processAvatarPhoto`, where `compressed` is the smaller picture if there is one. -/
def processAvatarPhoto (compressed : Fields → Option Doc) (pub : Fields) : Fields :=
  match compressed pub with
  | some photo => Fields.set pub "photo" photo
  | none => pub

end LastochkaServer.Source
